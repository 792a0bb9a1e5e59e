/-! The built-in templates of the reports, by the names of their files. -/

set_option autoImplicit false

namespace KernelAtlas.Report

inductive Template where
  | kernels
  | search
  | diff
  deriving DecidableEq, Repr

namespace Template

def fileName : Template → String
  | kernels => "kernels.j2"
  | search => "matches.j2"
  | diff => "diff.j2"

def all : List Template := [kernels, search, diff]

structure Missing where
  name : String
  deriving DecidableEq, Repr

def Missing.message (missing : Missing) : String := s!"Template file not found: {missing.name}"

def ofFileName (name : String) : Except Missing Template :=
  match all.find? fun template => template.fileName = name with
  | some template => .ok template
  | none => .error ⟨name⟩

@[simp] theorem ofFileName_fileName (template : Template) : ofFileName template.fileName = .ok template := by
  cases template <;> rfl

end Template

end KernelAtlas.Report
