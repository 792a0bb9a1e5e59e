import KernelAtlas.Text.CodePoint

/-! Diagnostics: failures that make a result smaller and never stop it. -/

set_option autoImplicit false

namespace KernelAtlas

namespace Diagnostic

inductive Kind where
  | missingBuildDirectory
  | unreadableFile
  | noKernelSymbol
  | noSourceFileMatch
  | demangleUnavailable
  deriving DecidableEq, Repr

namespace Kind

def name : Kind → String
  | missingBuildDirectory => "missing_build_directory"
  | unreadableFile => "unreadable_file"
  | noKernelSymbol => "no_kernel_symbol"
  | noSourceFileMatch => "no_source_file_match"
  | demangleUnavailable => "demangle_unavailable"

def all : List Kind :=
  [missingBuildDirectory, unreadableFile, noKernelSymbol, noSourceFileMatch, demangleUnavailable]

def ofName? (text : String) : Option Kind := all.find? fun kind => kind.name = text

@[simp] theorem ofName?_name (kind : Kind) : ofName? kind.name = some kind := by
  cases kind <;> decide

end Kind

end Diagnostic

structure Diagnostic where
  kind : Diagnostic.Kind
  message : String
  path : Option Text.Points
  /-- A line of the file at `path`, counted from zero. -/
  line : Option Int
  deriving DecidableEq, Repr

namespace Diagnostic

open Text (Points codePoints)

/-- Where the failure is; an empty path counts as none. -/
def place (diagnostic : Diagnostic) : Points :=
  match diagnostic.path with
  | none | some [] => []
  | some path =>
    match diagnostic.line with
    | none => codePoints " (" ++ path ++ codePoints ")"
    | some line => codePoints " (" ++ path ++ codePoints s!":{line})"

def text (diagnostic : Diagnostic) : Points :=
  codePoints s!"{diagnostic.kind.name}: {diagnostic.message}" ++ diagnostic.place

/-- Diagnostics in the order in which they were reported. -/
structure Sink where
  diagnostics : List Diagnostic

namespace Sink

def empty : Sink := ⟨[]⟩

def size (sink : Sink) : Nat := sink.diagnostics.length

def report (sink : Sink) (diagnostic : Diagnostic) : Sink := ⟨sink.diagnostics ++ [diagnostic]⟩

def ofKind (sink : Sink) (kind : Kind) : List Diagnostic := sink.diagnostics.filter (·.kind = kind)

end Sink

end Diagnostic

end KernelAtlas
