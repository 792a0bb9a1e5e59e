import KernelAtlas.Text.CodePoint

/-! Slash-separated paths.

A path is a text; it is taken apart into the slashes that root it and its components. Normalising
drops empty and `.` components and lets `..` cancel the component in front of it. Exactly two leading
slashes are kept as they are; any other number of them counts as one. -/

set_option autoImplicit false

namespace KernelAtlas.Path

/-- A path taken apart: the number of slashes that root it, and its components. -/
structure Parts where
  slashes : Nat
  names : List (List Char)
  deriving DecidableEq, Repr

def rootSlashes : List Char → Nat
  | '/' :: '/' :: '/' :: _ => 1
  | '/' :: '/' :: _ => 2
  | '/' :: _ => 1
  | _ => 0

def components (path : List Char) : List (List Char) := path.splitOn '/'

def push (slashes : Nat) (kept : List (List Char)) (name : List Char) : List (List Char) :=
  if name = [] ∨ name = ['.'] then kept
  else if name = ['.', '.'] then
    match kept with
    | [] => if slashes = 0 then [name] else []
    | last :: rest => if last = ['.', '.'] then name :: kept else rest
  else name :: kept

def reduce (path : List Char) : Parts :=
  let slashes := rootSlashes path
  ⟨slashes, ((components path).foldl (push slashes) []).reverse⟩

/-- A path put together; without any component and slash it is `.`. -/
def Parts.render (parts : Parts) : List Char :=
  match List.replicate parts.slashes '/' ++ ['/'].intercalate parts.names with
  | [] => ['.']
  | path => path

def normalizeChars (path : List Char) : List Char := (reduce path).render

def baseNameChars (path : List Char) : List Char :=
  (path.reverse.takeWhile (· ≠ '/')).reverse

def joinChars (directory name : List Char) : List Char :=
  if name.head? = some '/' then name
  else if directory = [] ∨ directory.getLast? = some '/' then directory ++ name
  else directory ++ '/' :: name

theorem joinChars_of_relative (directory : List Char) {name : List Char} (relative : name.head? ≠ some '/') :
    joinChars directory name = joinChars directory [] ++ name := by
  by_cases closed : directory = [] ∨ directory.getLast? = some '/' <;> simp [joinChars, relative, closed]

theorem slash_notMem_baseNameChars (path : List Char) : '/' ∉ baseNameChars path := by
  intro member
  have kept := List.all_eq_true.mp (List.all_takeWhile (p := (· ≠ '/')) (l := path.reverse)) '/'
    (List.mem_reverse.mp member)
  simp at kept

def isAbsolute (path : String) : Bool := path.toList.head? == some '/'

def normalize (path : String) : String := String.ofList (normalizeChars path.toList)

def baseName (path : String) : String := String.ofList (baseNameChars path.toList)

def join (directory name : String) : String := String.ofList (joinChars directory.toList name.toList)

/-- A name below a directory, also one in which surrogates stand alone. -/
def joinPoints (directory : String) (name : Text.Points) : Text.Points :=
  if name.head? = some (.scalar '/') then name else Text.codePoints (join directory "") ++ name

theorem joinPoints_codePoints (directory name : String) :
    joinPoints directory (Text.codePoints name) = Text.codePoints (join directory name) := by
  have head : ((Text.codePoints name).head? = some (.scalar '/')) ↔ name.toList.head? = some '/' := by
    cases chars : name.toList <;> simp [Text.codePoints, chars]
  by_cases absolute : name.toList.head? = some '/'
  · simp [joinPoints, head.mpr absolute, join, joinChars, absolute]
  · rw [joinPoints, if_neg (mt head.mp absolute)]
    simp [join, joinChars_of_relative directory.toList absolute, Text.codePoints]

end KernelAtlas.Path
