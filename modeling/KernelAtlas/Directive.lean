import KernelAtlas.Text.Digit

/-! The four directives that matter: source locations, source files, text sections and exported
symbols.

Each recogniser reads from the front of a line and ignores what follows the part that it needs. Its
pieces are maximal runs of one class, and neighbouring classes have no character in common, so a line
can be read in one way only. -/

set_option autoImplicit false

namespace KernelAtlas.Directive

open Text

def after? : (word text : List Char) → Option (List Char)
  | [], text => some text
  | _ :: _, [] => none
  | w :: word, c :: text => if w = c then after? word text else none

theorem after?_eq_some_iff (word text rest : List Char) : after? word text = some rest ↔ text = word ++ rest := by
  induction word generalizing text with
  | nil => simp [after?]
  | cons w word ih =>
    cases text with
    | nil => simp [after?]
    | cons c text =>
      by_cases same : w = c
      · simp [after?, same, ih]
      · simp [after?, same, Ne.symm same]

def run? (member : Char → Bool) (text : List Char) : Option (List Char × List Char) :=
  match text.takeWhile member with
  | [] => none
  | run => some (run, text.dropWhile member)

theorem run?_eq_some_iff (member : Char → Bool) (text run rest : List Char) :
    run? member text = some (run, rest) ↔
      text = run ++ rest ∧ run ≠ [] ∧ (∀ c ∈ run, member c = true) ∧ ∀ c, rest.head? = some c → member c = false := by
  constructor
  · intro read
    unfold run? at read
    split at read
    · exact absurd read (by simp)
    · rename_i filled
      obtain ⟨rfl, rfl⟩ := Prod.mk.inj (Option.some.inj read)
      refine ⟨List.takeWhile_append_dropWhile.symm, filled, ?_, ?_⟩
      · intro c present
        exact List.all_eq_true.mp List.all_takeWhile c present
      · intro c first
        have refused := List.head?_dropWhile_not member text
        rw [first] at refused
        simpa using refused
  · rintro ⟨rfl, filled, inside, outside⟩
    have taken : (run ++ rest).takeWhile member = run := by
      rw [List.takeWhile_append_of_pos inside]
      cases rest with
      | nil => simp
      | cons c rest => simp [outside c rfl]
    have dropped : (run ++ rest).dropWhile member = rest := by
      rw [List.dropWhile_append_of_pos inside]
      cases rest with
      | nil => simp
      | cons c rest => simp [outside c rfl]
    unfold run?
    rw [taken, dropped]
    cases run with
    | nil => exact absurd rfl filled
    | cons c run => rfl

def gap? (text : List Char) : Option (List Char) := (run? isBlank text).map Prod.snd

def opening? (name : List Char) (line : List Char) : Option (List Char) := do
  let rest ← after? name (line.dropWhile isBlank)
  gap? rest

def string? : List Char → Option (List Char × List Char)
  | '"' :: text => do
    let (body, rest) ← run? (· ≠ '"') text
    let rest ← after? ['"'] rest
    return (body, rest)
  | _ => none

structure Loc where
  file : List Char
  line : List Char
  deriving DecidableEq, Repr

/-- `.loc` file line column. The column is required and not used. -/
def loc? (line : List Char) : Option Loc := do
  let rest ← opening? ".loc".toList line
  let (file, rest) ← run? isDigit rest
  let rest ← gap? rest
  let (number, rest) ← run? isDigit rest
  let rest ← gap? rest
  let _ ← run? isDigit rest
  return ⟨file, number⟩

structure File where
  id : List Char
  first : List Char
  second : Option (List Char)
  deriving DecidableEq, Repr

/-- `.file` id "path", or `.file` id "directory" "name". -/
def file? (line : List Char) : Option File := do
  let rest ← opening? ".file".toList line
  let (id, rest) ← run? isDigit rest
  let rest ← gap? rest
  let (first, rest) ← string? rest
  let second := do
    let rest ← gap? rest
    let (second, _) ← string? rest
    return second
  return ⟨id, first, second⟩

/-- `.section .text.`, with any name after it. -/
def opensTextSection (line : List Char) : Bool :=
  ((opening? ".section".toList line).bind (after? ".text.".toList)).isSome

def globl? (line : List Char) : Option (List Char) := do
  let rest ← opening? ".globl".toList line
  let (symbol, _) ← run? (fun c => !isBlank c) rest
  return symbol

end KernelAtlas.Directive
