/-! Code points, of which a text may hold more than characters: escapes can write one half of a
surrogate pair without the other. -/

set_option autoImplicit false

namespace KernelAtlas.Text

inductive CodePoint where
  | scalar (c : Char)
  | surrogate (value : Nat)
  deriving DecidableEq, Repr

namespace CodePoint

def isHigh (value : Nat) : Bool := 0xD800 ≤ value && value < 0xDC00

def isLow (value : Nat) : Bool := 0xDC00 ≤ value && value < 0xE000

def ofUnit (value : Nat) : CodePoint :=
  if isHigh value || isLow value then .surrogate value else .scalar (Char.ofNat value)

def ofPair (high low : Nat) : Char := Char.ofNat (0x10000 + (high - 0xD800) * 0x400 + (low - 0xDC00))

/-- One more code point behind others, the latest of which stands first. A low surrogate makes one
character with a high one in front of it. -/
def push (read : List CodePoint) (next : CodePoint) : List CodePoint :=
  match read, next with
  | .surrogate high :: earlier, .surrogate low =>
    if isHigh high && isLow low then .scalar (ofPair high low) :: earlier else next :: read
  | _, _ => next :: read

def scalar? : CodePoint → Option Char
  | scalar c => some c
  | surrogate _ => none

/-- A surrogate that stands alone is no character; U+FFFD takes its place. -/
def char : CodePoint → Char
  | scalar c => c
  | surrogate _ => Char.ofNat 0xFFFD

theorem push_scalar (read : List CodePoint) (c : Char) : push read (.scalar c) = .scalar c :: read := by
  unfold push
  split
  · contradiction
  · rfl

end CodePoint

/-- A text in which surrogates may stand alone. -/
abbrev Points := List CodePoint

def codePoints (text : String) : Points := text.toList.map .scalar

instance : Coe String Points := ⟨codePoints⟩

def ofPoints? (points : Points) : Option String := (points.mapM CodePoint.scalar?).map String.ofList

@[simp] theorem ofPoints?_codePoints (text : String) : ofPoints? (codePoints text) = some text := by
  have chars (list : List Char) : (list.map CodePoint.scalar).mapM CodePoint.scalar? = some list := by
    induction list with
    | nil => rfl
    | cons c rest ih => simp [CodePoint.scalar?, ih]
  simp [ofPoints?, codePoints, chars]

end KernelAtlas.Text
