import KernelAtlas.Text.Digit

/-! Numerals: runs of decimal digits and the numbers that they stand for.

A numeral of more than 4300 digits is refused, leading zeros counted, so that reading a number takes
a bounded time. Nor is such a numeral written. -/

set_option autoImplicit false

namespace KernelAtlas.Numeral

open KernelAtlas.Text

def digitLimit : Nat := 4300

structure Oversize where
  digits : Nat
  deriving DecidableEq, Repr

def Oversize.message (refused : Oversize) : String :=
  s!"Exceeds the limit ({digitLimit} digits) for integer string conversion: value has {refused.digits} digits; "
    ++ "use sys.set_int_max_str_digits() to increase the limit"

def value (digits : List Char) : Nat :=
  digits.foldl (fun total c => 10 * total + digitValue c) 0

def read (digits : List Char) : Except Oversize Nat :=
  if digits.length ≤ digitLimit then .ok (value digits) else .error ⟨digits.length⟩

inductive Unwritable where
  | oversize
  deriving DecidableEq, Repr

def Unwritable.message : Unwritable → String
  | oversize =>
    s!"Exceeds the limit ({digitLimit} digits) for integer string conversion; "
      ++ "use sys.set_int_max_str_digits() to increase the limit"

def write (value : Int) : Except Unwritable String :=
  if value.natAbs < Nat.pow 10 digitLimit then .ok (toString value) else .error .oversize

theorem read_eq_error_iff (digits : List Char) (refused : Oversize) :
    read digits = .error refused ↔ digitLimit < digits.length ∧ refused = ⟨digits.length⟩ := by
  unfold read
  split
  · simp; omega
  · simp only [Except.error.injEq, eq_comm]
    constructor
    · rintro rfl; exact ⟨by omega, rfl⟩
    · rintro ⟨_, rfl⟩; rfl

/-- Blanks that may surround a signed numeral: all but the control separators. -/
def isPadding (c : Char) : Bool :=
  isBlank c && !(0x1C ≤ c.toNat && c.toNat ≤ 0x1F)

/-- The digits of a numeral in which single low lines may stand between two digits. -/
def ungrouped? : List Char → Option (List Char)
  | [] => none
  | [c] => if isDigit c then some [c] else none
  | c :: '_' :: rest => if isDigit c then (ungrouped? rest).map (c :: ·) else none
  | c :: rest => if isDigit c then (ungrouped? rest).map (c :: ·) else none

/-- The integer that an argument gives: padding around it, a sign in front, low lines between its
digits. -/
def signed? (text : List Char) : Option Int :=
  let core := ((text.dropWhile isPadding).reverse.dropWhile isPadding).reverse
  let (negative, numeral) :=
    match core with
    | '-' :: rest => (true, rest)
    | '+' :: rest => (false, rest)
    | rest => (false, rest)
  match ungrouped? numeral with
  | none => none
  | some digits =>
    match read digits with
    | .error _ => none
    | .ok magnitude => some (if negative then -(magnitude : Int) else magnitude)

end KernelAtlas.Numeral
