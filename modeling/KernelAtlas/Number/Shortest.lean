import KernelAtlas.Number.Binary64

/-! The shortest decimal text of a binary fraction.

The text of a number has the fewest digits that still lie nearer to it than to any neighbouring number;
of two such texts the nearer is taken. -/

set_option autoImplicit false

namespace KernelAtlas.Shortest

open Binary64 (Positive power significandBits leastExponent)

/-- Whether a decimal reads back as the number: it lies between the midpoints to the neighbours, and
on a midpoint only if the significand is even. -/
def admits (number : Positive) (decimal : Rat) : Bool :=
  let unit := power 2 number.exponent
  let below :=
    if number.significand = Nat.pow 2 (significandBits - 1) ∧ leastExponent < number.exponent then unit / 4 else unit / 2
  let low := number.value - below
  let high := number.value + unit / 2
  if number.significand % 2 = 0 then low ≤ decimal && decimal ≤ high else low < decimal && decimal < high

def decimalExponent (value : Rat) : Int :=
  if 1 ≤ value then (Nat.toDigits 10 value.floor.toNat).length - 1
  else
    let inverse := 1 / value
    let places := (Nat.toDigits 10 inverse.floor.toNat).length
    if 1 ≤ value * power 10 (places - 1 : Nat) then -(places - 1 : Nat) else -(places : Int)

structure Decimal where
  digits : Nat
  scale : Int

def Decimal.value (decimal : Decimal) : Rat := decimal.digits * power 10 decimal.scale

def withDigits? (number : Positive) (count : Nat) : Option Decimal :=
  let scale := decimalExponent number.value - count + 1
  let low : Decimal := ⟨(number.value / power 10 scale).floor.toNat, scale⟩
  let high : Decimal := ⟨low.digits + 1, scale⟩
  match admits number low.value, admits number high.value with
  | true, true =>
    let down := number.value - low.value
    let up := high.value - number.value
    some (if down < up ∨ (down = up ∧ low.digits % 2 = 0) then low else high)
  | true, false => some low
  | false, true => some high
  | false, false => none

/-- Seventeen digits always suffice. -/
def shortest (number : Positive) : Decimal :=
  ((List.range 17).findSome? fun count => withDigits? number (count + 1)).getD ⟨0, 0⟩

def significant (decimal : Decimal) : List Char × Int :=
  let all := Nat.toDigits 10 decimal.digits
  let kept := (all.reverse.dropWhile (· == '0')).reverse
  (kept, decimal.scale + all.length)

/-- Numbers from 10⁻⁴ up to 10¹⁶ are written positionally with at least one place, all others with an
exponent of at least two digits. -/
def layout (digits : List Char) (point : Int) : List Char :=
  if -3 ≤ point ∧ point ≤ 16 then
    if point ≤ 0 then '0' :: '.' :: List.replicate (-point).toNat '0' ++ digits
    else
      let whole := point.toNat
      let front := digits.take whole ++ List.replicate (whole - digits.length) '0'
      let places := digits.drop whole
      front ++ '.' :: (if places.isEmpty then ['0'] else places)
  else
    let exponent := point - 1
    let size := Nat.toDigits 10 exponent.natAbs
    let mantissa :=
      match digits with
      | [] => []
      | [c] => [c]
      | c :: rest => c :: '.' :: rest
    mantissa ++ 'e' :: (if exponent < 0 then '-' else '+') :: List.replicate (2 - size.length) '0' ++ size

def magnitude (value : Rat) : List Char :=
  let (digits, point) := significant (shortest (.nearest value))
  layout digits point

def signed (negative : Bool) (text : List Char) : String := String.ofList (if negative then '-' :: text else text)

end KernelAtlas.Shortest

namespace KernelAtlas.Binary64

def text : Binary64 → String
  | finite negative value => Shortest.signed negative (if value = 0 then ['0', '.', '0'] else Shortest.magnitude value)
  | infinite negative => Shortest.signed negative ['i', 'n', 'f']

end KernelAtlas.Binary64
