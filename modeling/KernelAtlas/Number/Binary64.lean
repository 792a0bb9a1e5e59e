/-! Binary fractions with a significand of 53 bits, the numbers in which times and durations are kept.

A number stands for an exact rational value. Arithmetic is exact; its results, and decimals that are
read, are rounded to the nearest number, a half to the one with the even significand. -/

set_option autoImplicit false

namespace KernelAtlas

namespace Binary64

def power (base : Nat) : Int → Rat
  | .ofNat n => (Nat.pow base n : Nat)
  | .negSucc n => 1 / ((Nat.pow base (n + 1) : Nat) : Rat)

def roundEven (value : Rat) : Nat :=
  let low := value.floor.toNat
  let rest := value - (low : Rat)
  if rest < 1 / 2 then low
  else if 1 / 2 < rest then low + 1
  else if low % 2 = 0 then low else low + 1

def binaryExponent (value : Rat) : Int :=
  let guess : Int := (Nat.log2 value.num.toNat : Int) - Nat.log2 value.den
  if value < power 2 guess then guess - 1 else guess

structure Positive where
  significand : Nat
  exponent : Int
  deriving DecidableEq, Repr

def significandBits : Nat := 53

def leastExponent : Int := -1074

namespace Positive

/-- The number nearest to a positive value, were there no greatest one. -/
def nearest (value : Rat) : Positive :=
  let exponent := max (binaryExponent value - (significandBits - 1 : Nat)) leastExponent
  ⟨roundEven (value / power 2 exponent), exponent⟩

def value (number : Positive) : Rat := number.significand * power 2 number.exponent

end Positive

def limit : Rat := power 2 1024

end Binary64

open Binary64

/-- A number of the format: a sign with the value of a finite magnitude, or with none. Zero has a sign. -/
inductive Binary64 where
  | finite (negative : Bool) (magnitude : Rat)
  | infinite (negative : Bool)
  deriving DecidableEq, Repr

namespace Binary64

def ofMagnitude (negative : Bool) (magnitude : Rat) : Binary64 :=
  if magnitude = 0 then .finite negative 0
  else
    let rounded := (Positive.nearest magnitude).value
    if rounded < limit then .finite negative rounded else .infinite negative

def ofRat (value : Rat) : Binary64 :=
  if value < 0 then ofMagnitude true (-value) else ofMagnitude false value

/-- Decimal orders of magnitude past which all decimals are infinite, or else zero. -/
def decimalReach : Nat := 400

def ofDecimal (negative : Bool) (digits : Nat) (scale : Int) : Binary64 :=
  if digits = 0 then .finite negative 0
  else
    let order := (Nat.toDigits 10 digits).length + scale
    if decimalReach < order then .infinite negative
    else if order < -(decimalReach : Int) then .finite negative 0
    else ofMagnitude negative (digits * power 10 scale)

def value? : Binary64 → Option Rat
  | finite negative magnitude => some (if negative then -magnitude else magnitude)
  | infinite _ => none

/-- Where a number stands among the others. Both zeros stand at the same place, and an infinite number stands
where the finite ones have ended. -/
def rank : Binary64 → Rat
  | finite negative magnitude => if negative then -magnitude else magnitude
  | infinite negative => if negative then -limit else limit

def round (value : Rat) : Rat := (ofRat value).value?.getD value

end Binary64

end KernelAtlas
