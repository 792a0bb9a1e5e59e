import KernelAtlas.Json.Reader
import KernelAtlas.Number.Shortest

/-! The values of numbers. A number that is written without a fraction and without an exponent is an
integer and is exact; any other is the nearest binary fraction. -/

set_option autoImplicit false

namespace KernelAtlas.Json

inductive Number where
  | whole (value : Int)
  | fraction (value : Binary64)
  deriving DecidableEq, Repr

namespace Number

def exponentValue : List Char → Int
  | _ :: '-' :: digits => -(Numeral.value digits : Int)
  | _ :: '+' :: digits => Numeral.value digits
  | _ :: digits => Numeral.value digits
  | [] => 0

def ofUnsigned (negative : Bool) (literal : List Char) : Option Number :=
  if literal = "Infinity".toList then some (.fraction (.infinite negative))
  else
    let (digits, rest) := integerDigits literal
    let (places, rest) := Json.fraction rest
    let (power, _) := exponent rest
    if digits = [] then none
    else if places = [] ∧ power = [] then
      let magnitude : Int := Numeral.value digits
      some (.whole (if negative then -magnitude else magnitude))
    else
      let all := digits ++ places.drop 1
      some (.fraction (.ofDecimal negative (Numeral.value all) (exponentValue power - (places.length - 1 : Nat))))

/-- The value of a literal; `NaN` has none. -/
def ofLiteral? (literal : String) : Option Number :=
  match literal.toList with
  | '-' :: unsigned => ofUnsigned true unsigned
  | unsigned => ofUnsigned false unsigned

end Number

def ofBinary64 : Binary64 → Json
  | .infinite negative => .number (if negative then "-Infinity" else "Infinity")
  | value => .number value.text

def number? : Json → Option Number
  | .number literal => Number.ofLiteral? literal
  | _ => none

end KernelAtlas.Json
