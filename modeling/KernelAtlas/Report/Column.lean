import KernelAtlas.Number.Numeral
import KernelAtlas.Slice

/-! Texts fitted to columns. Widths count characters. -/

set_option autoImplicit false

namespace KernelAtlas.Report

inductive Failure where
  | number (refused : Numeral.Unwritable)
  | widthOutOfRange
  | columnTooWide
  deriving DecidableEq, Repr

def Failure.message : Failure → String
  | number refused => refused.message
  | widthOutOfRange => "Python int too large to convert to C ssize_t"
  | columnTooWide => ""

def numeral (value : Int) : Except Failure String := (Numeral.write value).mapError .number

def alignRight (width : Nat) (text : String) : String :=
  String.ofList (List.replicate (width - text.length) ' ') ++ text

def alignLeft (width : Nat) (text : String) : String :=
  text ++ String.ofList (List.replicate (width - text.length) ' ')

def leastWidth : Int := -(Nat.pow 2 63 : Nat)

/-- A text in a column of a width, of which the sign does not matter, if there is room for so many characters. The
least width, which has no positive counterpart, leaves the text as it is. -/
def column (room : Nat) (width : Int) (text : String) : Except Failure String :=
  if width < leastWidth ∨ -leastWidth ≤ width then .error .widthOutOfRange
  else if width = leastWidth then .ok text
  else if room < width.natAbs then .error .columnTooWide
  else .ok (alignLeft width.natAbs text)

/-- The first characters of a text, or, for a negative width, all but the last. -/
def cut (width : Int) (text : List Char) : List Char := slice 0 width text

end KernelAtlas.Report
