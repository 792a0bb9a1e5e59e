import KernelAtlas.Text.CodePoint
import KernelAtlas.Text.Printable

/-! Texts in quotes, as messages show file names and arguments.

A text is quoted with apostrophes, or with quotation marks when it holds an apostrophe and no
quotation mark. Characters that would not be seen are written as escapes of two, four or eight
hexadecimal digits. -/

set_option autoImplicit false

namespace KernelAtlas.Text.Quoted

def hex (width value : Nat) : List Char :=
  let digits := Nat.toDigits 16 value
  List.replicate (width - digits.length) '0' ++ digits

def mark (text : List Char) : Char :=
  if text.contains '\'' && !text.contains '"' then '"' else '\''

def escape (quote c : Char) : List Char :=
  if c == quote || c == '\\' then ['\\', c]
  else if c == '\t' then ['\\', 't']
  else if c == '\n' then ['\\', 'n']
  else if c == '\r' then ['\\', 'r']
  else if isPrintable c then [c]
  else if c.toNat < 0x100 then '\\' :: 'x' :: hex 2 c.toNat
  else if c.toNat < 0x10000 then '\\' :: 'u' :: hex 4 c.toNat
  else '\\' :: 'U' :: hex 8 c.toNat

def encode (text : List Char) : List Char :=
  let quote := mark text
  quote :: text.flatMap (escape quote) ++ [quote]

def escapeSurrogate (value : Nat) : List Char := '\\' :: 'u' :: hex 4 value

def escapePoint (quote : Char) : CodePoint → List Char
  | .scalar c => escape quote c
  | .surrogate value => escapeSurrogate value

/-- Code points in quotes; a surrogate is always escaped. -/
def encodePoints (points : Points) : List Char :=
  let quote := mark (points.filterMap CodePoint.scalar?)
  quote :: points.flatMap (escapePoint quote) ++ [quote]

theorem encodePoints_map_scalar (text : List Char) : encodePoints (text.map .scalar) = encode text := by
  have chars : (text.map CodePoint.scalar).filterMap CodePoint.scalar? = text := by
    simp [List.filterMap_map, Function.comp_def, CodePoint.scalar?]
  simp only [encodePoints, encode, chars, List.flatMap_map, escapePoint]

end KernelAtlas.Text.Quoted

namespace KernelAtlas.Text

def quoted (text : String) : String := String.ofList (Quoted.encode text.toList)

/-- A text as it is printed: characters as they are, and surrogates as escapes. -/
def printed (points : Points) : String :=
  String.ofList (points.flatMap fun
    | .scalar c => [c]
    | .surrogate value => Quoted.escapeSurrogate value)

def quotedList (texts : List Points) : String :=
  "[" ++ ", ".intercalate (texts.map fun text => String.ofList (Quoted.encodePoints text)) ++ "]"

end KernelAtlas.Text
