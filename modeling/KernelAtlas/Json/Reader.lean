import KernelAtlas.Json
import KernelAtlas.Number.Numeral

/-! Reading of structured values.

The reader takes characters from the front of what is left of the text. A fault is placed by what was
left at it, from which its line and column follow. `NaN` and the infinities are numbers here, an integer
has the length limit of all numerals, and lists and objects lie only so deep in one another. -/

set_option autoImplicit false

namespace KernelAtlas.Json

open Numeral (Oversize)
open Text (CodePoint)

inductive Cause where
  | byteOrderMark
  | value
  | propertyName
  | colon
  | comma
  | extraData
  | unterminatedString
  | controlCharacter
  | escape
  | unicodeEscape
  deriving DecidableEq, Repr

def Cause.message : Cause → String
  | byteOrderMark => "Unexpected UTF-8 BOM (decode using utf-8-sig)"
  | value => "Expecting value"
  | propertyName => "Expecting property name enclosed in double quotes"
  | colon => "Expecting ':' delimiter"
  | comma => "Expecting ',' delimiter"
  | extraData => "Extra data"
  | unterminatedString => "Unterminated string starting at"
  | controlCharacter => "Invalid control character at"
  | escape => "Invalid \\escape"
  | unicodeEscape => "Invalid \\uXXXX escape"

inductive Nest where
  | array
  | object
  deriving DecidableEq, Repr

def Nest.name : Nest → String
  | array => "array"
  | object => "object"

/-- Why a text is not read: a cause with the text that was left where it arose, a numeral that is too long,
or a list or object that lies too deep. -/
inductive Refusal where
  | fault (cause : Cause) (left : List Char)
  | oversize (refused : Oversize)
  | tooDeep (nest : Nest)
  deriving DecidableEq, Repr

abbrev Reading (α : Type) := Except Refusal (α × List Char)

def isSpace (c : Char) : Bool := c == ' ' || c == '\t' || c == '\n' || c == '\r'

def skip (text : List Char) : List Char := text.dropWhile isSpace

def hexDigit? (c : Char) : Option Nat :=
  if '0' ≤ c ∧ c ≤ '9' then some (c.toNat - '0'.toNat)
  else if 'a' ≤ c ∧ c ≤ 'f' then some (c.toNat - 'a'.toNat + 10)
  else if 'A' ≤ c ∧ c ≤ 'F' then some (c.toNat - 'A'.toNat + 10)
  else none

def unit? (a b c d : Char) : Option Nat := do
  let a ← hexDigit? a
  let b ← hexDigit? b
  let c ← hexDigit? c
  let d ← hexDigit? d
  return ((a * 16 + b) * 16 + c) * 16 + d

def simpleEscape? (c : Char) : Option Char :=
  if c = '"' ∨ c = '\\' ∨ c = '/' then some c
  else if c = 'b' then some (Char.ofNat 0x08)
  else if c = 'f' then some (Char.ofNat 0x0C)
  else if c = 'n' then some '\n'
  else if c = 'r' then some '\r'
  else if c = 't' then some '\t'
  else none

/-- The rest of a quoted text, whose quotes were opened at the text `opened`. The text goes on behind the
four digits of a unit. -/
def pointsFrom (opened : List Char) (read : List CodePoint) : List Char → Reading (List CodePoint)
  | [] => .error (.fault .unterminatedString opened)
  | c :: rest =>
    if c = '"' then .ok (read.reverse, rest)
    else if c = '\\' then
      match rest with
      | [] => .error (.fault .unterminatedString opened)
      | e :: after =>
        if e = 'u' then
          match after with
          | a :: b :: c :: d :: next :: more =>
            match unit? a b c d with
            | none => .error (.fault .unicodeEscape rest)
            | some value => pointsFrom opened (CodePoint.push read (.ofUnit value)) (next :: more)
          | _ => .error (.fault .unicodeEscape rest)
        else
          match simpleEscape? e with
          | none => .error (.fault .escape (c :: rest))
          | some plain => pointsFrom opened (.scalar plain :: read) after
    else if c.toNat < 0x20 then .error (.fault .controlCharacter (c :: rest))
    else pointsFrom opened (.scalar c :: read) rest

def readPoints (text : List Char) : Reading (List CodePoint) := pointsFrom ('"' :: text) [] text

/-- The digits of an integer: a zero by itself, or a run that starts with another digit. -/
def integerDigits (text : List Char) : List Char × List Char :=
  match text with
  | '0' :: rest => (['0'], rest)
  | _ => (text.takeWhile Char.isDigit, text.dropWhile Char.isDigit)

def fraction (text : List Char) : List Char × List Char :=
  match text with
  | '.' :: rest =>
    match rest.takeWhile Char.isDigit with
    | [] => ([], text)
    | digits => ('.' :: digits, rest.dropWhile Char.isDigit)
  | _ => ([], text)

def exponent (text : List Char) : List Char × List Char :=
  match text with
  | [] => ([], text)
  | e :: rest =>
    if e = 'e' ∨ e = 'E' then
      let (sign, rest) :=
        match rest with
        | '+' :: rest => (['+'], rest)
        | '-' :: rest => (['-'], rest)
        | rest => ([], rest)
      match rest.takeWhile Char.isDigit with
      | [] => ([], text)
      | digits => (e :: sign ++ digits, rest.dropWhile Char.isDigit)
    else ([], text)

def readNumber (text : List Char) : Reading Json :=
  let (sign, unsigned) :=
    match text with
    | '-' :: rest => (['-'], rest)
    | _ => ([], text)
  let (digits, rest) := integerDigits unsigned
  if digits = [] then .error (.fault .value text)
  else
    let (places, rest) := fraction rest
    let (power, rest) := exponent rest
    let literal := Json.number (String.ofList (sign ++ digits ++ places ++ power))
    if places = [] ∧ power = [] then
      match Numeral.read digits with
      | .error refused => .error (.oversize refused)
      | .ok _ => .ok (literal, rest)
    else .ok (literal, rest)

def words : List (List Char × Json) :=
  [("null".toList, .null), ("true".toList, .bool true), ("false".toList, .bool false), ("NaN".toList, .number "NaN"),
    ("Infinity".toList, .number "Infinity"), ("-Infinity".toList, .number "-Infinity")]

def word? (text : List Char) : Option (Json × List Char) :=
  (words.find? fun word => word.1.isPrefixOf text).map fun word => (word.2, text.drop word.1.length)

mutual

/-- A value at the front of a text, in which lists and objects may lie `depth` deep. Every nested value and
every further item takes one unit of fuel; the length of the text bounds what is needed. -/
def valueFrom (fuel depth : Nat) (text : List Char) : Reading Json :=
  match fuel with
  | 0 => .error (.fault .value text)
  | fuel + 1 =>
    match text with
    | '"' :: rest => (readPoints rest).map fun read => (.ofPoints read.1, read.2)
    | '[' :: rest =>
      match depth with
      | 0 => .error (.tooDeep .array)
      | depth + 1 =>
        match skip rest with
        | ']' :: rest => .ok (.array [], rest)
        | rest => (itemsFrom fuel depth [] rest).map fun read => (.array read.1, read.2)
    | '\x7b' :: rest =>
      match depth with
      | 0 => .error (.tooDeep .object)
      | depth + 1 =>
        match skip rest with
        | '\x7d' :: rest => .ok (.object [], rest)
        | rest => (fieldsFrom fuel depth [] rest).map fun read => (.object read.1, read.2)
    | _ =>
      match word? text with
      | some read => .ok read
      | none => readNumber text

def itemsFrom (fuel depth : Nat) (read : List Json) (text : List Char) : Reading (List Json) :=
  match fuel with
  | 0 => .error (.fault .value text)
  | fuel + 1 =>
    match valueFrom fuel depth text with
    | .error refusal => .error refusal
    | .ok (value, rest) =>
      match skip rest with
      | ']' :: rest => .ok ((value :: read).reverse, rest)
      | ',' :: rest => itemsFrom fuel depth (value :: read) (skip rest)
      | rest => .error (.fault .comma rest)

def fieldsFrom (fuel depth : Nat) (read : List (String × Json)) (text : List Char) :
    Reading (List (String × Json)) :=
  match fuel with
  | 0 => .error (.fault .value text)
  | fuel + 1 =>
    match text with
    | '"' :: rest =>
      match readPoints rest with
      | .error refusal => .error refusal
      | .ok (name, rest) =>
        match skip rest with
        | ':' :: rest =>
          match valueFrom fuel depth (skip rest) with
          | .error refusal => .error refusal
          | .ok (value, rest) =>
            let read := (String.ofList (name.map CodePoint.char), value) :: read
            match skip rest with
            | '\x7d' :: rest => .ok (read.reverse, rest)
            | ',' :: rest => fieldsFrom fuel depth read (skip rest)
            | rest => .error (.fault .comma rest)
        | rest => .error (.fault .colon rest)
    | _ => .error (.fault .propertyName text)

end

def parse (depth : Nat) (text : List Char) : Except Refusal Json :=
  if text.head? = some (Char.ofNat 0xFEFF) then .error (.fault .byteOrderMark text)
  else
    match valueFrom (2 * text.length + 2) depth (skip text) with
    | .error refusal => .error refusal
    | .ok (value, rest) =>
      match skip rest with
      | [] => .ok value
      | rest => .error (.fault .extraData rest)

/-- A fault with its place: lines and columns count from one, characters from zero. -/
def faultText (text : List Char) (cause : Cause) (left : List Char) : String :=
  let before := text.take (text.length - left.length)
  let line := before.countP (· == '\n') + 1
  let column := (before.reverse.takeWhile (· != '\n')).length + 1
  s!"{cause.message}: line {line} column {column} (char {before.length})"

end KernelAtlas.Json
