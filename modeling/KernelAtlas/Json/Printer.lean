import KernelAtlas.Json
import KernelAtlas.Text.Quoted

/-! Structured values as text: one item or field on a line, two spaces for each level, and ASCII
characters only. -/

set_option autoImplicit false

namespace KernelAtlas.Json

open Text.Quoted (hex)

def unitEscape (value : Nat) : List Char := '\\' :: 'u' :: hex 4 value

/-- A character in a quoted text. Beyond ASCII it is written as one or two UTF-16 units. -/
def escapeChar (c : Char) : List Char :=
  if c = '"' then ['\\', '"']
  else if c = '\\' then ['\\', '\\']
  else if c = '\n' then ['\\', 'n']
  else if c = '\r' then ['\\', 'r']
  else if c = '\t' then ['\\', 't']
  else if c.toNat = 0x0C then ['\\', 'f']
  else if c.toNat = 0x08 then ['\\', 'b']
  else if 0x20 ≤ c.toNat ∧ c.toNat < 0x7F then [c]
  else if c.toNat < 0x10000 then unitEscape c.toNat
  else
    let offset := c.toNat - 0x10000
    unitEscape (0xD800 + offset / 0x400) ++ unitEscape (0xDC00 + offset % 0x400)

def escapePoint : Text.CodePoint → List Char
  | .scalar c => escapeChar c
  | .surrogate value => unitEscape value

def quotePoints (points : Text.Points) : String := String.ofList ('"' :: points.flatMap escapePoint ++ ['"'])

def quote (text : String) : String := String.ofList ('"' :: text.toList.flatMap escapeChar ++ ['"'])

def indentation (depth : Nat) : String := String.ofList (List.replicate (2 * depth) ' ')

/-- Lines between brackets; without any line the brackets stand together. -/
def enclose (opening closing : String) (depth : Nat) (lines : List String) : String :=
  match lines with
  | [] => opening ++ closing
  | lines =>
    opening ++ "\n" ++ ",\n".intercalate (lines.map (indentation (depth + 1) ++ ·)) ++ "\n" ++ indentation depth ++ closing

mutual

def renderAt (depth : Nat) : Json → String
  | .null => "null"
  | .bool true => "true"
  | .bool false => "false"
  | .number literal => literal
  | .string value => quote value
  | .ragged points => quotePoints points
  | .array items => enclose "[" "]" depth (renderItems (depth + 1) items)
  | .object fields => enclose "\x7b" "\x7d" depth (renderFields (depth + 1) fields)

def renderItems (depth : Nat) : List Json → List String
  | [] => []
  | item :: rest => renderAt depth item :: renderItems depth rest

def renderFields (depth : Nat) : List (String × Json) → List String
  | [] => []
  | (name, value) :: rest => (quote name ++ ": " ++ renderAt depth value) :: renderFields depth rest

end

def render (value : Json) : String := renderAt 0 value

end KernelAtlas.Json
