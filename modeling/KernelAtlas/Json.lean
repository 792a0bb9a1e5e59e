import KernelAtlas.Text.CodePoint

/-! Structured values as they are exchanged with other programs. A number keeps the digits with which
it is written. A text is almost always a string of characters; one that holds half a surrogate pair is
kept as code points. -/

set_option autoImplicit false

namespace KernelAtlas

open Text (CodePoint Points)

inductive Json where
  | null
  | bool (value : Bool)
  | number (literal : String)
  | string (value : String)
  | ragged (points : Points)
  | array (items : List Json)
  | object (fields : List (String × Json))

namespace Json

def ofInt (value : Int) : Json := .number (toString value)

/-- The value of a field; the last field of a name counts. -/
def field? (name : String) (fields : List (String × Json)) : Option Json :=
  (fields.reverse.find? fun field => field.1 = name).map Prod.snd

def ofPoints (points : Points) : Json :=
  match Text.ofPoints? points with
  | some text => .string text
  | none => .ragged points

def points? : Json → Option Points
  | .string value => some (Text.codePoints value)
  | .ragged points => some points
  | _ => none

def texts? : Json → Option (List Points)
  | .array items => items.mapM points?
  | _ => none

end Json

end KernelAtlas
