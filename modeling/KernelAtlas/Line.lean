import KernelAtlas.OrderedMap
import KernelAtlas.Text.Blank
import KernelAtlas.Text.Lower
import KernelAtlas.Text.Word

/-! Kinds of assembly lines, and the mnemonics of those that are instructions.

The kind is decided on the trimmed text: its first character tells directives and comments, and a
text that ends in a colon and holds no space is a label. All else is an instruction, also a label
that is followed by a comment. -/

set_option autoImplicit false

namespace KernelAtlas

open Text

inductive LineKind where
  | empty
  | directive
  | comment
  | label
  | instruction
  deriving DecidableEq, Repr

namespace Line

def opensComment : List Char → Bool
  | ';' :: _ => true
  | '#' :: _ => true
  | '/' :: '/' :: _ => true
  | _ => false

/-- A label holds no U+0020; other blanks do not count against it. -/
def isLabel (text : List Char) : Bool :=
  text.getLast? == some ':' && !text.contains ' '

def kindOf (text : List Char) : LineKind :=
  if text = [] then .empty
  else if text.head? = some '.' then .directive
  else if opensComment text then .comment
  else if isLabel text then .label
  else .instruction

def classify (line : String) : LineKind := kindOf (trim line.toList)

theorem kindOf_eq_directive_iff (text : List Char) : kindOf text = .directive ↔ text.head? = some '.' := by
  unfold kindOf
  by_cases empty : text = []
  · simp [empty]
  · by_cases dot : text.head? = some '.'
    · simp [empty, dot]
    · simp only [empty, dot, if_false, iff_false]
      split
      · simp
      · split <;> simp

def isInstruction (line : String) : Bool := classify line == .instruction

/-- The leading word of an instruction in lower case. An instruction need not start with a word. -/
def mnemonic? (line : String) : Option String :=
  if isInstruction line then
    match (trim line.toList).takeWhile isWord with
    | [] => none
    | word => some (String.ofList (lower word))
  else none

def filterTags (line : String) : List String :=
  match classify line with
  | .directive => ["filter-directive"]
  | .comment => ["filter-comment"]
  | .empty => ["filter-empty"]
  | .label | .instruction => ((mnemonic? line).map ("instr-" ++ ·)).toList

def mnemonicCounts (lines : List String) : OrderedMap String Nat :=
  (lines.filterMap mnemonic?).foldl (fun counts word => counts.alter word (·.getD 0 + 1)) .empty

/-- How often each mnemonic occurs, the most frequent first; equally frequent ones stay in the order
of their first occurrence. -/
def histogram (lines : List String) : List (String × Nat) :=
  (mnemonicCounts lines).entries.mergeSort fun left right => right.2 ≤ left.2

end Line

end KernelAtlas
