import KernelAtlas.Json.Reader
import Mathlib.Data.List.Infix

/-! The grammar of structured values.

It counts what the reader limits: the digits of an integer, and how many lists and objects lie in one another. `NaN` and
the infinities are values, as they are for the reader. -/

set_option autoImplicit false

namespace KernelAtlas.Json

open Text (CodePoint)

def Blank (text : List Char) : Prop := ∀ c ∈ text, isSpace c = true

/-- What stands between quotes: characters that stand for themselves, and escapes. -/
inductive Quoted : List Char → List CodePoint → Prop where
  | nil : Quoted [] []
  | plain {c : Char} {rest : List Char} {points : List CodePoint} (printable : 0x20 ≤ c.toNat) (unquoted : c ≠ '"')
      (unescaped : c ≠ '\\') (later : Quoted rest points) : Quoted (c :: rest) (.scalar c :: points)
  | escape {e c : Char} {rest : List Char} {points : List CodePoint} (known : simpleEscape? e = some c)
      (later : Quoted rest points) : Quoted ('\\' :: e :: rest) (.scalar c :: points)
  | unit {a b c d : Char} {value : Nat} {rest : List Char} {points : List CodePoint}
      (digits : unit? a b c d = some value) (later : Quoted rest points) :
    Quoted ('\\' :: 'u' :: a :: b :: c :: d :: rest) (.ofUnit value :: points)

/-- Surrogates that make one character together are replaced by it. -/
def paired : List CodePoint → List CodePoint
  | .surrogate high :: .surrogate low :: rest =>
    if CodePoint.isHigh high && CodePoint.isLow low then .scalar (CodePoint.ofPair high low) :: paired rest
    else .surrogate high :: paired (.surrogate low :: rest)
  | point :: rest => point :: paired rest
  | [] => []

inductive IsText : List Char → List CodePoint → Prop where
  | quoted {body : List Char} {points : List CodePoint} (inside : Quoted body points) :
    IsText ('"' :: (body ++ ['"'])) (paired points)

def Digits (text : List Char) : Prop := text ≠ [] ∧ ∀ c ∈ text, c.isDigit = true

inductive Integer : List Char → Prop where
  | zero : Integer ['0']
  | run {c : Char} {rest : List Char} (digits : Digits (c :: rest)) (leading : c ≠ '0') : Integer (c :: rest)

inductive Fraction : List Char → Prop where
  | none : Fraction []
  | places {digits : List Char} (run : Digits digits) : Fraction ('.' :: digits)

inductive Exponent : List Char → Prop where
  | none : Exponent []
  | power {mark : Char} {sign digits : List Char} (marked : mark = 'e' ∨ mark = 'E')
      (signed : sign = [] ∨ sign = ['+'] ∨ sign = ['-']) (run : Digits digits) : Exponent (mark :: (sign ++ digits))

/-- A number; if it is an integer, it has at most `limit` digits. -/
inductive IsNumber (limit : Nat) : List Char → Prop where
  | parts {sign digits places power : List Char} (signed : sign = [] ∨ sign = ['-']) (integer : Integer digits)
      (fraction : Fraction places) (exponent : Exponent power)
      (short : places = [] → power = [] → digits.length ≤ limit) : IsNumber limit (sign ++ (digits ++ (places ++ power)))

inductive Scalar (limit : Nat) : List Char → Json → Prop where
  | text {text : List Char} {points : List CodePoint} (quoted : IsText text points) : Scalar limit text (.ofPoints points)
  | word {word : List Char × Json} (known : word ∈ words) : Scalar limit word.1 word.2
  | number {text : List Char} (number : IsNumber limit text) : Scalar limit text (.number (String.ofList text))

section
variable {α : Type} (item : List Char → α → Prop)

/-- One or more items with commas between them. -/
inductive Listed : List Char → List α → Prop where
  | last {before text after : List Char} {x : α} (front : Blank before) (one : item text x) (back : Blank after) :
    Listed (before ++ (text ++ after)) [x]
  | more {before text after rest : List Char} {x : α} {xs : List α} (front : Blank before) (one : item text x)
      (back : Blank after) (others : Listed rest xs) : Listed (before ++ (text ++ (after ++ ',' :: rest))) (x :: xs)

inductive Enclosed (opening closing : Char) : List Char → List α → Prop where
  | empty {space : List Char} (blank : Blank space) : Enclosed opening closing (opening :: (space ++ [closing])) []
  | items {inner : List Char} {xs : List α} (listed : Listed item inner xs) :
    Enclosed opening closing (opening :: (inner ++ [closing])) xs

end

inductive Field (value : List Char → Json → Prop) : List Char → String × Json → Prop where
  | named {name before after text : List Char} {points : List CodePoint} {content : Json} (quoted : IsText name points)
      (front : Blank before) (back : Blank after) (valued : value text content) :
    Field value (name ++ (before ++ ':' :: (after ++ text))) (String.ofList (points.map CodePoint.char), content)

/-- A value, inside which others may be nested. -/
inductive Layer (limit : Nat) (nested : List Char → Json → Prop) : List Char → Json → Prop where
  | scalar {text : List Char} {value : Json} (plain : Scalar limit text value) : Layer limit nested text value
  | array {text : List Char} {items : List Json} (enclosed : Enclosed nested '[' ']' text items) :
    Layer limit nested text (.array items)
  | object {text : List Char} {fields : List (String × Json)}
      (enclosed : Enclosed (Field nested) '\x7b' '\x7d' text fields) : Layer limit nested text (.object fields)

/-- A value whose integers have at most `limit` digits and in which lists and objects lie at most `depth` deep. -/
def IsValue (limit : Nat) : Nat → List Char → Json → Prop
  | 0 => Scalar limit
  | depth + 1 => Layer limit (IsValue limit depth)

inductive Written (limit depth : Nat) : List Char → Json → Prop where
  | value {before text after : List Char} {content : Json} (front : Blank before)
      (valued : IsValue limit depth text content) (back : Blank after) :
    Written limit depth (before ++ (text ++ after)) content

/-- A text that has a value, whatever its size. -/
def IsJson (text : List Char) (value : Json) : Prop := ∃ limit depth, Written limit depth text value

def followers : List Char := [' ', '\t', '\n', '\r', ',', ']', '\x7d']

theorem isDigit_of_mem_followers {c : Char} (member : c ∈ followers) : c.isDigit = false := by
  simp only [followers, List.mem_cons, List.not_mem_nil, or_false] at member
  rcases member with rfl | rfl | rfl | rfl | rfl | rfl | rfl
  all_goals rfl

theorem Integer.digits {text : List Char} (integer : Integer text) : Digits text := by
  cases integer with
  | zero => exact ⟨List.cons_ne_nil _ _, by simp⟩
  | run digits leading => exact digits

def Starts (text : List Char) : Prop := ∃ c rest, text = c :: rest ∧ c ∉ followers ∧ c.toNat < 0x80

theorem IsText.starts {text : List Char} {points : List CodePoint} (quoted : IsText text points) : Starts text := by
  obtain ⟨inside⟩ := quoted
  exact ⟨'"', _, rfl, by decide, by decide⟩

theorem Digits.starts {text : List Char} (digits : Digits text) : Starts text := by
  obtain ⟨c, rest, rfl⟩ := List.exists_cons_of_ne_nil digits.1
  have digit := digits.2 c List.mem_cons_self
  refine ⟨c, rest, rfl, fun member => ?_, ?_⟩
  · rw [isDigit_of_mem_followers member] at digit
    cases digit
  · have bounds : 48 ≤ c.toNat ∧ c.toNat ≤ 57 := by
      simpa [Char.isDigit, UInt32.le_iff_toNat_le] using digit
    omega

theorem Starts.append {text : List Char} (starts : Starts text) (rest : List Char) : Starts (text ++ rest) := by
  obtain ⟨c, tail, rfl, first⟩ := starts
  exact ⟨c, tail ++ rest, rfl, first⟩

theorem IsNumber.starts {limit : Nat} {text : List Char} (number : IsNumber limit text) : Starts text := by
  obtain ⟨signed, integer, -, -, -⟩ := number
  rcases signed with rfl | rfl
  · exact integer.digits.starts.append _
  · exact ⟨'-', _, rfl, by decide, by decide⟩

theorem Scalar.starts {limit : Nat} {text : List Char} {value : Json} (plain : Scalar limit text value) : Starts text := by
  cases plain with
  | text quoted => exact quoted.starts
  | word known =>
    simp only [words, List.mem_cons, List.not_mem_nil, or_false] at known
    rcases known with rfl | rfl | rfl | rfl | rfl | rfl
    all_goals exact ⟨_, _, rfl, by decide, by decide⟩
  | number number => exact number.starts

section
variable {α : Type} {item : List Char → α → Prop} {opening closing : Char} {text : List Char} {xs : List α}
  (enclosed : Enclosed item opening closing text xs)
include enclosed

theorem Enclosed.exists_cons : ∃ tail, text = opening :: tail := by
  cases enclosed with
  | empty blank => exact ⟨_, rfl⟩
  | items listed => exact ⟨_, rfl⟩

theorem Enclosed.starts (first : opening ∉ followers ∧ opening.toNat < 0x80) : Starts text := by
  obtain ⟨tail, rfl⟩ := enclosed.exists_cons
  exact ⟨opening, tail, rfl, first⟩

end

theorem IsValue.starts {limit depth : Nat} {text : List Char} {value : Json} (valued : IsValue limit depth text value) :
    Starts text := by
  cases depth with
  | zero => exact Scalar.starts valued
  | succ depth =>
    cases valued with
    | scalar plain => exact plain.starts
    | array enclosed => exact enclosed.starts (by decide)
    | object enclosed => exact enclosed.starts (by decide)

theorem Field.starts {value : List Char → Json → Prop} {text : List Char} {field : String × Json}
    (named : Field value text field) : Starts text := by
  obtain ⟨quoted, -, -, -⟩ := named
  exact quoted.starts.append _

theorem Starts.length_pos {text : List Char} (starts : Starts text) : 0 < text.length := by
  obtain ⟨c, rest, rfl, -⟩ := starts
  exact Nat.zero_lt_succ rest.length

end KernelAtlas.Json
