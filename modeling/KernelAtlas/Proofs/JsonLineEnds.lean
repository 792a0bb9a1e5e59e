import KernelAtlas.Proofs.JsonGrammar
import KernelAtlas.Proofs.PhysicalLines

/-! Line ends in structured values.

A line can end between the parts of a value only, where all blanks are alike. So a text keeps its values when its line
ends are unified. -/

set_option autoImplicit false

namespace KernelAtlas.Text

theorem exists_of_unifyNewlines_eq_append {text front rest : List Char} (unified : unifyNewlines text = front ++ rest) :
    ∃ a b, text = a ++ b ∧ unifyNewlines a = front ∧ unifyNewlines b = rest := by
  induction front generalizing text with
  | nil => exact ⟨[], text, rfl, rfl, unified⟩
  | cons d front ih =>
    revert unified
    fun_cases unifyNewlines text with
    | case1 => exact fun none => by cases none
    | case2 text =>
      intro unified
      rw [List.cons_append, List.cons.injEq] at unified
      obtain ⟨a, b, rfl, taken, left⟩ := ih unified.2
      refine ⟨'\r' :: '\n' :: a, b, rfl, ?_, left⟩
      rw [unifyNewlines, taken, unified.1]
    | case3 c text lone =>
      intro unified
      rw [List.cons_append, List.cons.injEq] at unified
      obtain ⟨a, b, rfl, taken, left⟩ := ih unified.2
      refine ⟨c :: a, b, rfl, ?_, left⟩
      rw [unifyNewlines_cons, taken, unified.1]
      rintro same next
      obtain ⟨after, rfl⟩ := List.head?_eq_some_iff.mp next
      exact lone (after ++ b) same rfl

theorem eq_of_unifyNewlines_eq {text other : List Char} (plain : '\n' ∉ other) (unified : unifyNewlines text = other) :
    text = other := by
  fun_induction unifyNewlines text generalizing other with
  | case1 => exact unified
  | case2 text ih =>
    rw [← unified] at plain
    exact absurd List.mem_cons_self plain
  | case3 c text lone ih =>
    rw [← unified, List.mem_cons, not_or] at plain
    have same : c ≠ '\r' := by
      rintro rfl
      exact plain.1 rfl
    rw [← unified, if_neg same, ← ih plain.2 rfl]

end KernelAtlas.Text

namespace KernelAtlas.Json

open Text (CodePoint unifyNewlines)

/-- Texts that differ in their line ends only. -/
def Alike (text other : List Char) : Prop := unifyNewlines text = unifyNewlines other

theorem Alike.split {front rest other : List Char} (alike : Alike (front ++ rest) other)
    (whole : front.getLast? = some '\r' → rest.head? ≠ some '\n') :
    ∃ a b, other = a ++ b ∧ Alike front a ∧ Alike rest b := by
  rw [Alike, Text.unifyNewlines_append whole] at alike
  obtain ⟨a, b, split, first, second⟩ := Text.exists_of_unifyNewlines_eq_append alike.symm
  exact ⟨a, b, split, first.symm, second.symm⟩

def Printable (text : List Char) : Prop := ∀ c ∈ text, 0x20 ≤ c.toNat

theorem printable_of_all {text : List Char} (all : (text.all fun c => 0x20 ≤ c.toNat) = true) : Printable text := by
  simpa [Printable] using all

theorem Printable.notMem {text : List Char} (printable : Printable text) {c : Char} (control : c.toNat < 0x20) : c ∉ text :=
  fun member => absurd (printable c member) (Nat.not_le_of_lt control)

theorem Alike.eq_of_printable {text other : List Char} (alike : Alike text other) (printable : Printable text) :
    other = text := by
  rw [Alike, Text.unifyNewlines_of_notMem (printable.notMem (by decide))] at alike
  exact Text.eq_of_unifyNewlines_eq (printable.notMem (by decide)) alike.symm

section
variable {rest other : List Char} {c : Char} (printable : 0x20 ≤ c.toNat)
include printable

theorem Alike.cons (alike : Alike (c :: rest) other) : ∃ b, other = c :: b ∧ Alike rest b := by
  have single : Printable [c] := by simpa [Printable] using printable
  have parts : Alike ([c] ++ rest) other := alike
  obtain ⟨first, b, rfl, same, behind⟩ := parts.split fun last =>
    absurd (List.mem_of_getLast? last) (single.notMem (by decide))
  rw [same.eq_of_printable single]
  exact ⟨b, rfl, behind⟩

/-- A character between two parts stays between them. -/
theorem Alike.split_cons {front : List Char} (alike : Alike (front ++ c :: rest) other) :
    ∃ a b, other = a ++ c :: b ∧ Alike front a ∧ Alike rest b := by
  obtain ⟨a, behind, rfl, first, alike⟩ := alike.split fun _ next => by
    cases next
    exact absurd printable (by decide)
  obtain ⟨b, rfl, second⟩ := alike.cons printable
  exact ⟨a, b, rfl, first, second⟩

end

theorem blank_unifyNewlines_iff (text : List Char) : Blank (unifyNewlines text) ↔ Blank text := by
  have cr : isSpace '\r' = true := rfl
  have lf : isSpace '\n' = true := rfl
  unfold Blank
  fun_induction unifyNewlines text with
  | case1 => rfl
  | case2 text ih => simp only [List.forall_mem_cons, cr, lf, true_and, ih]
  | case3 c text lone ih =>
    by_cases same : c = '\r'
    · simp only [same, if_true, List.forall_mem_cons, cr, lf, true_and, ih]
    · simp only [same, if_false, List.forall_mem_cons, ih]

theorem Alike.blank {text other : List Char} (alike : Alike text other) (blank : Blank text) : Blank other := by
  rw [← blank_unifyNewlines_iff, ← alike, blank_unifyNewlines_iff]
  exact blank

theorem Digits.printable {text : List Char} (digits : Digits text) : Printable text := by
  intro c member
  have bounds : 48 ≤ c.toNat ∧ c.toNat ≤ 57 := by
    simpa [Char.isDigit, UInt32.le_iff_toNat_le] using digits.2 c member
  omega

theorem printable_of_simpleEscape? {e c : Char} (known : simpleEscape? e = some c) : 0x20 ≤ e.toNat := by
  by_contra control
  have other {d : Char} (printable : 0x20 ≤ d.toNat) : e ≠ d := by
    rintro rfl
    exact control printable
  simp [simpleEscape?, other] at known

theorem printable_of_hexDigit? {c : Char} {value : Nat} (digit : hexDigit? c = some value) : 0x20 ≤ c.toNat := by
  by_contra control
  have below {d : Char} (printable : 0x20 ≤ d.toNat) : ¬d ≤ c := by
    rw [Char.le_def, UInt32.le_iff_toNat_le]
    intro above
    exact control (Nat.le_trans printable above)
  simp [hexDigit?, below] at digit

theorem Quoted.printable {body : List Char} {points : List CodePoint} (inside : Quoted body points) : Printable body := by
  induction inside with
  | nil => exact fun c member => by cases member
  | plain printable unquoted unescaped later ih => exact List.forall_mem_cons.mpr ⟨printable, ih⟩
  | escape known later ih =>
    exact List.forall_mem_cons.mpr ⟨by decide, List.forall_mem_cons.mpr ⟨printable_of_simpleEscape? known, ih⟩⟩
  | @unit a b c d value rest points digits later ih =>
    simp only [unit?, Option.bind_eq_bind, Option.bind_eq_some_iff] at digits
    obtain ⟨_, first, _, second, _, third, _, fourth, -⟩ := digits
    simp only [Printable, List.forall_mem_cons]
    exact ⟨by decide, by decide, printable_of_hexDigit? first, printable_of_hexDigit? second, printable_of_hexDigit? third,
      printable_of_hexDigit? fourth, ih⟩

theorem Printable.append {text rest : List Char} (front : Printable text) (back : Printable rest) :
    Printable (text ++ rest) :=
  fun c member => (List.mem_append.mp member).elim (front c) (back c)

theorem printable_of_mem_words {word : List Char × Json} (known : word ∈ words) : Printable word.1 := by
  simp only [words, List.mem_cons, List.not_mem_nil, or_false] at known
  rcases known with rfl | rfl | rfl | rfl | rfl | rfl
  all_goals exact printable_of_all (by decide)

theorem Fraction.printable {places : List Char} (fraction : Fraction places) : Printable places := by
  cases fraction with
  | none => exact fun c member => by cases member
  | places digits => exact List.forall_mem_cons.mpr ⟨by decide, digits.printable⟩

theorem Exponent.printable {power : List Char} (exponent : Exponent power) : Printable power := by
  cases exponent with
  | none => exact fun c member => by cases member
  | @power mark sign digits marked signed run =>
    have first : 0x20 ≤ mark.toNat := by
      rcases marked with rfl | rfl
      all_goals decide
    have second : Printable sign := by
      rcases signed with rfl | rfl | rfl
      all_goals exact printable_of_all (by decide)
    exact List.forall_mem_cons.mpr ⟨first, second.append run.printable⟩

theorem IsNumber.printable {limit : Nat} {text : List Char} (number : IsNumber limit text) : Printable text := by
  obtain @⟨sign, digits, places, power, signed, integer, fraction, exponent, -⟩ := number
  have first : Printable sign := by
    rcases signed with rfl | rfl
    all_goals exact printable_of_all (by decide)
  exact first.append (integer.digits.printable.append (fraction.printable.append exponent.printable))

theorem IsText.printable {text : List Char} {points : List CodePoint} (quoted : IsText text points) : Printable text := by
  obtain ⟨inside⟩ := quoted
  exact List.forall_mem_cons.mpr ⟨by decide, inside.printable.append (printable_of_all (by decide))⟩

theorem Scalar.printable {limit : Nat} {text : List Char} {value : Json} (plain : Scalar limit text value) :
    Printable text := by
  cases plain with
  | text quoted => exact quoted.printable
  | word known => exact printable_of_mem_words known
  | number number => exact number.printable

/-- A text that no line end is at the edges of. -/
structure Edged (text : List Char) : Prop where
  starts : Starts text
  ends : text.getLast? ≠ some '\r'

theorem Edged.head?_ne {text : List Char} (edged : Edged text) (rest : List Char) : (text ++ rest).head? ≠ some '\n' := by
  obtain ⟨c, tail, rfl, other, -⟩ := edged.starts
  rintro ⟨⟩
  exact other (by decide)

theorem Printable.getLast?_ne {text : List Char} (printable : Printable text) : text.getLast? ≠ some '\r' :=
  fun last => printable.notMem (by decide) (List.mem_of_getLast? last)

theorem Enclosed.getLast?_ne {α : Type} {item : List Char → α → Prop} {opening closing : Char} {text : List Char}
    {xs : List α} (enclosed : Enclosed item opening closing text xs) (other : closing ≠ '\r') : text.getLast? ≠ some '\r' := by
  cases enclosed with
  | empty blank =>
    rw [← List.cons_append, List.getLast?_concat]
    rintro ⟨⟩
    exact other rfl
  | items listed =>
    rw [← List.cons_append, List.getLast?_concat]
    rintro ⟨⟩
    exact other rfl

theorem IsValue.edged {limit depth : Nat} {text : List Char} {value : Json} (valued : IsValue limit depth text value) :
    Edged text := by
  refine ⟨valued.starts, ?_⟩
  cases depth with
  | zero => exact (Scalar.printable valued).getLast?_ne
  | succ depth =>
    cases valued with
    | scalar plain => exact plain.printable.getLast?_ne
    | array enclosed => exact enclosed.getLast?_ne (by decide)
    | object enclosed => exact enclosed.getLast?_ne (by decide)

def Unified {α : Type} (item : List Char → α → Prop) : Prop := ∀ text x other, item text x → Alike text other → item other x

section
variable {α : Type} {item : List Char → α → Prop} (edged : ∀ text x, item text x → Edged text) (unified : Unified item)
include edged unified

theorem unified_listed : Unified (Listed item) := by
  intro inner xs other listed alike
  induction listed generalizing other with
  | @last before text after x front one back =>
    obtain ⟨space, rest, rfl, first, alike⟩ := alike.split fun _ => (edged text x one).head?_ne after
    obtain ⟨text', after', rfl, second, third⟩ := alike.split fun last => absurd last (edged text x one).ends
    exact .last (first.blank front) (unified text x text' one second) (third.blank back)
  | @more before text after inner x xs front one back others ih =>
    obtain ⟨space, rest, rfl, first, alike⟩ := alike.split fun _ => (edged text x one).head?_ne _
    obtain ⟨text', rest, rfl, second, alike⟩ := alike.split fun last => absurd last (edged text x one).ends
    obtain ⟨after', inner', rfl, third, fourth⟩ := Alike.split_cons (by decide) alike
    exact .more (first.blank front) (unified text x text' one second) (third.blank back) (ih inner' fourth)

theorem unified_enclosed {opening closing : Char} (first : 0x20 ≤ opening.toNat) (last : 0x20 ≤ closing.toNat) :
    Unified (Enclosed item opening closing) := by
  intro text xs other enclosed alike
  have nothing : Printable [] := fun c member => by cases member
  cases enclosed with
  | @empty space blank =>
    obtain ⟨behind, rfl, tail⟩ := alike.cons first
    obtain ⟨space', after, rfl, inside, none⟩ := tail.split_cons last
    rw [none.eq_of_printable nothing]
    exact .empty (inside.blank blank)
  | @items inner xs listed =>
    obtain ⟨behind, rfl, tail⟩ := alike.cons first
    obtain ⟨inner', after, rfl, inside, none⟩ := tail.split_cons last
    rw [none.eq_of_printable nothing]
    exact .items (unified_listed edged unified inner xs inner' listed inside)

end

theorem Edged.append {text front : List Char} (edged : Edged text) (starts : Starts front) : Edged (front ++ text) := by
  refine ⟨starts.append text, ?_⟩
  obtain ⟨c, rest, rfl, -⟩ := edged.starts
  rw [List.getLast?_append_of_ne_nil _ (List.cons_ne_nil c rest)]
  exact edged.ends

section
variable {nested : List Char → Json → Prop} (edged : ∀ text value, nested text value → Edged text)
include edged

theorem edged_field (text : List Char) (field : String × Json) (named : Field nested text field) : Edged text := by
  obtain @⟨name, before, after, text, points, content, quoted, front, back, valued⟩ := named
  have whole : name ++ (before ++ ':' :: (after ++ text)) = name ++ (before ++ ':' :: after) ++ text := by
    simp only [List.append_assoc, List.cons_append]
  rw [whole]
  exact (edged text content valued).append (quoted.starts.append _)

theorem unified_field (unified : Unified nested) : Unified (Field nested) := by
  intro text field other named alike
  obtain @⟨name, before, after, text, points, content, quoted, front, back, valued⟩ := named
  obtain ⟨name', rest, rfl, first, alike⟩ := alike.split fun last => absurd last quoted.printable.getLast?_ne
  obtain ⟨before', rest, rfl, second, alike⟩ := Alike.split_cons (by decide) alike
  obtain ⟨after', text', rfl, third, fourth⟩ := alike.split fun _ => by
    simpa using (edged text content valued).head?_ne []
  rw [first.eq_of_printable quoted.printable]
  exact .named quoted (second.blank front) (third.blank back) (unified text content text' valued fourth)

end

theorem unified_isValue (limit depth : Nat) : Unified (IsValue limit depth) := by
  have scalar : Unified (Scalar limit) := by
    intro text value other plain alike
    rw [alike.eq_of_printable plain.printable]
    exact plain
  induction depth with
  | zero => exact scalar
  | succ depth ih =>
    have edged (text : List Char) (value : Json) (valued : IsValue limit depth text value) : Edged text := valued.edged
    intro text value other valued alike
    cases valued with
    | scalar plain => exact .scalar (scalar text value other plain alike)
    | array enclosed =>
      have items : Unified (Enclosed (IsValue limit depth) '[' ']') :=
        unified_enclosed edged ih (by decide) (by decide)
      exact .array (items text _ other enclosed alike)
    | object enclosed =>
      have fields : Unified (Enclosed (Field (IsValue limit depth)) '\x7b' '\x7d') :=
        unified_enclosed (edged_field edged) (unified_field edged ih) (by decide) (by decide)
      exact .object (fields text _ other enclosed alike)

theorem unified_written (limit depth : Nat) : Unified (Written limit depth) := by
  intro text value other written alike
  obtain @⟨before, text, after, value, front, valued, back⟩ := written
  have edged := valued.edged
  obtain ⟨before', rest, rfl, first, alike⟩ := alike.split fun _ => edged.head?_ne after
  obtain ⟨text', after', rfl, second, third⟩ := alike.split fun last => absurd last edged.ends
  exact .value (first.blank front) (unified_isValue limit depth text value text' valued second) (third.blank back)

/-- A text has the same values with its line ends unified. -/
theorem isJson_unifyNewlines_iff (text : List Char) (value : Json) :
    IsJson (unifyNewlines text) value ↔ IsJson text value := by
  have same : Alike (unifyNewlines text) text :=
    Text.unifyNewlines_of_notMem (Text.carriageReturn_notMem_unifyNewlines text)
  constructor
  · rintro ⟨limit, depth, written⟩
    exact ⟨limit, depth, unified_written limit depth _ value text written same⟩
  · rintro ⟨limit, depth, written⟩
    exact ⟨limit, depth, unified_written limit depth text value _ written same.symm⟩

end KernelAtlas.Json
