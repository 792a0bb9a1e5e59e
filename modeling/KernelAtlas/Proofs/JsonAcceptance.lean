import KernelAtlas.Proofs.JsonReading

/-! What the grammar writes is read.

A value at the front of a text is read if nothing behind it can continue it and the fuel is twice its length. Where it
is not read, a limit is in the way. So the reader gives the values that a text has within the limits, and it finds a
fault only in a text that has no value at all. -/

set_option autoImplicit false

namespace KernelAtlas.Json

open Numeral (digitLimit)
open Text (CodePoint)

def Refusal.IsLimit : Refusal → Prop
  | .fault _ _ => False
  | .oversize _ | .tooDeep _ => True

/-- The reader gives the value and what is behind it unless a limit is in the way. -/
def Answers {α : Type} (fits : Prop) (reading : Reading α) (value : α) (rest : List Char) : Prop :=
  reading = .ok (value, rest) ∨ ¬fits ∧ ∃ refusal, Refusal.IsLimit refusal ∧ reading = .error refusal

theorem pointsFrom_append {body : List Char} {units : List CodePoint} (inside : Quoted body units)
    (opened rest : List Char) (read : List CodePoint) :
    pointsFrom opened read (body ++ '"' :: rest) = .ok ((units.foldl CodePoint.push read).reverse, rest) := by
  induction inside generalizing read with
  | nil =>
    rw [pointsFrom.eq_def]
    rfl
  | @plain c body units printable unquoted unescaped later ih =>
    rw [pointsFrom.eq_def, List.foldl_cons, CodePoint.push_scalar, ← ih]
    simp only [List.cons_append, if_neg unquoted, if_neg unescaped, if_neg (Nat.not_lt_of_le printable)]
  | @escape e c body units known later ih =>
    have other : e ≠ 'u' := by
      rintro rfl
      cases known
    rw [pointsFrom.eq_def, List.foldl_cons, CodePoint.push_scalar, ← ih]
    simp only [List.cons_append, if_neg other, known]
    rfl
  | @unit a b c d value body units digits later ih =>
    rw [pointsFrom.eq_def, List.foldl_cons, ← ih]
    cases body with
    | nil =>
      simp only [List.cons_append, List.nil_append, digits]
      rfl
    | cons e body =>
      simp only [List.cons_append, digits]
      rfl

theorem readPoints_append {text : List Char} {points : List CodePoint} (quoted : IsText text points) (rest : List Char) :
    ∃ body, text = '"' :: body ∧ readPoints (body ++ rest) = .ok (points, rest) := by
  obtain ⟨inside⟩ := quoted
  refine ⟨_, rfl, ?_⟩
  rw [readPoints, List.append_assoc]
  refine (pointsFrom_append inside _ rest []).trans ?_
  rw [reverse_foldl_push]

def Undigited (text : List Char) : Prop := ∀ c, text.head? = some c → c.isDigit = false

theorem Digits.takeWhile_append {digits rest : List Char} (run : Digits digits) (ends : Undigited rest) :
    (digits ++ rest).takeWhile Char.isDigit = digits := by
  rw [List.takeWhile_append_of_pos run.2]
  cases rest with
  | nil => simp
  | cons c rest => simp [ends c rfl]

theorem Digits.dropWhile_append {digits rest : List Char} (run : Digits digits) (ends : Undigited rest) :
    (digits ++ rest).dropWhile Char.isDigit = rest := by
  rw [List.dropWhile_append_of_pos run.2]
  cases rest with
  | nil => rfl
  | cons c rest => simp [ends c rfl]

theorem integerDigits_append {digits rest : List Char} (integer : Integer digits) (ends : Undigited rest) :
    integerDigits (digits ++ rest) = (digits, rest) := by
  cases integer with
  | zero => rfl
  | run digits leading =>
    unfold integerDigits
    split
    · rename_i same
      cases same
      exact absurd rfl leading
    · rw [digits.takeWhile_append ends, digits.dropWhile_append ends]

theorem fraction_append {places rest : List Char} (part : Fraction places) (ends : Undigited rest)
    (other : rest.head? ≠ some '.') : fraction (places ++ rest) = (places, rest) := by
  cases part with
  | none =>
    unfold fraction
    split
    · rename_i same
      cases same
      exact absurd rfl other
    · rfl
  | places digits =>
    obtain ⟨c, run, rfl⟩ := List.exists_cons_of_ne_nil digits.1
    rw [List.cons_append, fraction]
    simp only [digits.takeWhile_append ends, digits.dropWhile_append ends]

theorem exponent_append {power rest : List Char} (part : Exponent power) (ends : Undigited rest)
    (other : ∀ c, rest.head? = some c → ¬(c = 'e' ∨ c = 'E')) : exponent (power ++ rest) = (power, rest) := by
  cases part with
  | none =>
    cases rest with
    | nil => rfl
    | cons c rest => exact if_neg (other c rfl)
  | @power mark sign run marked signed digits =>
    have taken := digits.takeWhile_append ends
    have dropped := digits.dropWhile_append ends
    obtain ⟨c, tail, rfl⟩ := List.exists_cons_of_ne_nil digits.1
    have digit := digits.2 c List.mem_cons_self
    rcases signed with rfl | rfl | rfl
    · change exponent (mark :: (c :: tail ++ rest)) = _
      rw [exponent, if_pos marked, taken, dropped]
      · rfl
      · rintro after ⟨⟩
        cases digit
      · rintro after ⟨⟩
        cases digit
    · change exponent (mark :: '+' :: (c :: tail ++ rest)) = _
      rw [exponent, if_pos marked, taken, dropped]
      rfl
    · change exponent (mark :: '-' :: (c :: tail ++ rest)) = _
      rw [exponent, if_pos marked, taken, dropped]
      rfl

def Followed (rest : List Char) : Prop := ∀ c, rest.head? = some c → c ∈ followers

section
variable {rest : List Char} (followed : Followed rest)
include followed

theorem Followed.undigited : Undigited rest := fun c first => isDigit_of_mem_followers (followed c first)

theorem Followed.head_ne_point : rest.head? ≠ some '.' := fun first => absurd (followed '.' first) (by decide)

theorem Followed.unmarked : ∀ c, rest.head? = some c → ¬(c = 'e' ∨ c = 'E') := by
  rintro c first (rfl | rfl)
  · exact absurd (followed 'e' first) (by decide)
  · exact absurd (followed 'E' first) (by decide)

end

theorem Fraction.undigited {places rest : List Char} (fraction : Fraction places) (ends : Undigited rest) :
    Undigited (places ++ rest) := by
  cases fraction with
  | none => exact ends
  | places digits =>
    rintro c ⟨⟩
    rfl

theorem Exponent.undigited {power rest : List Char} (exponent : Exponent power) (ends : Undigited rest) :
    Undigited (power ++ rest) := by
  cases exponent with
  | none => exact ends
  | power marked signed digits =>
    rintro c ⟨⟩
    rcases marked with rfl | rfl
    · rfl
    · rfl

theorem Exponent.head_ne_point {power rest : List Char} (exponent : Exponent power) (other : rest.head? ≠ some '.') :
    (power ++ rest).head? ≠ some '.' := by
  cases exponent with
  | none => exact other
  | power marked signed digits =>
    rintro ⟨⟩
    exact absurd marked (by decide)

theorem readNumber_append {limit : Nat} {text rest : List Char} (number : IsNumber limit text) (followed : Followed rest) :
    Answers (limit ≤ digitLimit) (readNumber (text ++ rest)) (.number (String.ofList text)) rest := by
  obtain @⟨sign, digits, places, power, signed, integer, fraction, exponent, short⟩ := number
  have tail := exponent.undigited followed.undigited
  have whole := integerDigits_append integer (fraction.undigited tail)
  have part := fraction_append fraction tail (exponent.head_ne_point followed.head_ne_point)
  have last := exponent_append exponent followed.undigited followed.unmarked
  have filled : digits ≠ [] := integer.digits.1
  have plain : (digits ++ (places ++ (power ++ rest))).head? ≠ some '-' := by
    intro first
    obtain ⟨c, run, rfl⟩ := List.exists_cons_of_ne_nil filled
    cases first
    exact absurd (integer.digits.2 '-' List.mem_cons_self) (by decide)
  simp only [List.append_assoc]
  unfold readNumber
  split
  rename_i front unsigned start
  obtain ⟨rfl, rfl⟩ : front = sign ∧ unsigned = digits ++ (places ++ (power ++ rest)) := by
    rcases signed with rfl | rfl
    · split at start
      · rename_i behind same
        rw [List.nil_append] at same
        exact absurd (by rw [same]; rfl) plain
      · cases start
        exact ⟨rfl, rfl⟩
    · cases start
      exact ⟨rfl, rfl⟩
  simp only [whole, part, last, if_neg filled, List.append_assoc]
  split
  · rename_i integral
    split
    · rename_i refused long
      have limit := ((Numeral.read_eq_error_iff digits refused).mp long).1
      have fewer := short integral.1 integral.2
      exact .inr ⟨by omega, .oversize refused, trivial, rfl⟩
    · exact .inl rfl
  · exact .inl rfl

theorem Answers.imp {α : Type} {fits wider : Prop} {reading : Reading α} {value : α} {rest : List Char}
    (answers : Answers fits reading value rest) (narrower : wider → fits) : Answers wider reading value rest :=
  answers.imp_right fun ⟨beyond, limit⟩ => ⟨fun within => beyond (narrower within), limit⟩

theorem Answers.map {α β : Type} {fits : Prop} {reading : Reading α} {value : α} {rest : List Char} (f : α → β)
    (answers : Answers fits reading value rest) :
    Answers fits (reading.map fun read => (f read.1, read.2)) (f value) rest := by
  rcases answers with rfl | ⟨beyond, refusal, limit, rfl⟩
  · exact .inl rfl
  · exact .inr ⟨beyond, refusal, limit, rfl⟩

theorem Answers.andThen {α β : Type} {fits : Prop} {first : Reading α} {value : α} {left : List Char} {whole : Reading β}
    {result : β} {rest : List Char} (answers : Answers fits first value left)
    (success : first = .ok (value, left) → Answers fits whole result rest)
    (failure : ∀ refusal, first = .error refusal → whole = .error refusal) : Answers fits whole result rest := by
  rcases answers with read | ⟨beyond, refusal, limit, failed⟩
  · exact success read
  · exact .inr ⟨beyond, refusal, limit, failure refusal failed⟩

theorem mem_followers_of_isSpace {c : Char} (space : isSpace c = true) : c ∈ followers := by
  simp only [isSpace, Bool.or_eq_true, beq_iff_eq] at space
  rcases space with ((rfl | rfl) | rfl) | rfl
  all_goals decide

theorem skip_append {space : List Char} (blank : Blank space) {c : Char} (other : isSpace c = false) (rest : List Char) :
    skip (space ++ c :: rest) = c :: rest := by
  rw [skip, List.dropWhile_append_of_pos blank, List.dropWhile_cons_of_neg (Bool.not_eq_true _ ▸ other)]

theorem skip_append_of_starts {space text : List Char} (blank : Blank space) (starts : Starts text) :
    skip (space ++ text) = text := by
  obtain ⟨c, rest, rfl, first, -⟩ := starts
  exact skip_append blank (Bool.eq_false_iff.mpr fun space => first (mem_followers_of_isSpace space)) rest

theorem followed_append {space : List Char} (blank : Blank space) {c : Char} (follows : c ∈ followers) (rest : List Char) :
    Followed (space ++ c :: rest) := by
  intro d first
  cases space with
  | nil =>
    cases first
    exact follows
  | cons e space =>
    cases first
    exact mem_followers_of_isSpace (blank d List.mem_cons_self)

section
variable {α : Type} (fits : Prop) (item : List Char → α → Prop) (closing : Char)

/-- How a list goes on behind an item: it is closed, or more items are read behind a comma. -/
inductive Continues (next : List α → List Char → Reading (List α)) (read : List α) (rest : List Char) :
    List α → List Char → Prop where
  | closed {left : List Char} (last : skip rest = closing :: left) : Continues next read rest read.reverse left
  | comma {left behind : List Char} {all : List α} (more : skip rest = ',' :: left)
      (further : Answers fits (next read (skip left)) all behind) : Continues next read rest all behind

/-- A reader that takes one item after the other, each with one unit of fuel. -/
def Loops (loop : Nat → List α → List Char → Reading (List α)) : Prop :=
  ∀ ⦃text x rest fuel read all behind⦄, item text x → 2 * text.length ≤ fuel → Followed rest →
    Continues fits closing (loop fuel) (x :: read) rest all behind →
      Answers fits (loop (fuel + 1) read (text ++ rest)) all behind

variable {fits item closing} {loop : Nat → List α → List Char → Reading (List α)}

theorem Loops.answers (loops : Loops fits item closing loop) (starts : ∀ text x, item text x → Starts text)
    (follows : closing ∈ followers) (solid : isSpace closing = false) {inner : List Char} {xs : List α}
    (listed : Listed item inner xs) (rest : List Char) {fuel : Nat} (enough : 2 * inner.length + 1 ≤ fuel) (read : List α) :
    Answers fits (loop fuel read (skip (inner ++ closing :: rest))) (read.reverse ++ xs) rest := by
  -- An item and the comma behind it are longer than the unit of fuel that they take.
  obtain ⟨fuel, rfl⟩ : ∃ less, fuel = less + 1 := ⟨fuel - 1, by omega⟩
  induction listed generalizing fuel read with
  | @last before text after x front one back =>
    have start : skip (before ++ (text ++ after) ++ closing :: rest) = text ++ (after ++ closing :: rest) := by
      simpa using skip_append_of_starts front ((starts text x one).append (after ++ closing :: rest))
    simp only [List.length_append] at enough
    rw [start, ← List.reverse_cons]
    exact loops one (by omega) (followed_append back follows rest) (.closed (skip_append back solid rest))
  | @more before text after inner x xs front one back others ih =>
    have start : skip (before ++ (text ++ (after ++ ',' :: inner)) ++ closing :: rest) =
        text ++ (after ++ ',' :: (inner ++ closing :: rest)) := by
      simpa using skip_append_of_starts front ((starts text x one).append (after ++ ',' :: (inner ++ closing :: rest)))
    have followed : Followed (after ++ ',' :: (inner ++ closing :: rest)) := followed_append back (by decide) _
    simp only [List.length_append, List.length_cons] at enough
    rw [start]
    refine loops one (by omega) followed (.comma (skip_append back (by decide) _) ?_)
    obtain ⟨fuel, rfl⟩ : ∃ less, fuel = less + 1 := ⟨fuel - 1, by omega⟩
    simpa using ih (x :: read) fuel (by omega)

end

section
variable {nested : List Char → Json → Prop} {fits : Prop} {depth : Nat}
  (answers : ∀ text value, nested text value → ∀ fuel rest, 2 * text.length ≤ fuel → Followed rest →
    Answers fits (valueFrom fuel depth (text ++ rest)) value rest)
include answers

theorem loops_itemsFrom : Loops fits nested ']' (itemsFrom · depth) := by
  intro text value rest fuel read all behind one enough followed continues
  simp only [itemsFrom]
  refine (answers text value one fuel rest enough followed).andThen ?_ ?_
  · intro taken
    rw [taken]
    cases continues with
    | closed last =>
      simp only [last]
      exact .inl rfl
    | comma more further =>
      simp only [more]
      exact further
  · intro refusal failed
    rw [failed]

theorem loops_fieldsFrom (starts : ∀ text value, nested text value → Starts text) :
    Loops fits (Field nested) '\x7d' (fieldsFrom · depth) := by
  intro text field rest fuel read all behind one enough followed continues
  obtain @⟨name, before, after, text, points, content, quoted, front, back, valued⟩ := one
  obtain ⟨body, rfl, named⟩ := readPoints_append quoted (before ++ ':' :: (after ++ (text ++ rest)))
  have colon : skip (before ++ ':' :: (after ++ (text ++ rest))) = ':' :: (after ++ (text ++ rest)) :=
    skip_append front (by decide) _
  have start : skip (after ++ (text ++ rest)) = text ++ rest :=
    skip_append_of_starts back ((starts text content valued).append rest)
  have whole : '"' :: body ++ (before ++ ':' :: (after ++ text)) ++ rest =
      '"' :: (body ++ (before ++ ':' :: (after ++ (text ++ rest)))) := by
    simp
  simp only [List.length_append, List.length_cons] at enough
  simp only [whole, fieldsFrom, named, colon, start]
  refine (answers text content valued fuel rest (by omega) followed).andThen ?_ ?_
  · intro taken
    rw [taken]
    cases continues with
    | closed last =>
      simp only [last]
      exact .inl rfl
    | comma more further =>
      simp only [more]
      exact further
  · intro refusal failed
    rw [failed]

end

theorem word?_append {word : List Char × Json} (known : word ∈ words) (rest : List Char) :
    word? (word.1 ++ rest) = some (word.2, rest) := by
  simp only [words, List.mem_cons, List.not_mem_nil, or_false] at known
  rcases known with rfl | rfl | rfl | rfl | rfl | rfl
  all_goals rfl

-- No word starts with a digit, and the one that starts with a sign goes on with a letter.
theorem word?_number {sign digits : List Char} (signed : sign = [] ∨ sign = ['-']) (integer : Digits digits)
    (rest : List Char) : word? (sign ++ (digits ++ rest)) = none := by
  obtain ⟨c, tail, rfl⟩ := List.exists_cons_of_ne_nil integer.1
  have digit := integer.2 c List.mem_cons_self
  have other {d : Char} (letter : d.isDigit = false) : (d == c) = false := by
    rw [beq_eq_false_iff_ne]
    rintro rfl
    rw [letter] at digit
    cases digit
  rcases signed with rfl | rfl
  · simp [word?, words, List.isPrefixOf, other]
  · simp [word?, words, List.isPrefixOf, other]

theorem valueFrom_other {c : Char} (quote : c ≠ '"') (list : c ≠ '[') (object : c ≠ '\x7b') (fuel depth : Nat)
    (rest : List Char) :
    valueFrom (fuel + 1) depth (c :: rest) = (word? (c :: rest)).elim (readNumber (c :: rest)) .ok := by
  rw [valueFrom]
  · cases word? (c :: rest) with
    | none => rfl
    | some read => rfl
  · rintro after ⟨⟩
    exact quote rfl
  · rintro after ⟨⟩
    exact list rfl
  · rintro after ⟨⟩
    exact object rfl

theorem valueFrom_word {word : List Char × Json} (known : word ∈ words) (fuel depth : Nat) (rest : List Char) :
    valueFrom (fuel + 1) depth (word.1 ++ rest) = .ok (word.2, rest) := by
  have read := word?_append known rest
  obtain ⟨c, tail, same, other⟩ : ∃ c tail, word.1 ++ rest = c :: tail ∧ c ≠ '"' ∧ c ≠ '[' ∧ c ≠ '\x7b' := by
    simp only [words, List.mem_cons, List.not_mem_nil, or_false] at known
    rcases known with rfl | rfl | rfl | rfl | rfl | rfl
    all_goals exact ⟨_, _, rfl, by decide⟩
  rw [same] at read ⊢
  rw [valueFrom_other other.1 other.2.1 other.2.2, read, Option.elim_some]

theorem valueFrom_number {limit : Nat} {text : List Char} (number : IsNumber limit text) (fuel depth : Nat)
    (rest : List Char) : valueFrom (fuel + 1) depth (text ++ rest) = readNumber (text ++ rest) := by
  obtain @⟨sign, digits, places, power, signed, integer, -, -, -⟩ := number
  have none := word?_number signed integer.digits (places ++ (power ++ rest))
  obtain ⟨c, tail, same, other⟩ : ∃ c tail, sign ++ (digits ++ (places ++ (power ++ rest))) = c :: tail ∧
      c ≠ '"' ∧ c ≠ '[' ∧ c ≠ '\x7b' := by
    rcases signed with rfl | rfl
    · obtain ⟨c, tail, rfl⟩ := List.exists_cons_of_ne_nil integer.digits.1
      have digit := integer.digits.2 c List.mem_cons_self
      refine ⟨c, _, rfl, ?_, ?_, ?_⟩
      all_goals
        rintro rfl
        cases digit
    · exact ⟨'-', _, rfl, by decide⟩
  rw [List.append_assoc, List.append_assoc, List.append_assoc]
  rw [same] at none ⊢
  rw [valueFrom_other other.1 other.2.1 other.2.2, none, Option.elim_none]

theorem Scalar.answers {limit : Nat} {text : List Char} {value : Json} (plain : Scalar limit text value) (fuel depth : Nat)
    {rest : List Char} (followed : Followed rest) :
    Answers (limit ≤ digitLimit) (valueFrom (fuel + 1) depth (text ++ rest)) value rest := by
  cases plain with
  | text quoted =>
    obtain ⟨body, rfl, read⟩ := readPoints_append quoted rest
    rw [List.cons_append, valueFrom, read]
    exact .inl rfl
  | word known => exact .inl (valueFrom_word known fuel depth rest)
  | number number =>
    rw [valueFrom_number number]
    exact readNumber_append number followed

theorem Listed.starts_skip {α : Type} {item : List Char → α → Prop} (starts : ∀ text x, item text x → Starts text)
    {inner : List Char} {xs : List α} (listed : Listed item inner xs) (rest : List Char) :
    Starts (skip (inner ++ rest)) := by
  cases listed with
  | @last before text after x front one back =>
    have start := (starts text x one).append (after ++ rest)
    rw [List.append_assoc, List.append_assoc, skip_append_of_starts front start]
    exact start
  | @more before text after inner x xs front one back others =>
    have start := (starts text x one).append (after ++ ',' :: inner ++ rest)
    rw [List.append_assoc, List.append_assoc, skip_append_of_starts front start]
    exact start

section
variable {fuel depth : Nat} {rest : List Char}

theorem valueFrom_items (starts : Starts (skip rest)) :
    valueFrom (fuel + 1) (depth + 1) ('[' :: rest) =
      (itemsFrom fuel depth [] (skip rest)).map fun read => (.array read.1, read.2) := by
  rw [valueFrom]
  split
  · rename_i left closed
    obtain ⟨c, tail, same, other, -⟩ := starts
    rw [closed] at same
    cases same
    exact absurd (by decide) other
  · rfl

theorem valueFrom_fields (starts : Starts (skip rest)) :
    valueFrom (fuel + 1) (depth + 1) ('\x7b' :: rest) =
      (fieldsFrom fuel depth [] (skip rest)).map fun read => (.object read.1, read.2) := by
  rw [valueFrom]
  split
  · rename_i left closed
    obtain ⟨c, tail, same, other, -⟩ := starts
    rw [closed] at same
    cases same
    exact absurd (by decide) other
  · rfl

end

section
variable {limit reach fuel depth : Nat}
  (nested : ∀ text value, IsValue limit reach text value → ∀ fuel rest, 2 * text.length ≤ fuel → Followed rest →
    Answers (limit ≤ digitLimit ∧ reach ≤ depth) (valueFrom fuel depth (text ++ rest)) value rest)
include nested

theorem answers_array {text : List Char} {items : List Json} (enclosed : Enclosed (IsValue limit reach) '[' ']' text items)
    (enough : 2 * text.length ≤ fuel + 1) (rest : List Char) :
    Answers (limit ≤ digitLimit ∧ reach ≤ depth) (valueFrom (fuel + 1) (depth + 1) (text ++ rest)) (.array items) rest := by
  cases enclosed with
  | @empty space blank =>
    have closed : skip (space ++ ']' :: rest) = ']' :: rest := skip_append blank (by decide) rest
    rw [List.cons_append, List.append_assoc, List.singleton_append, valueFrom, closed]
    exact .inl rfl
  | @items inner _ listed =>
    have starts (text : List Char) (value : Json) (valued : IsValue limit reach text value) : Starts text := valued.starts
    have short : 2 * inner.length + 1 ≤ fuel := by
      simp only [List.length_cons, List.length_append] at enough
      omega
    rw [List.cons_append, List.append_assoc, List.singleton_append, valueFrom_items (listed.starts_skip starts _)]
    exact ((loops_itemsFrom nested).answers starts (by decide) (by decide) listed rest short []).map Json.array

theorem answers_object {text : List Char} {fields : List (String × Json)}
    (enclosed : Enclosed (Field (IsValue limit reach)) '\x7b' '\x7d' text fields)
    (enough : 2 * text.length ≤ fuel + 1) (rest : List Char) :
    Answers (limit ≤ digitLimit ∧ reach ≤ depth) (valueFrom (fuel + 1) (depth + 1) (text ++ rest)) (.object fields) rest := by
  cases enclosed with
  | @empty space blank =>
    have closed : skip (space ++ '\x7d' :: rest) = '\x7d' :: rest := skip_append blank (by decide) rest
    rw [List.cons_append, List.append_assoc, List.singleton_append, valueFrom, closed]
    exact .inl rfl
  | @items inner _ listed =>
    have starts (text : List Char) (value : Json) (valued : IsValue limit reach text value) : Starts text := valued.starts
    have short : 2 * inner.length + 1 ≤ fuel := by
      simp only [List.length_cons, List.length_append] at enough
      omega
    rw [List.cons_append, List.append_assoc, List.singleton_append,
      valueFrom_fields (listed.starts_skip (fun text field named => named.starts) _)]
    have loops := loops_fieldsFrom nested starts
    exact (loops.answers (fun text field named => named.starts) (by decide) (by decide) listed rest short []).map Json.object

end

/-- A value is read from the front of a text. If it is not, it is beyond the limits. -/
theorem IsValue.answers {limit reach : Nat} {text : List Char} {value : Json} (valued : IsValue limit reach text value)
    (depth : Nat) {fuel : Nat} (enough : 2 * text.length ≤ fuel) {rest : List Char} (followed : Followed rest) :
    Answers (limit ≤ digitLimit ∧ reach ≤ depth) (valueFrom fuel depth (text ++ rest)) value rest := by
  -- By induction on how deep the grammar goes. The reader may stop above that, at its own limit.
  induction reach generalizing text value fuel depth rest with
  | zero =>
    have filled := valued.starts.length_pos
    obtain ⟨fuel, rfl⟩ : ∃ less, fuel = less + 1 := ⟨fuel - 1, by omega⟩
    exact (Scalar.answers valued fuel depth followed).imp And.left
  | succ reach ih =>
    have filled := valued.starts.length_pos
    obtain ⟨fuel, rfl⟩ : ∃ less, fuel = less + 1 := ⟨fuel - 1, by omega⟩
    have nested (depth : Nat) (text : List Char) (value : Json) (valued : IsValue limit reach text value) (fuel : Nat)
      (rest : List Char) (enough : 2 * text.length ≤ fuel) (followed : Followed rest) := ih valued depth enough followed
    cases valued with
    | scalar plain => exact (plain.answers fuel depth followed).imp And.left
    | array enclosed =>
      cases depth with
      | zero =>
        obtain ⟨tail, rfl⟩ := enclosed.exists_cons
        rw [List.cons_append, valueFrom]
        exact .inr ⟨by omega, .tooDeep .array, trivial, rfl⟩
      | succ depth => exact (answers_array (nested depth) enclosed enough rest).imp (And.imp_right Nat.le_of_succ_le_succ)
    | object enclosed =>
      cases depth with
      | zero =>
        obtain ⟨tail, rfl⟩ := enclosed.exists_cons
        rw [List.cons_append, valueFrom]
        exact .inr ⟨by omega, .tooDeep .object, trivial, rfl⟩
      | succ depth => exact (answers_object (nested depth) enclosed enough rest).imp (And.imp_right Nat.le_of_succ_le_succ)

theorem skip_of_blank {space : List Char} (blank : Blank space) : skip space = [] := by
  rw [← List.append_nil space, skip, List.dropWhile_append_of_pos blank]
  rfl

theorem followed_of_blank {space : List Char} (blank : Blank space) : Followed space := by
  intro c first
  obtain ⟨rest, rfl⟩ := List.head?_eq_some_iff.mp first
  exact mem_followers_of_isSpace (blank c List.mem_cons_self)

theorem Written.unmarked {limit reach : Nat} {text : List Char} {value : Json} (written : Written limit reach text value) :
    text.head? ≠ some (Char.ofNat 0xFEFF) := by
  obtain @⟨before, text, after, value, front, valued, back⟩ := written
  intro marked
  cases before with
  | nil =>
    obtain ⟨c, rest, rfl, -, ascii⟩ := valued.starts
    cases marked
    exact absurd ascii (by decide)
  | cons c before =>
    cases marked
    exact absurd (front _ List.mem_cons_self) (by decide)

/-- A text with a value is parsed, or the value is beyond the limits. -/
theorem Written.parse {limit reach : Nat} {text : List Char} {value : Json} (written : Written limit reach text value)
    (depth : Nat) :
    parse depth text = .ok value ∨ ¬(limit ≤ digitLimit ∧ reach ≤ depth) ∧
      ∃ refusal, Refusal.IsLimit refusal ∧ parse depth text = .error refusal := by
  have unmarked := written.unmarked
  obtain @⟨before, text, after, value, front, valued, back⟩ := written
  have start : skip (before ++ (text ++ after)) = text ++ after := skip_append_of_starts front (valued.starts.append after)
  have enough : 2 * text.length ≤ 2 * (before ++ (text ++ after)).length + 2 := by
    simp only [List.length_append]
    omega
  rw [Json.parse, if_neg unmarked, start]
  rcases valued.answers depth enough (followed_of_blank back) with read | ⟨beyond, refusal, limit, failed⟩
  · left
    rw [read]
    simp only [skip_of_blank back]
  · right
    rw [failed]
    exact ⟨beyond, refusal, limit, rfl⟩

/-- The parser gives the value that a text has within the limits. -/
theorem parse_eq_ok_iff (depth : Nat) (text : List Char) (value : Json) :
    parse depth text = .ok value ↔ Written digitLimit depth text value := by
  constructor
  · exact written_of_parse
  · intro written
    exact (written.parse depth).resolve_right fun beyond => beyond.1 ⟨Nat.le_refl _, Nat.le_refl _⟩

/-- A text in which a fault is found has no value, not even one beyond the limits. -/
theorem not_isJson_of_fault {depth : Nat} {text : List Char} {cause : Cause} {left : List Char}
    (refused : parse depth text = .error (.fault cause left)) (value : Json) : ¬IsJson text value := by
  rintro ⟨limit, reach, written⟩
  rcases written.parse depth with parsed | ⟨-, refusal, limited, failed⟩
  · rw [refused] at parsed
    cases parsed
  · rw [refused] at failed
    cases failed
    exact limited

end KernelAtlas.Json
