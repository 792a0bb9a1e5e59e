import KernelAtlas.Proofs.JsonGrammar

/-! What the reader takes is written by the grammar.

A value that is read stands at the front of the text, within the limits. A refusal for the sake of a limit has its
reason in the text: a run of digits that is too long, or too many openings. -/

set_option autoImplicit false

namespace KernelAtlas.Json

open Numeral (digitLimit)
open Text (CodePoint)

def isOpening (c : Char) : Bool := c == '[' || c == '\x7b'

/-- What a refusal tells about a text in which lists and objects may lie `depth` deep. -/
def Refusal.Explains (depth : Nat) (text : List Char) : Refusal → Prop
  | .fault _ _ => True
  | .oversize _ => ∃ run, run <:+: text ∧ (∀ c ∈ run, c.isDigit = true) ∧ digitLimit < run.length
  | .tooDeep _ => depth < text.countP isOpening

section
variable {depth : Nat} {text rest : List Char} {refusal : Refusal}

theorem Refusal.Explains.of_suffix (explains : refusal.Explains depth rest) (suffix : rest <:+ text) :
    refusal.Explains depth text := by
  cases refusal with
  | fault cause left => trivial
  | oversize refused =>
    obtain ⟨run, inside, digits, long⟩ := explains
    exact ⟨run, inside.trans suffix.isInfix, digits, long⟩
  | tooDeep nest => exact Nat.lt_of_lt_of_le explains (suffix.sublist.countP_le)

theorem Refusal.Explains.nested (explains : refusal.Explains depth rest) (suffix : rest <:+ text) {c : Char}
    (opening : isOpening c = true) : refusal.Explains (depth + 1) (c :: text) := by
  cases refusal with
  | fault cause left => trivial
  | oversize refused => exact of_suffix explains (suffix.trans (List.suffix_cons c text))
  | tooDeep nest =>
    have fewer : rest.countP isOpening ≤ text.countP isOpening := suffix.sublist.countP_le
    have deep : depth < rest.countP isOpening := explains
    change depth + 1 < (c :: text).countP isOpening
    rw [List.countP_cons_of_pos opening]
    omega

end

/-- A reader takes a text of its kind from the front, or its refusal is explained. -/
def Sound {α : Type} (accepts : List Char → α → Prop) (depth : Nat) (text : List Char) : Reading α → Prop
  | .ok (value, rest) => ∃ front, text = front ++ rest ∧ accepts front value
  | .error refusal => refusal.Explains depth text

theorem exists_skip (text : List Char) : ∃ space, Blank space ∧ text = space ++ skip text :=
  ⟨text.takeWhile isSpace, List.all_eq_true.mp List.all_takeWhile, List.takeWhile_append_dropWhile.symm⟩

theorem skip_suffix (text : List Char) : skip text <:+ text := List.dropWhile_suffix isSpace

section
variable {α β : Type} {accepts : List Char → α → Prop} {depth : Nat} {rest : List Char} {reading : Reading α}

theorem Sound.extend {wider : List Char → α → Prop} (sound : Sound accepts depth rest reading) (part : List Char)
    (grows : ∀ front value, accepts front value → wider (part ++ front) value) :
    Sound wider depth (part ++ rest) reading := by
  match reading, sound with
  | .ok (value, left), ⟨front, split, accepted⟩ =>
    exact ⟨part ++ front, by rw [split, List.append_assoc], grows front value accepted⟩
  | .error refusal, explains => exact explains.of_suffix (List.suffix_append part rest)

theorem Sound.map {wider : List Char → β → Prop} {f : α → β} (sound : Sound accepts depth rest reading)
    (maps : ∀ front value, accepts front value → wider front (f value)) :
    Sound wider depth rest (reading.map fun read => (f read.1, read.2)) := by
  match reading, sound with
  | .ok (value, left), ⟨front, split, accepted⟩ => exact ⟨front, split, maps front value accepted⟩
  | .error refusal, explains => exact explains

/-- What is read behind an opening lies one deeper. -/
theorem Sound.enclosed {wider : List Char → β → Prop} {f : α → β} {opening : Char} (opens : isOpening opening = true)
    (sound : Sound accepts depth (skip rest) reading)
    (grows : ∀ space front value, Blank space → accepts front value → wider (opening :: (space ++ front)) (f value)) :
    Sound wider (depth + 1) (opening :: rest) (reading.map fun read => (f read.1, read.2)) := by
  obtain ⟨space, blank, behind⟩ := exists_skip rest
  match reading, sound with
  | .ok (value, left), ⟨front, split, accepted⟩ =>
    refine ⟨opening :: (space ++ front), ?_, grows space front value blank accepted⟩
    rw [List.cons_append, List.append_assoc, ← split, ← behind]
  | .error refusal, explains => exact explains.nested (skip_suffix rest) opens

end

/-- The end of a quoted text behind the points that are read, the latest of which stands first. -/
inductive Unquotes (read : List CodePoint) : List Char → List CodePoint → Prop where
  | closed {body : List Char} {units : List CodePoint} (inside : Quoted body units) :
    Unquotes read (body ++ ['"']) (units.foldl CodePoint.push read).reverse

theorem pointsFrom_sound (depth : Nat) (opened text : List Char) (read : List CodePoint) :
    Sound (Unquotes read) depth text (pointsFrom opened read text) := by
  fun_induction pointsFrom opened read text with
  | case2 read rest => exact ⟨['"'], rfl, .closed .nil⟩
  | case5 read a b c d next more value digits unescaped ih =>
    refine ih.extend ['\\', 'u', a, b, c, d] fun front points accepted => ?_
    obtain ⟨inside⟩ := accepted
    exact .closed (.unit digits inside)
  | case8 read e rest unit plain known unescaped ih =>
    refine ih.extend ['\\', e] fun front points accepted => ?_
    obtain ⟨inside⟩ := accepted
    rw [← CodePoint.push_scalar]
    exact .closed (.escape known inside)
  | case10 read c rest unquoted unescaped printable ih =>
    refine ih.extend [c] fun front points accepted => ?_
    obtain ⟨inside⟩ := accepted
    rw [← CodePoint.push_scalar]
    exact .closed (.plain (Nat.le_of_not_lt printable) unquoted unescaped inside)
  | _ => trivial

/-- The last point that is read makes no pair with the next one. -/
def Apart (read units : List CodePoint) : Prop := ∀ high low, read.head? = some (.surrogate high) →
  units.head? = some (.surrogate low) → (CodePoint.isHigh high && CodePoint.isLow low) = false

theorem Apart.push {read rest : List CodePoint} {next : CodePoint} (apart : Apart read (next :: rest)) :
    CodePoint.push read next = next :: read := by
  unfold CodePoint.push
  split
  · rename_i high earlier low
    rw [apart high low rfl rfl]
    rfl
  · rfl

-- A character that two points make is no surrogate, so it joins no other.
theorem foldl_push {read units : List CodePoint} (apart : Apart read units) :
    units.foldl CodePoint.push read = (paired units).reverse ++ read := by
  fun_induction paired units generalizing read with
  | case1 high low rest pair ih =>
    have joined : CodePoint.push (.surrogate high :: read) (.surrogate low) = .scalar (CodePoint.ofPair high low) :: read :=
      if_pos pair
    rw [List.foldl_cons, List.foldl_cons, apart.push, joined, ih (fun _ _ none => by cases none), List.reverse_cons,
      List.append_assoc]
    rfl
  | case2 high low rest alone ih =>
    have next : Apart (.surrogate high :: read) (.surrogate low :: rest) := by
      rintro _ _ ⟨⟩ ⟨⟩
      exact Bool.eq_false_iff.mpr alone
    rw [List.foldl_cons, apart.push, ih next, List.reverse_cons, List.append_assoc]
    rfl
  | case3 point rest single ih =>
    have next : Apart (point :: read) rest := by
      rintro high low ⟨⟩ first
      obtain ⟨behind, rfl⟩ := List.head?_eq_some_iff.mp first
      exact (single high low behind rfl rfl).elim
    rw [List.foldl_cons, apart.push, ih next, List.reverse_cons, List.append_assoc]
    rfl
  | case4 => rfl

theorem reverse_foldl_push (units : List CodePoint) : (units.foldl CodePoint.push []).reverse = paired units := by
  have apart : Apart [] units := fun _ _ none => by cases none
  rw [foldl_push apart, List.append_nil, List.reverse_reverse]

theorem readPoints_sound (depth : Nat) (text : List Char) : Sound IsText depth ('"' :: text) (readPoints text) := by
  refine (pointsFrom_sound depth ('"' :: text) text []).extend ['"'] fun front points accepted => ?_
  obtain ⟨inside⟩ := accepted
  rw [reverse_foldl_push]
  exact .quoted inside

theorem digits_takeWhile {text : List Char} (filled : text.takeWhile Char.isDigit ≠ []) :
    Digits (text.takeWhile Char.isDigit) := ⟨filled, List.all_eq_true.mp List.all_takeWhile⟩

theorem integerDigits_sound {text digits rest : List Char} (read : integerDigits text = (digits, rest)) :
    text = digits ++ rest ∧ (digits = [] ∨ Integer digits) := by
  unfold integerDigits at read
  split at read
  · cases read
    exact ⟨rfl, .inr .zero⟩
  · rename_i other
    cases read
    refine ⟨List.takeWhile_append_dropWhile.symm, ?_⟩
    cases text with
    | nil => exact .inl rfl
    | cons c text =>
      by_cases digit : c.isDigit = true
      · have taken : (c :: text).takeWhile Char.isDigit = c :: text.takeWhile Char.isDigit :=
          List.takeWhile_cons_of_pos digit
        have leading : c ≠ '0' := by
          rintro rfl
          exact other text rfl
        rw [taken]
        exact .inr (.run (taken ▸ digits_takeWhile (by simp [taken])) leading)
      · exact .inl (List.takeWhile_cons_of_neg digit)

theorem fraction_sound {text places rest : List Char} (read : fraction text = (places, rest)) :
    text = places ++ rest ∧ Fraction places := by
  unfold fraction at read
  split at read
  · split at read
    · cases read
      exact ⟨rfl, .none⟩
    · rename_i filled
      cases read
      exact ⟨by rw [List.cons_append, List.takeWhile_append_dropWhile], .places (digits_takeWhile filled)⟩
  · cases read
    exact ⟨rfl, .none⟩

theorem exponent_sound {text power rest : List Char} (read : exponent text = (power, rest)) :
    text = power ++ rest ∧ Exponent power := by
  unfold exponent at read
  split at read
  · cases read
    exact ⟨rfl, .none⟩
  · rename_i mark behind
    split at read
    · rename_i marked
      split at read
      rename_i sign run found
      have signed : (sign = [] ∨ sign = ['+'] ∨ sign = ['-']) ∧ behind = sign ++ run := by
        split at found
        all_goals
          cases found
          simp
      split at read
      · cases read
        exact ⟨rfl, .none⟩
      · rename_i filled
        cases read
        refine ⟨?_, .power marked signed.1 (digits_takeWhile filled)⟩
        rw [List.cons_append, List.cons_append, List.append_assoc, List.takeWhile_append_dropWhile, signed.2]
    · cases read
      exact ⟨rfl, .none⟩

theorem readNumber_sound (depth : Nat) (text : List Char) :
    Sound (Scalar digitLimit) depth text (readNumber text) := by
  unfold readNumber
  split
  rename_i sign unsigned signed
  have start : (sign = [] ∨ sign = ['-']) ∧ text = sign ++ unsigned := by
    split at signed
    all_goals
      cases signed
      simp
  split
  rename_i digits behind integer
  obtain ⟨whole, known⟩ := integerDigits_sound integer
  split
  · trivial
  · rename_i filled
    split
    rename_i places further fractional
    obtain ⟨cut, fraction⟩ := fraction_sound fractional
    split
    rename_i power rest exponential
    obtain ⟨last, exponent⟩ := exponent_sound exponential
    have integer := known.resolve_left filled
    have split : text = sign ++ (digits ++ (places ++ power)) ++ rest := by
      simp only [start.2, whole, cut, last, List.append_assoc]
    have number (short : places = [] → power = [] → digits.length ≤ digitLimit) :
        Scalar digitLimit (sign ++ (digits ++ (places ++ power)))
          (.number (String.ofList (sign ++ digits ++ places ++ power))) := by
      rw [List.append_assoc, List.append_assoc]
      exact .number (.parts start.1 integer fraction exponent short)
    split
    · split
      · rename_i refused long
        have limit := ((Numeral.read_eq_error_iff digits refused).mp long).1
        refine ⟨digits, ⟨sign, places ++ power ++ rest, ?_⟩, integer.digits.2, limit⟩
        simp only [split, List.append_assoc]
      · rename_i value short
        refine ⟨_, split, number fun _ _ => ?_⟩
        by_contra long
        rw [Numeral.read, if_neg long] at short
        cases short
    · rename_i inexact
      exact ⟨_, split, number fun none nothing => absurd ⟨none, nothing⟩ inexact⟩

theorem Listed.blank_append {α : Type} {item : List Char → α → Prop} {space inner : List Char} {xs : List α}
    (blank : Blank space) (listed : Listed item inner xs) : Listed item (space ++ inner) xs := by
  have both {before : List Char} (front : Blank before) : Blank (space ++ before) := by
    intro c member
    exact (List.mem_append.mp member).elim (blank c) (front c)
  cases listed with
  | last front one back =>
    rw [← List.append_assoc]
    exact .last (both front) one back
  | more front one back others =>
    rw [← List.append_assoc]
    exact .more (both front) one back others

section
variable {α : Type} (item : List Char → α → Prop) (closing : Char)

/-- The end of a list behind the items that are read, the latest of which stands first. -/
inductive Closes (read : List α) : List Char → List α → Prop where
  | closed {inner : List Char} {xs : List α} (listed : Listed item inner xs) :
    Closes read (inner ++ [closing]) (read.reverse ++ xs)

variable {item closing} {read : List α} {text after : List Char} {x : α}

theorem sound_closed {depth : Nat} {rest left : List Char} (one : item text x) (closed : skip rest = closing :: left) :
    Sound (Closes item closing read) depth (text ++ rest) (.ok ((x :: read).reverse, left)) := by
  obtain ⟨after, back, behind⟩ := exists_skip rest
  have none : Blank [] := fun c member => by cases member
  refine ⟨[] ++ (text ++ after) ++ [closing], ?_, ?_⟩
  · rw [behind, closed, List.nil_append, List.append_assoc, List.append_assoc]
    rfl
  · rw [List.reverse_cons]
    exact .closed (.last none one back)

theorem sound_comma {depth : Nat} {rest left : List Char} {reading : Reading (List α)} (one : item text x)
    (comma : skip rest = ',' :: left) (further : Sound (Closes item closing (x :: read)) depth (skip left) reading) :
    Sound (Closes item closing read) depth (text ++ rest) reading := by
  obtain ⟨after, back, behind⟩ := exists_skip rest
  obtain ⟨space, blank, beyond⟩ := exists_skip left
  have whole : text ++ rest = text ++ (after ++ ',' :: space) ++ skip left := by
    rw [behind, comma, List.append_assoc, List.append_assoc, List.cons_append, ← beyond]
  rw [whole]
  refine further.extend _ fun front all closes => ?_
  obtain @⟨inner, xs, listed⟩ := closes
  have none : Blank [] := fun c member => by cases member
  have longer : Closes item closing read ([] ++ (text ++ (after ++ ',' :: (space ++ inner))) ++ [closing])
      (read.reverse ++ x :: xs) := .closed (.more none one back (listed.blank_append blank))
  simpa using longer

end

theorem Scalar.isValue {limit depth : Nat} {text : List Char} {value : Json} (plain : Scalar limit text value) :
    IsValue limit depth text value := by
  cases depth with
  | zero => exact plain
  | succ depth => exact .scalar plain

theorem word?_eq_some {text : List Char} {read : Json × List Char} (known : word? text = some read) :
    ∃ word ∈ words, read = (word.2, read.2) ∧ text = word.1 ++ read.2 := by
  obtain ⟨word, found, rfl⟩ := Option.map_eq_some_iff.mp known
  have holds := List.find?_some found
  have front : word.1 <+: text := List.isPrefixOf_iff_prefix.mp holds
  exact ⟨word, List.mem_of_find?_eq_some found, rfl, (List.prefix_iff_eq_append.mp front).symm⟩

theorem exists_field {nested : List Char → Json → Prop} {name behind left inner rest : List Char} {points : List CodePoint}
    {content : Json} (quoted : IsText name points) (colon : skip behind = ':' :: left) (split : skip left = inner ++ rest)
    (valued : nested inner content) :
    ∃ front, name ++ behind = front ++ rest ∧ Field nested front (String.ofList (points.map CodePoint.char), content) := by
  obtain ⟨before, front, further⟩ := exists_skip behind
  obtain ⟨after, back, beyond⟩ := exists_skip left
  refine ⟨_, ?_, .named quoted front back valued⟩
  rw [further, colon, beyond, split]
  simp only [List.append_assoc, List.cons_append]

section
variable {fuel depth : Nat} (value : ∀ text, Sound (IsValue digitLimit depth) depth text (valueFrom fuel depth text))
include value

theorem itemsFrom_sound_step
    (items : ∀ read text, Sound (Closes (IsValue digitLimit depth) ']' read) depth text (itemsFrom fuel depth read text))
    (read : List Json) (text : List Char) :
    Sound (Closes (IsValue digitLimit depth) ']' read) depth text (itemsFrom (fuel + 1) depth read text) := by
  have first := value text
  rw [itemsFrom]
  split
  · rename_i refusal failed
    rw [failed] at first
    exact first
  · rename_i content rest taken
    rw [taken] at first
    obtain ⟨front, rfl, one⟩ := first
    split
    · rename_i left closed
      exact sound_closed one closed
    · rename_i left comma
      exact sound_comma one comma (items (content :: read) (skip left))
    · trivial

theorem fieldsFrom_sound_step
    (fields : ∀ read text,
      Sound (Closes (Field (IsValue digitLimit depth)) '\x7d' read) depth text (fieldsFrom fuel depth read text))
    (read : List (String × Json)) (text : List Char) :
    Sound (Closes (Field (IsValue digitLimit depth)) '\x7d' read) depth text (fieldsFrom (fuel + 1) depth read text) := by
  rw [fieldsFrom.eq_def]
  simp only
  split
  · rename_i rest
    have named := readPoints_sound depth rest
    split
    · rename_i refusal failed
      rw [failed] at named
      exact named
    · rename_i points behind taken
      rw [taken] at named
      obtain ⟨name, start, quoted⟩ := named
      rw [start]
      split
      · rename_i left colon
        have first := value (skip left)
        split
        · rename_i refusal failed
          have inside : ':' :: left <:+ behind := colon ▸ skip_suffix behind
          rw [failed] at first
          exact first.of_suffix ((skip_suffix left).trans
            ((List.suffix_cons ':' left).trans (inside.trans (List.suffix_append name behind))))
        · rename_i content rest taken
          rw [taken] at first
          obtain ⟨inner, split, valued⟩ := first
          obtain ⟨front, whole, one⟩ := exists_field quoted colon split valued
          rw [whole]
          split
          · rename_i left closed
            exact sound_closed one closed
          · rename_i left comma
            exact sound_comma one comma (fields _ (skip left))
          · trivial
      · trivial
  · trivial

end

theorem valueFrom_sound_step {fuel : Nat}
    (items : ∀ depth read text,
      Sound (Closes (IsValue digitLimit depth) ']' read) depth text (itemsFrom fuel depth read text))
    (fields : ∀ depth read text,
      Sound (Closes (Field (IsValue digitLimit depth)) '\x7d' read) depth text (fieldsFrom fuel depth read text))
    (depth : Nat) (text : List Char) :
    Sound (IsValue digitLimit depth) depth text (valueFrom (fuel + 1) depth text) := by
  rw [valueFrom.eq_def]
  simp only
  split
  · rename_i rest
    exact (readPoints_sound depth rest).map fun front points quoted => (Scalar.text quoted).isValue
  · rename_i rest
    split
    · exact Nat.lt_of_lt_of_le Nat.zero_lt_one (by simp [isOpening])
    · rename_i depth
      split
      · rename_i left closed
        obtain ⟨space, blank, behind⟩ := exists_skip rest
        rw [closed] at behind
        refine ⟨'[' :: (space ++ [']']), ?_, .array (.empty blank)⟩
        simp [behind]
      · refine Sound.enclosed rfl (items depth [] _) fun space front all blank closes => ?_
        obtain ⟨listed⟩ := closes
        rw [← List.append_assoc]
        exact .array (.items (listed.blank_append blank))
  · rename_i rest
    split
    · exact Nat.lt_of_lt_of_le Nat.zero_lt_one (by simp [isOpening])
    · rename_i depth
      split
      · rename_i left closed
        obtain ⟨space, blank, behind⟩ := exists_skip rest
        rw [closed] at behind
        refine ⟨'\x7b' :: (space ++ ['\x7d']), ?_, .object (.empty blank)⟩
        simp [behind]
      · refine Sound.enclosed rfl (fields depth [] _) fun space front all blank closes => ?_
        obtain ⟨listed⟩ := closes
        rw [← List.append_assoc]
        exact .object (.items (listed.blank_append blank))
  · split
    · rename_i read known
      obtain ⟨word, member, same, split⟩ := word?_eq_some known
      rw [same]
      exact ⟨word.1, split, (Scalar.word member).isValue⟩
    · exact (readNumber_sound depth text).extend [] fun front value plain => plain.isValue

/-- Every run of the reader is sound, whatever its fuel. -/
theorem reading_sound (fuel : Nat) :
    (∀ depth text, Sound (IsValue digitLimit depth) depth text (valueFrom fuel depth text)) ∧
    (∀ depth read text, Sound (Closes (IsValue digitLimit depth) ']' read) depth text (itemsFrom fuel depth read text)) ∧
    ∀ depth read text,
      Sound (Closes (Field (IsValue digitLimit depth)) '\x7d' read) depth text (fieldsFrom fuel depth read text) := by
  -- Each reader calls the others with less fuel, and at another depth.
  induction fuel with
  | zero =>
    refine ⟨fun depth text => ?_, fun depth read text => ?_, fun depth read text => ?_⟩
    · rw [valueFrom]
      trivial
    · rw [itemsFrom]
      trivial
    · rw [fieldsFrom]
      trivial
  | succ fuel ih =>
    obtain ⟨value, items, fields⟩ := ih
    exact ⟨valueFrom_sound_step items fields, fun depth => itemsFrom_sound_step (value depth) (items depth),
      fun depth => fieldsFrom_sound_step (value depth) (fields depth)⟩

theorem written_of_parse {depth : Nat} {text : List Char} {value : Json} (parsed : parse depth text = .ok value) :
    Written digitLimit depth text value := by
  rw [parse] at parsed
  split at parsed
  · cases parsed
  · have sound := (reading_sound (2 * text.length + 2)).1 depth (skip text)
    obtain ⟨before, front, behind⟩ := exists_skip text
    split at parsed
    · cases parsed
    · rename_i content rest read
      rw [read] at sound
      obtain ⟨inner, split, valued⟩ := sound
      obtain ⟨after, back, beyond⟩ := exists_skip rest
      split at parsed
      · rename_i last
        cases parsed
        rw [last, List.append_nil] at beyond
        rw [behind, split, beyond]
        exact .value front valued back
      · cases parsed

theorem explains_of_parse {depth : Nat} {text : List Char} {refusal : Refusal}
    (refused : parse depth text = .error refusal) : refusal.Explains depth text := by
  rw [parse] at refused
  split at refused
  · cases refused
    trivial
  · have sound := (reading_sound (2 * text.length + 2)).1 depth (skip text)
    split at refused
    · rename_i reason failed
      cases refused
      rw [failed] at sound
      exact Refusal.Explains.of_suffix sound (skip_suffix text)
    · split at refused
      · cases refused
      · cases refused
        trivial

end KernelAtlas.Json
