import KernelAtlas.Text.Utf8
import Mathlib.Data.List.Infix

/-! The decoder against the encoding.

Every input is a sequence of characters as they are encoded and of flawed parts, in one way only. A flawed part is a
byte that starts no character, or the beginning of a character that the next byte does not continue or that the end
cuts off. The decoder finds this sequence, and an input without flawed parts is the encoding of a text. -/

set_option autoImplicit false

namespace KernelAtlas.Text.Utf8

open String (utf8EncodeChar)

def encode (text : List Char) : List UInt8 := text.flatMap utf8EncodeChar

def Begins (bytes : List UInt8) : Prop := ∃ c, bytes <+: utf8EncodeChar c

/-- The beginning of a character, but not all of one. -/
structure Unfinished (part : List UInt8) : Prop where
  nonempty : part ≠ []
  begins : Begins part
  incomplete : ∀ c, part ≠ utf8EncodeChar c

/-- A part of the input that is no character, with what follows it and what is wrong with it. -/
inductive Flawed : List UInt8 → List UInt8 → Flaw → Prop where
  | badStart {byte : UInt8} {rest : List UInt8} (none : ¬Begins [byte]) : Flawed [byte] rest .badStart
  | badContinuation {part : List UInt8} {byte : UInt8} {rest : List UInt8} (unfinished : Unfinished part)
      (broken : ¬Begins (part ++ [byte])) : Flawed part (byte :: rest) .badContinuation
  | truncated {part : List UInt8} (unfinished : Unfinished part) : Flawed part [] .truncated

/-- An input taken apart into characters and flawed parts. -/
inductive Parted : List UInt8 → List Piece → Prop where
  | nil : Parted [] []
  | scalar {rest : List UInt8} {pieces : List Piece} (c : Char) (later : Parted rest pieces) :
    Parted (utf8EncodeChar c ++ rest) (.scalar c :: pieces)
  | flawed {part rest : List UInt8} {flaw : Flaw} {pieces : List Piece} (found : Flawed part rest flaw)
      (later : Parted rest pieces) : Parted (part ++ rest) (.flawed part.length flaw :: pieces)

section
variable (c : Char)

theorem toNat_valid : c.toNat < 0xD800 ∨ 0xDFFF < c.toNat ∧ c.toNat < 0x110000 := c.valid

theorem map_toNat_utf8EncodeChar :
    (utf8EncodeChar c).map UInt8.toNat =
      if c.toNat < 0x80 then [c.toNat]
      else if c.toNat < 0x800 then [0xC0 + c.toNat / 64, 0x80 + c.toNat % 64]
      else if c.toNat < 0x10000 then [0xE0 + c.toNat / 4096, 0x80 + c.toNat / 64 % 64, 0x80 + c.toNat % 64]
      else [0xF0 + c.toNat / 262144, 0x80 + c.toNat / 4096 % 64, 0x80 + c.toNat / 64 % 64, 0x80 + c.toNat % 64] := by
  have valid := toNat_valid c
  have value : c.val.toNat = c.toNat := rfl
  unfold utf8EncodeChar
  simp only [value]
  split_ifs <;> first | omega | (simp only [List.map_cons, List.map_nil, UInt8.toNat_ofNat', List.cons.injEq, and_true]; omega)

theorem utf8EncodeChar_eq_iff (bytes : List UInt8) :
    utf8EncodeChar c = bytes ↔ (utf8EncodeChar c).map UInt8.toNat = bytes.map UInt8.toNat :=
  (List.map_inj_right fun _ _ => UInt8.toNat_inj.mp).symm

end

theorem toNat_ofNat {value : Nat} (valid : value < 0xD800 ∨ 0xDFFF < value ∧ value < 0x110000) :
    (Char.ofNat value).toNat = value := by
  have made : Char.ofNat value = Char.ofNatAux value valid := dif_pos valid
  rw [made]
  rfl

/-- The bytes are all that is missing, and the character is the one that they complete. -/
def Partial.Completes (part : Partial) (c : Char) : List UInt8 → Prop
  | [] => False
  | byte :: rest => (part.low ≤ byte.toNat ∧ byte.toNat ≤ part.high) ∧
    match part.missing with
    | 0 => rest = [] ∧ c = Char.ofNat (part.value * 64 + (byte.toNat - 0x80))
    | missing + 1 => (part.after missing byte.toNat).Completes c rest

/-- The decoder has read `seen` of a character: what completes it is what completes `part`. -/
structure Stands (part : Partial) (seen : List UInt8) : Prop where
  nonempty : seen ≠ []
  width : part.width = seen.length
  possible : part.low ≤ part.high ∧ part.high ≤ 0xBF
  completes : ∀ c tail, utf8EncodeChar c = seen ++ tail ↔ part.Completes c tail

theorem eq_ofNat_iff {c : Char} {value : Nat} (valid : value < 0xD800 ∨ 0xDFFF < value ∧ value < 0x110000) :
    c = Char.ofNat value ↔ c.toNat = value := by
  constructor
  · rintro rfl
    exact toNat_ofNat valid
  · rintro rfl
    exact (Char.ofNat_toNat c).symm

section
variable {lead : UInt8}

-- In each of the three lemmas, the first byte decides between the four forms of an encoded character, and the
-- bounds on the second byte are those within which the value is a character of this form.
theorem stands_two (range : 0xC2 ≤ lead.toNat ∧ lead.toNat ≤ 0xDF) :
    Stands ⟨0, 0x80, 0xBF, lead.toNat - 0xC0, 1, by decide⟩ [lead] := by
  refine ⟨by simp, rfl, by dsimp only; omega, fun c tail => ?_⟩
  have valid := toNat_valid c
  rw [utf8EncodeChar_eq_iff, map_toNat_utf8EncodeChar]
  constructor
  · intro written
    split_ifs at written
    all_goals simp only [List.singleton_append, List.map_cons, List.cons.injEq] at written
    · omega
    · obtain ⟨first, rest⟩ := written
      obtain ⟨x, more, rfl, second, none⟩ := List.map_eq_cons_iff.mp rest.symm
      obtain rfl := List.map_eq_nil_iff.mp none
      refine ⟨⟨?_, ?_⟩, rfl, (eq_ofNat_iff ?_).mpr ?_⟩ <;> dsimp only <;> omega
    · omega
    · omega
  · intro completed
    match tail, completed with
    | [x], ⟨⟨low, high⟩, _, same⟩ =>
      dsimp only at low high same
      rw [eq_ofNat_iff (by omega)] at same
      rw [if_neg (by omega), if_pos (by omega)]
      simp only [List.singleton_append, List.map_cons, List.map_nil, List.cons.injEq, and_true]
      omega

theorem stands_three {low high value : Nat} (ascii : 0x80 ≤ low) (range : 0xE0 ≤ lead.toNat ∧ lead.toNat ≤ 0xEF)
    (lowest : lead.toNat = 0xE0 ∧ low = 0xA0 ∨ lead.toNat ≠ 0xE0 ∧ low = 0x80)
    (highest : lead.toNat = 0xED ∧ high = 0x9F ∨ lead.toNat ≠ 0xED ∧ high = 0xBF)
    (payload : value = lead.toNat - 0xE0) : Stands ⟨1, low, high, value, 1, ascii⟩ [lead] := by
  refine ⟨by simp, rfl, by dsimp only; omega, fun c tail => ?_⟩
  have valid := toNat_valid c
  rw [utf8EncodeChar_eq_iff, map_toNat_utf8EncodeChar]
  constructor
  · intro written
    split_ifs at written
    all_goals simp only [List.singleton_append, List.map_cons, List.cons.injEq] at written
    · omega
    · omega
    · obtain ⟨first, rest⟩ := written
      obtain ⟨x, more, rfl, second, rest⟩ := List.map_eq_cons_iff.mp rest.symm
      obtain ⟨y, more, rfl, third, none⟩ := List.map_eq_cons_iff.mp rest
      obtain rfl := List.map_eq_nil_iff.mp none
      refine ⟨⟨?_, ?_⟩, ⟨?_, ?_⟩, rfl, (eq_ofNat_iff ?_).mpr ?_⟩ <;> dsimp only [Partial.after] <;> omega
    · omega
  · intro completed
    match tail, completed with
    | [x, y], ⟨⟨second, secondToo⟩, ⟨third, thirdToo⟩, _, same⟩ =>
      dsimp only [Partial.after] at second secondToo third thirdToo same
      rw [eq_ofNat_iff (by omega)] at same
      rw [if_neg (by omega), if_neg (by omega), if_pos (by omega)]
      simp only [List.singleton_append, List.map_cons, List.map_nil, List.cons.injEq, and_true]
      omega

theorem stands_four {low high value : Nat} (ascii : 0x80 ≤ low) (range : 0xF0 ≤ lead.toNat ∧ lead.toNat ≤ 0xF4)
    (lowest : lead.toNat = 0xF0 ∧ low = 0x90 ∨ lead.toNat ≠ 0xF0 ∧ low = 0x80)
    (highest : lead.toNat = 0xF4 ∧ high = 0x8F ∨ lead.toNat ≠ 0xF4 ∧ high = 0xBF)
    (payload : value = lead.toNat - 0xF0) : Stands ⟨2, low, high, value, 1, ascii⟩ [lead] := by
  refine ⟨by simp, rfl, by dsimp only; omega, fun c tail => ?_⟩
  have valid := toNat_valid c
  rw [utf8EncodeChar_eq_iff, map_toNat_utf8EncodeChar]
  constructor
  · intro written
    split_ifs at written
    all_goals simp only [List.singleton_append, List.map_cons, List.cons.injEq] at written
    · omega
    · omega
    · omega
    · obtain ⟨first, rest⟩ := written
      obtain ⟨x, more, rfl, second, rest⟩ := List.map_eq_cons_iff.mp rest.symm
      obtain ⟨y, more, rfl, third, rest⟩ := List.map_eq_cons_iff.mp rest
      obtain ⟨z, more, rfl, fourth, none⟩ := List.map_eq_cons_iff.mp rest
      obtain rfl := List.map_eq_nil_iff.mp none
      refine ⟨⟨?_, ?_⟩, ⟨?_, ?_⟩, ⟨?_, ?_⟩, rfl, (eq_ofNat_iff ?_).mpr ?_⟩ <;> dsimp only [Partial.after] <;> omega
  · intro completed
    match tail, completed with
    | [x, y, z], ⟨⟨second, secondToo⟩, ⟨third, thirdToo⟩, ⟨fourth, fourthToo⟩, _, same⟩ =>
      dsimp only [Partial.after] at second secondToo third thirdToo fourth fourthToo same
      rw [eq_ofNat_iff (by omega)] at same
      rw [if_neg (by omega), if_neg (by omega), if_neg (by omega)]
      simp only [List.singleton_append, List.map_cons, List.map_nil, List.cons.injEq, and_true]
      omega

/-- The first byte of a longer character leaves what its form and its bounds promise. -/
theorem stands_of_lead? {part : Partial} (first : lead? lead.toNat = some part) : Stands part [lead] := by
  unfold lead? at first
  split_ifs at first with two e0 ed three f0 four f4 <;> cases first
  · exact stands_two two
  · exact stands_three _ (by omega) (by omega) (by omega) (by omega)
  · exact stands_three _ (by omega) (by omega) (by omega) (by omega)
  · exact stands_three _ (by omega) (by omega) (by omega) rfl
  · exact stands_four _ (by omega) (by omega) (by omega) (by omega)
  · exact stands_four _ (by omega) (by omega) (by omega) rfl
  · exact stands_four _ (by omega) (by omega) (by omega) (by omega)

theorem isSome_lead?_iff (byte : Nat) : (lead? byte).isSome = true ↔ 0xC2 ≤ byte ∧ byte ≤ 0xF4 := by
  unfold lead?
  split_ifs <;> simp <;> omega

theorem utf8EncodeChar_of_ascii {byte : UInt8} (ascii : byte.toNat < 0x80) :
    utf8EncodeChar (Char.ofNat byte.toNat) = [byte] := by
  rw [utf8EncodeChar_eq_iff, map_toNat_utf8EncodeChar, toNat_ofNat (by omega), if_pos ascii]
  rfl

/-- A character is one byte that stands for itself, or it begins with a byte that promises more. -/
theorem utf8EncodeChar_cases (c : Char) :
    (∃ byte : UInt8, byte.toNat < 0x80 ∧ c = Char.ofNat byte.toNat ∧ utf8EncodeChar c = [byte]) ∨
      ∃ lead part tail, lead? (UInt8.toNat lead) = some part ∧ utf8EncodeChar c = lead :: tail ∧ part.Completes c tail := by
  have valid := toNat_valid c
  have numbers := map_toNat_utf8EncodeChar c
  cases written : utf8EncodeChar c with
  | nil =>
    rw [written] at numbers
    split_ifs at numbers <;> cases numbers
  | cons first tail =>
    rw [written, List.map_cons] at numbers
    by_cases ascii : c.toNat < 0x80
    · rw [if_pos ascii, List.cons.injEq, List.map_eq_nil_iff] at numbers
      refine .inl ⟨first, by omega, ?_, by rw [numbers.2]⟩
      rw [numbers.1, Char.ofNat_toNat]
    · have range : 0xC2 ≤ first.toNat ∧ first.toNat ≤ 0xF4 := by
        split_ifs at numbers <;> rw [List.cons.injEq] at numbers <;> omega
      obtain ⟨part, promised⟩ := Option.isSome_iff_exists.mp ((isSome_lead?_iff _).mpr range)
      exact .inr ⟨first, part, tail, promised, rfl, ((stands_of_lead? promised).completes c tail).mp written⟩

end

section
variable {part : Partial} {seen : List UInt8}

theorem Partial.completes_last_iff (done : part.missing = 0) (c : Char) (byte : UInt8) (tail : List UInt8) :
    part.Completes c (byte :: tail) ↔ (part.low ≤ byte.toNat ∧ byte.toNat ≤ part.high) ∧ tail = [] ∧
      c = Char.ofNat (part.value * 64 + (byte.toNat - 0x80)) := by
  rw [Completes, done]

theorem Partial.completes_more_iff {missing : Nat} (more : part.missing = missing + 1) (c : Char) (byte : UInt8)
    (tail : List UInt8) :
    part.Completes c (byte :: tail) ↔ (part.low ≤ byte.toNat ∧ byte.toNat ≤ part.high) ∧
      (part.after missing byte.toNat).Completes c tail := by
  rw [Completes, more]

theorem Stands.after (stands : Stands part seen) {missing : Nat} (more : part.missing = missing + 1) {byte : UInt8}
    (inside : part.low ≤ byte.toNat ∧ byte.toNat ≤ part.high) :
    Stands (part.after missing byte.toNat) (seen ++ [byte]) := by
  refine ⟨by simp, by simp [Partial.after, stands.width], by simp [Partial.after], fun c tail => ?_⟩
  rw [List.append_assoc, List.singleton_append, stands.completes, Partial.completes_more_iff more]
  exact and_iff_right inside

theorem Partial.exists_completes (part : Partial) {byte : UInt8} (inside : part.low ≤ byte.toNat ∧ byte.toNat ≤ part.high) :
    ∃ c tail, part.Completes c (byte :: tail) := by
  cases missing : part.missing with
  | zero => exact ⟨_, [], (completes_last_iff missing _ byte []).mpr ⟨inside, rfl, rfl⟩⟩
  | succ count =>
    have next : (part.after count byte.toNat).low ≤ UInt8.toNat 0x80 ∧ UInt8.toNat 0x80 ≤ (part.after count byte.toNat).high := by
      simp [Partial.after]
    obtain ⟨c, tail, completed⟩ := exists_completes (part.after count byte.toNat) next
    exact ⟨c, 0x80 :: tail, (completes_more_iff missing c byte _).mpr ⟨inside, completed⟩⟩
termination_by part.missing
decreasing_by simp [Partial.after, missing]

theorem Stands.begins_iff (stands : Stands part seen) (byte : UInt8) :
    Begins (seen ++ [byte]) ↔ part.low ≤ byte.toNat ∧ byte.toNat ≤ part.high := by
  constructor
  · intro ⟨c, tail, written⟩
    rw [List.append_assoc, eq_comm, stands.completes] at written
    exact written.1
  · intro inside
    obtain ⟨c, tail, completed⟩ := part.exists_completes inside
    refine ⟨c, tail, ?_⟩
    rw [List.append_assoc]
    exact ((stands.completes c _).mpr completed).symm

theorem Stands.unfinished (stands : Stands part seen) : Unfinished seen := by
  refine ⟨stands.nonempty, ?_, ?_⟩
  · have bounds := stands.possible
    obtain ⟨c, started⟩ : Begins (seen ++ [UInt8.ofNat part.low]) := by
      rw [stands.begins_iff, UInt8.toNat_ofNat']
      omega
    exact ⟨c, (List.prefix_append seen _).trans started⟩
  · intro c whole
    exact (stands.completes c []).mp (by rw [List.append_nil, whole])

theorem step_last (done : part.missing = 0) {byte : UInt8} (inside : part.low ≤ byte.toNat ∧ byte.toNat ≤ part.high) :
    step (.inside part) byte.toNat = ([.scalar (Char.ofNat (part.value * 64 + (byte.toNat - 0x80)))], .between) := by
  simp only [step, if_pos inside, done]

theorem step_more {missing : Nat} (more : part.missing = missing + 1) {byte : UInt8}
    (inside : part.low ≤ byte.toNat ∧ byte.toNat ≤ part.high) :
    step (.inside part) byte.toNat = ([], .inside (part.after missing byte.toNat)) := by
  simp only [step, if_pos inside, more]

theorem piecesFrom_interrupted {byte : UInt8} (outside : ¬(part.low ≤ byte.toNat ∧ byte.toNat ≤ part.high))
    (rest : List UInt8) :
    piecesFrom (.inside part) (byte :: rest) = .flawed part.width .badContinuation :: piecesFrom .between (byte :: rest) := by
  simp only [piecesFrom, step, if_neg outside, interrupt, List.cons_append, List.nil_append]

theorem piecesFrom_of_completes {c : Char} {tail : List UInt8} (completed : part.Completes c tail) (rest : List UInt8) :
    piecesFrom (.inside part) (tail ++ rest) = .scalar c :: piecesFrom .between rest := by
  induction tail generalizing part with
  | nil => exact completed.elim
  | cons byte tail ih =>
    cases missing : part.missing with
    | zero =>
      obtain ⟨inside, rfl, same⟩ := (Partial.completes_last_iff missing c byte tail).mp completed
      simp only [List.singleton_append, piecesFrom, step_last missing inside, same]
    | succ count =>
      obtain ⟨inside, later⟩ := (Partial.completes_more_iff missing c byte tail).mp completed
      simp only [List.cons_append, piecesFrom, step_more missing inside, List.nil_append, ih later]

/-- Inside a character, the decoder goes on as long as the bytes go on with it. -/
theorem Stands.walk (stands : Stands part seen) {more : List UInt8} (unfinished : Unfinished (seen ++ more))
    (rest : List UInt8) :
    ∃ inner, Stands inner (seen ++ more) ∧ piecesFrom (.inside part) (more ++ rest) = piecesFrom (.inside inner) rest := by
  induction more generalizing part seen with
  | nil => exact ⟨part, by simpa using stands, rfl⟩
  | cons byte more ih =>
    obtain ⟨c, tail, written⟩ := unfinished.begins
    have completed := written.symm
    rw [List.append_assoc, stands.completes, List.cons_append] at completed
    cases missing : part.missing with
    | zero =>
      -- This byte would complete the character.
      obtain ⟨-, none, -⟩ := (Partial.completes_last_iff missing c byte _).mp completed
      obtain ⟨rfl, rfl⟩ := List.append_eq_nil_iff.mp none
      rw [List.append_nil] at written
      exact absurd written (unfinished.incomplete c)
    | succ count =>
      obtain ⟨inside, -⟩ := (Partial.completes_more_iff missing c byte _).mp completed
      have split : seen ++ byte :: more = seen ++ [byte] ++ more := by simp
      rw [split] at unfinished ⊢
      obtain ⟨inner, standsThere, same⟩ := ih (stands.after missing inside) unfinished
      refine ⟨inner, standsThere, ?_⟩
      simp only [List.cons_append, piecesFrom, step_more missing inside, List.nil_append, same]

end

theorem Unfinished.walk {part : List UInt8} (unfinished : Unfinished part) (rest : List UInt8) :
    ∃ inner, Stands inner part ∧ pieces (part ++ rest) = piecesFrom (.inside inner) rest := by
  obtain ⟨c, tail, written⟩ := unfinished.begins
  cases part with
  | nil => exact absurd rfl unfinished.nonempty
  | cons first more =>
    rcases utf8EncodeChar_cases c with ⟨byte, -, -, whole⟩ | ⟨lead, inner, end', promised, whole, -⟩
    · rw [whole, List.cons_append, List.cons.injEq, List.append_eq_nil_iff] at written
      obtain ⟨rfl, rfl, -⟩ := written
      exact absurd whole.symm (unfinished.incomplete c)
    · rw [whole, List.cons_append, List.cons.injEq] at written
      obtain ⟨rfl, -⟩ := written
      have large : ¬first.toNat < 0x80 := by
        have range := (isSome_lead?_iff _).mp (Option.isSome_iff_exists.mpr ⟨inner, promised⟩)
        omega
      obtain ⟨last, stands, same⟩ := (stands_of_lead? promised).walk unfinished rest
      refine ⟨last, stands, ?_⟩
      rw [← same]
      simp only [List.cons_append, pieces, piecesFrom, step, start, if_neg large, promised, List.nil_append]

theorem pieces_scalar (c : Char) (rest : List UInt8) :
    pieces (utf8EncodeChar c ++ rest) = .scalar c :: pieces rest := by
  rcases utf8EncodeChar_cases c with ⟨byte, ascii, value, whole⟩ | ⟨lead, part, tail, promised, whole, completed⟩
  · rw [whole, value]
    simp only [List.singleton_append, pieces, piecesFrom, step, start, if_pos ascii]
  · have large : ¬lead.toNat < 0x80 := by
      have range := (isSome_lead?_iff _).mp (Option.isSome_iff_exists.mpr ⟨part, promised⟩)
      omega
    rw [whole, pieces, pieces, ← piecesFrom_of_completes completed rest]
    simp only [List.cons_append, piecesFrom, step, start, if_neg large, promised, List.nil_append]

theorem pieces_flawed {part rest : List UInt8} {flaw : Flaw} (found : Flawed part rest flaw) :
    pieces (part ++ rest) = .flawed part.length flaw :: pieces rest := by
  cases found with
  | @badStart byte _ none =>
    have large : ¬byte.toNat < 0x80 := fun ascii =>
      none ⟨_, by rw [utf8EncodeChar_of_ascii ascii]⟩
    have unpromised : lead? byte.toNat = .none := by
      rw [Option.eq_none_iff_forall_ne_some]
      intro inner promised
      exact none (stands_of_lead? promised).unfinished.begins
    simp only [List.singleton_append, pieces, piecesFrom, step, start, if_neg large, unpromised]
    rfl
  | @badContinuation part byte rest unfinished broken =>
    obtain ⟨inner, stands, same⟩ := unfinished.walk (byte :: rest)
    rw [stands.begins_iff] at broken
    rw [same, piecesFrom_interrupted broken, stands.width, pieces]
  | truncated unfinished =>
    obtain ⟨inner, stands, same⟩ := unfinished.walk []
    rw [same, ← stands.width]
    rfl

theorem Stands.course {part : Partial} {seen : List UInt8} (stands : Stands part seen) (rest : List UInt8) :
    (∃ c tail later, rest = tail ++ later ∧ utf8EncodeChar c = seen ++ tail) ∨
      ∃ more later flaw, rest = more ++ later ∧ Flawed (seen ++ more) later flaw := by
  induction rest generalizing part seen with
  | nil => exact .inr ⟨[], [], _, rfl, by simpa using Flawed.truncated stands.unfinished⟩
  | cons byte rest ih =>
    by_cases inside : part.low ≤ byte.toNat ∧ byte.toNat ≤ part.high
    · cases missing : part.missing with
      | zero =>
        have completed := (Partial.completes_last_iff missing _ byte []).mpr ⟨inside, rfl, rfl⟩
        exact .inl ⟨_, [byte], rest, rfl, (stands.completes _ _).mpr completed⟩
      | succ count =>
        rcases ih (stands.after missing inside) with ⟨c, tail, later, rfl, whole⟩ | ⟨more, later, flaw, rfl, found⟩
        · exact .inl ⟨c, byte :: tail, later, rfl, by rw [whole]; simp⟩
        · exact .inr ⟨byte :: more, later, flaw, rfl, by simpa using found⟩
    · refine .inr ⟨[], byte :: rest, .badContinuation, rfl, ?_⟩
      rw [List.append_nil]
      exact .badContinuation stands.unfinished (mt (stands.begins_iff byte).mp inside)

theorem exists_front (byte : UInt8) (rest : List UInt8) :
    (∃ c later, byte :: rest = utf8EncodeChar c ++ later) ∨
      ∃ part later flaw, byte :: rest = part ++ later ∧ Flawed part later flaw := by
  by_cases ascii : byte.toNat < 0x80
  · exact .inl ⟨_, rest, by rw [utf8EncodeChar_of_ascii ascii]; rfl⟩
  · cases promised : lead? byte.toNat with
    | none =>
      refine .inr ⟨[byte], rest, _, rfl, .badStart fun ⟨c, tail, written⟩ => ?_⟩
      rcases utf8EncodeChar_cases c with ⟨first, small, -, whole⟩ | ⟨lead, inner, tail', promisedToo, whole, -⟩
      · rw [whole, List.singleton_append, List.cons.injEq] at written
        exact ascii (written.1 ▸ small)
      · rw [whole, List.singleton_append, List.cons.injEq] at written
        rw [written.1, promisedToo] at promised
        cases promised
    | some part =>
      rcases (stands_of_lead? promised).course rest with ⟨c, tail, later, rfl, whole⟩ | ⟨more, later, flaw, rfl, found⟩
      · exact .inl ⟨c, later, by rw [whole]; simp⟩
      · exact .inr ⟨[byte] ++ more, later, flaw, rfl, found⟩

theorem Flawed.nonempty {part rest : List UInt8} {flaw : Flaw} (found : Flawed part rest flaw) : part ≠ [] := by
  cases found with
  | badStart none => simp
  | badContinuation unfinished broken => exact unfinished.nonempty
  | truncated unfinished => exact unfinished.nonempty

theorem utf8EncodeChar_ne_nil (c : Char) : utf8EncodeChar c ≠ [] := by
  rw [← List.length_pos_iff, String.length_utf8EncodeChar]
  exact c.utf8Size_pos

theorem exists_parted (bytes : List UInt8) : ∃ pieces, Parted bytes pieces := by
  induction length : bytes.length using Nat.strong_induction_on generalizing bytes with
  | _ count ih =>
    have shorter {front later : List UInt8} (split : bytes = front ++ later) (some : front ≠ []) : later.length < count := by
      have size := congrArg List.length split
      have positive := List.length_pos_iff.mpr some
      rw [List.length_append] at size
      omega
    cases bytes with
    | nil => exact ⟨[], .nil⟩
    | cons byte rest =>
      rcases exists_front byte rest with ⟨c, later, split⟩ | ⟨part, later, flaw, split, found⟩
      · obtain ⟨pieces, parted⟩ := ih _ (shorter split (utf8EncodeChar_ne_nil c)) later rfl
        rw [split]
        exact ⟨_, .scalar c parted⟩
      · obtain ⟨pieces, parted⟩ := ih _ (shorter split found.nonempty) later rfl
        rw [split]
        exact ⟨_, .flawed found parted⟩

theorem pieces_of_parted {bytes : List UInt8} {found : List Piece} (parted : Parted bytes found) : pieces bytes = found := by
  induction parted with
  | nil => rfl
  | scalar c later ih => rw [pieces_scalar, ih]
  | flawed found later ih => rw [pieces_flawed found, ih]

/-- An input can be taken apart in one way, and the decoder does so. -/
theorem parted_iff (bytes : List UInt8) (found : List Piece) : Parted bytes found ↔ pieces bytes = found := by
  refine ⟨pieces_of_parted, ?_⟩
  rintro rfl
  obtain ⟨other, parted⟩ := exists_parted bytes
  rwa [pieces_of_parted parted]

theorem parted_scalars_iff (bytes : List UInt8) (text : List Char) :
    Parted bytes (text.map .scalar) ↔ bytes = encode text := by
  constructor
  · intro parted
    generalize same : text.map Piece.scalar = found at parted
    induction parted generalizing text with
    | nil => rw [List.map_eq_nil_iff.mp same]; rfl
    | scalar c later ih =>
      obtain ⟨first, rest, rfl, shown, others⟩ := List.map_eq_cons_iff.mp same
      cases shown
      rw [ih rest others, encode, encode, List.flatMap_cons]
    | flawed found later ih =>
      obtain ⟨first, rest, rfl, shown, others⟩ := List.map_eq_cons_iff.mp same
      cases shown
  · rintro rfl
    induction text with
    | nil => exact .nil
    | cons c rest ih => exact .scalar c ih

theorem firstFlaw?_eq_none_iff (position : Nat) (found : List Piece) :
    firstFlaw? position found = none ↔ found = (found.map Piece.char).map .scalar := by
  induction found generalizing position with
  | nil => simp [firstFlaw?]
  | cons piece rest ih =>
    cases piece with
    | scalar c => simpa [firstFlaw?, Piece.char] using ih (position + c.utf8Size)
    | flawed width flaw => simp [firstFlaw?]

/-- Exactly the encodings of texts are decoded, each to its text. -/
theorem decode_eq_ok_iff (bytes : List UInt8) (text : List Char) : decode bytes = .ok text ↔ bytes = encode text := by
  rw [← parted_scalars_iff, parted_iff]
  unfold decode
  split
  · rename_i unflawed
    rw [firstFlaw?_eq_none_iff] at unflawed
    rw [Except.ok.injEq, decodeLossy]
    constructor
    · rintro rfl
      exact unflawed
    · intro same
      rw [same, List.map_map]
      exact List.map_id' text
  · rename_i flawed
    constructor
    · intro done
      cases done
    · intro same
      rw [same] at flawed
      have none := (firstFlaw?_eq_none_iff 0 (text.map .scalar)).mpr (by simp [Function.comp_def, Piece.char])
      rw [none] at flawed
      cases flawed

end KernelAtlas.Text.Utf8
