import KernelAtlas.LineIndex
import KernelAtlas.Proofs.Outcome

/-! The location directive that governs a line: the last one at or before it.

The index carries a mark from line to line. The marks are exactly those that the governing directives set;
they can be read unless a numeral of some location directive is too long. -/

set_option autoImplicit false

namespace KernelAtlas

namespace Directive.Loc

def fileNumber (loc : Directive.Loc) : Int := Numeral.value loc.file

def lineNumber (loc : Directive.Loc) : Nat := Numeral.value loc.line

def Legible (loc : Directive.Loc) : Prop :=
  loc.file.length ≤ Numeral.digitLimit ∧ loc.line.length ≤ Numeral.digitLimit

instance (loc : Directive.Loc) : Decidable loc.Legible := inferInstanceAs (Decidable (_ ∧ _))

theorem mark_eq_ok_iff (loc : Directive.Loc) (mark : Option Mark) :
    loc.mark = .ok mark ↔
      loc.Legible ∧ mark = if loc.lineNumber = 0 then none else some ⟨loc.fileNumber, loc.lineNumber - 1⟩ := by
  simp only [Loc.mark, Legible, bind_eq_ok_iff, Numeral.read]
  by_cases file : loc.file.length ≤ Numeral.digitLimit
  · by_cases line : loc.line.length ≤ Numeral.digitLimit
    · simp [file, line, Pure.pure, Except.pure, fileNumber, lineNumber, eq_comm]
    · simp [line]
  · simp [file]

theorem mark_eq_ok_some_iff (loc : Directive.Loc) (mark : Mark) :
    loc.mark = .ok (some mark) ↔ loc.Legible ∧ loc.fileNumber = mark.file ∧ loc.lineNumber = mark.line + 1 := by
  rw [mark_eq_ok_iff]
  obtain ⟨file, line⟩ := mark
  by_cases zero : loc.lineNumber = 0
  · simp [zero]
  · simp only [zero, if_false, Option.some.injEq, Mark.mk.injEq]
    constructor
    · rintro ⟨legible, rfl, rfl⟩
      exact ⟨legible, rfl, by omega⟩
    · rintro ⟨legible, rfl, number⟩
      exact ⟨legible, rfl, by omega⟩

end Directive.Loc

namespace Listing

def locOn? (lines : List String) (position : Nat) : Option Directive.Loc :=
  lines[position]?.bind fun line => Directive.loc? line.toList

def Governs (lines : List String) (loc : Directive.Loc) (position : Nat) : Prop :=
  ∃ last ≤ position, locOn? lines last = some loc ∧ ∀ later, last < later → later ≤ position → locOn? lines later = none

/-- No directive stands at a line or before it. -/
def Ungoverned (lines : List String) (position : Nat) : Prop :=
  ∀ earlier ≤ position, locOn? lines earlier = none

def Legible (lines : List String) : Prop :=
  ∀ line ∈ lines, ∀ loc ∈ Directive.loc? line.toList, loc.Legible

instance (lines : List String) : Decidable (Legible lines) := inferInstanceAs (Decidable (∀ line ∈ lines, _))

section
variable (line : String) (rest : List String)

@[simp] theorem locOn?_zero : locOn? (line :: rest) 0 = Directive.loc? line.toList := rfl

@[simp] theorem locOn?_succ (position : Nat) : locOn? (line :: rest) (position + 1) = locOn? rest position := rfl

theorem governs_zero_iff (loc : Directive.Loc) :
    Governs (line :: rest) loc 0 ↔ Directive.loc? line.toList = some loc := by
  constructor
  · rintro ⟨last, bound, found, -⟩
    rwa [Nat.le_zero.mp bound] at found
  · intro found
    exact ⟨0, Nat.le_refl 0, found, fun later after bound => absurd after (by omega)⟩

theorem ungoverned_succ_iff (position : Nat) :
    Ungoverned (line :: rest) (position + 1) ↔ Directive.loc? line.toList = none ∧ Ungoverned rest position := by
  constructor
  · intro none
    exact ⟨none 0 (by omega), fun earlier bound => none (earlier + 1) (by omega)⟩
  · rintro ⟨first, none⟩ earlier bound
    cases earlier with
    | zero => exact first
    | succ earlier => exact none earlier (by omega)

-- Either a later line governs, or the first one does because no directive stands in between.
theorem governs_succ_iff (loc : Directive.Loc) (position : Nat) :
    Governs (line :: rest) loc (position + 1) ↔
      Governs rest loc position ∨ Directive.loc? line.toList = some loc ∧ Ungoverned rest position := by
  constructor
  · rintro ⟨last, bound, found, none⟩
    cases last with
    | zero => exact Or.inr ⟨found, fun later within => none (later + 1) (by omega) (by omega)⟩
    | succ last =>
      exact Or.inl ⟨last, by omega, found, fun later after within => none (later + 1) (by omega) (by omega)⟩
  · rintro (⟨last, bound, found, none⟩ | ⟨found, none⟩)
    · refine ⟨last + 1, by omega, found, fun later after within => ?_⟩
      cases later with
      | zero => omega
      | succ later => exact none later (by omega) (by omega)
    · refine ⟨0, by omega, found, fun later after within => ?_⟩
      cases later with
      | zero => omega
      | succ later => exact none later (by omega)

end

theorem Governs.unique {lines : List String} {first second : Directive.Loc} {position : Nat}
    (left : Governs lines first position) (right : Governs lines second position) : first = second := by
  obtain ⟨last, bound, found, none⟩ := left
  obtain ⟨other, otherBound, otherFound, otherNone⟩ := right
  -- Of two last directives neither can come after the other.
  rcases Nat.lt_trichotomy last other with before | same | after
  · rw [none other before otherBound] at otherFound
    cases otherFound
  · rw [same, otherFound] at found
    exact (Option.some.inj found).symm
  · rw [otherNone last after bound] at found
    cases found

theorem Governs.not_ungoverned {lines : List String} {loc : Directive.Loc} {position : Nat}
    (governs : Governs lines loc position) : ¬Ungoverned lines position := by
  obtain ⟨last, bound, found, -⟩ := governs
  intro none
  rw [none last bound] at found
  cases found

theorem Governs.legible {lines : List String} {loc : Directive.Loc} {position : Nat}
    (governs : Governs lines loc position) (legible : Legible lines) : loc.Legible := by
  obtain ⟨last, -, found, -⟩ := governs
  obtain ⟨line, there, read⟩ := Option.bind_eq_some_iff.mp found
  exact legible line (List.mem_of_getElem? there) loc read

end Listing

namespace LineIndex

open Listing

theorem advance_eq_ok_iff (current next : Option Mark) (line : String) :
    advance current line = .ok next ↔
      (∃ loc, Directive.loc? line.toList = some loc ∧ loc.mark = .ok next) ∨
        Directive.loc? line.toList = none ∧ next = current := by
  unfold advance
  cases found : Directive.loc? line.toList with
  | none => simp [eq_comm]
  | some loc => simp

theorem marksFrom_cons_eq_ok_iff (current : Option Mark) (line : String) (rest : List String)
    (marks : List (Option Mark)) :
    marksFrom current (line :: rest) = .ok marks ↔
      ∃ next later, advance current line = .ok next ∧ marksFrom next rest = .ok later ∧ marks = next :: later := by
  simp only [marksFrom, bind_eq_ok_iff]
  constructor
  · rintro ⟨next, first, later, read, whole⟩
    cases whole
    exact ⟨next, later, first, read, rfl⟩
  · rintro ⟨next, later, first, read, rfl⟩
    exact ⟨next, first, later, read, rfl⟩

/-- Reading succeeds exactly if every location directive can be read. -/
theorem exists_marksFrom_iff (current : Option Mark) (lines : List String) :
    (∃ marks, marksFrom current lines = .ok marks) ↔ Listing.Legible lines := by
  induction lines generalizing current with
  | nil => simp [marksFrom, Listing.Legible]
  | cons line rest ih =>
    have step : (∃ next, advance current line = .ok next) ↔ ∀ loc ∈ Directive.loc? line.toList, loc.Legible := by
      simp only [advance_eq_ok_iff, Directive.Loc.mark_eq_ok_iff]
      cases found : Directive.loc? line.toList <;> simp
    simp only [Listing.Legible, List.forall_mem_cons, ← step]
    constructor
    · rintro ⟨marks, read⟩
      obtain ⟨next, later, first, tail, -⟩ := (marksFrom_cons_eq_ok_iff _ _ _ _).mp read
      exact ⟨⟨next, first⟩, (ih next).mp ⟨later, tail⟩⟩
    · rintro ⟨⟨next, first⟩, legible⟩
      obtain ⟨later, tail⟩ := (ih next).mpr legible
      exact ⟨next :: later, (marksFrom_cons_eq_ok_iff _ _ _ _).mpr ⟨next, later, first, tail, rfl⟩⟩

-- The induction follows the pass over the lines, so the mark carried into it stays arbitrary.
theorem getElem?_marksFrom_iff {current : Option Mark} {lines : List String} {marks : List (Option Mark)}
    (read : marksFrom current lines = .ok marks) (position : Nat) (mark : Option Mark) :
    marks[position]? = some mark ↔
      position < lines.length ∧
        ((∃ loc, Governs lines loc position ∧ loc.mark = .ok mark) ∨ Ungoverned lines position ∧ mark = current) := by
  induction lines generalizing current marks position with
  | nil =>
    cases read
    simp
  | cons line rest ih =>
    obtain ⟨next, later, first, tail, rfl⟩ := (marksFrom_cons_eq_ok_iff _ _ _ _).mp read
    -- The mark set on the first line is the one carried into the rest.
    cases position with
    | zero =>
      simp only [List.getElem?_cons_zero, Option.some.injEq, List.length_cons, Nat.zero_lt_succ, true_and,
        governs_zero_iff]
      have none : Ungoverned (line :: rest) 0 ↔ Directive.loc? line.toList = none := by
        simp [Ungoverned]
      rw [none, ← advance_eq_ok_iff, first, Except.ok.injEq]
    | succ position =>
      rw [List.getElem?_cons_succ, ih tail, List.length_cons, Nat.add_lt_add_iff_right]
      refine and_congr_right fun _ => ?_
      have carried : mark = next ↔
          (∃ loc, Directive.loc? line.toList = some loc ∧ loc.mark = .ok mark) ∨
            Directive.loc? line.toList = none ∧ mark = current := by
        rw [← advance_eq_ok_iff, first, Except.ok.injEq, eq_comm]
      simp only [governs_succ_iff, ungoverned_succ_iff, carried]
      constructor
      · rintro (⟨loc, governs, set⟩ | ⟨none, ⟨loc, found, set⟩ | ⟨absent, kept⟩⟩)
        · exact Or.inl ⟨loc, Or.inl governs, set⟩
        · exact Or.inl ⟨loc, Or.inr ⟨found, none⟩, set⟩
        · exact Or.inr ⟨⟨absent, none⟩, kept⟩
      · rintro (⟨loc, governs | ⟨found, none⟩, set⟩ | ⟨⟨absent, none⟩, kept⟩)
        · exact Or.inl ⟨loc, governs, set⟩
        · exact Or.inr ⟨none, Or.inl ⟨loc, found, set⟩⟩
        · exact Or.inr ⟨none, Or.inr ⟨absent, kept⟩⟩

-- Before the first directive there is no mark, so a mark always comes from one.
theorem getElem?_marks_iff {lines : List String} {marks : List (Option Mark)}
    (read : marksFrom none lines = .ok marks) (position : Nat) (mark : Mark) :
    marks[position]? = some (some mark) ↔
      position < lines.length ∧
        ∃ loc, Governs lines loc position ∧ loc.fileNumber = mark.file ∧ loc.lineNumber = mark.line + 1 := by
  have legible : Listing.Legible lines := (exists_marksFrom_iff none lines).mp ⟨marks, read⟩
  rw [getElem?_marksFrom_iff read]
  refine and_congr_right fun _ => ?_
  simp only [reduceCtorEq, and_false, or_false, Directive.Loc.mark_eq_ok_some_iff]
  refine exists_congr fun loc => and_congr_right fun governs => ?_
  exact and_iff_right (governs.legible legible)

end LineIndex

end KernelAtlas
