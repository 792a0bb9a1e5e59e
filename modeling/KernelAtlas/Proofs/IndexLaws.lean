import KernelAtlas.Proofs.DeclaredSources
import KernelAtlas.Proofs.IndexEntries

/-! The laws of line indexes.

The two directions of an index agree with each other, and the backward direction agrees with the
directives of the listing: the last location directive at or before a line decides where it comes from. -/

set_option autoImplicit false

namespace KernelAtlas

namespace Listing

theorem exists_governs_or_ungoverned (lines : List String) (position : Nat) :
    (∃ loc, Governs lines loc position) ∨ Ungoverned lines position := by
  induction position with
  | zero =>
    cases found : locOn? lines 0 with
    | none =>
      right
      intro earlier bound
      rwa [Nat.le_zero.mp bound]
    | some loc => exact Or.inl ⟨loc, 0, Nat.le_refl 0, found, fun later after bound => absurd after (by omega)⟩
  | succ position ih =>
    cases found : locOn? lines (position + 1) with
    | some loc =>
      exact Or.inl ⟨loc, position + 1, Nat.le_refl _, found, fun later after bound => absurd after (by omega)⟩
    | none =>
      have extend : ∀ {low : Nat}, (∀ later, low < later → later ≤ position → locOn? lines later = none) →
          ∀ later, low < later → later ≤ position + 1 → locOn? lines later = none := by
        intro low none later after bound
        rcases Nat.lt_or_eq_of_le bound with within | same
        · exact none later after (by omega)
        · rwa [same]
      rcases ih with ⟨loc, last, bound, there, none⟩ | none
      · exact Or.inl ⟨loc, last, by omega, there, extend none⟩
      · right
        intro earlier bound
        rcases Nat.lt_or_eq_of_le bound with within | same
        · exact none earlier (by omega)
        · rwa [same]

end Listing

namespace LineIndex

open Listing

structure Dual (lines : List String) (index : LineIndex) : Prop where
  mem_forward : ∀ (file : String) (line : Int) (position : Nat), position ∈ index.forward file line ↔
    instructionAt lines position = true ∧
      ∃ number : Nat, line = number ∧ index.reverse? position = some ⟨Path.normalize file, number⟩
  forward_increases : ∀ (file : String) (line : Int), (index.forward file line).Pairwise (· < ·)
  forward_within : ∀ (file : String) (line : Int), ∀ position ∈ index.forward file line, position < lines.length
  sourceLines_increase : ∀ file : String, (index.sourceLines file).Pairwise (· < ·)
  mem_sourceLines : ∀ (file : String) (line : Int),
    (∃ number ∈ index.sourceLines file, (number : Int) = line) ↔ index.forward file line ≠ []

/-- The most recent location directive decides where a line comes from. -/
structure FollowsDirectives (lines : List String) (table : SourceTable) (wanted : Int → Bool) (index : LineIndex) :
    Prop where
  located : ∀ position < lines.length, ∀ (path : String) (line : Nat),
    index.reverse? position = some ⟨path, line⟩ ↔
      ∃ loc, Governs lines loc position ∧ 1 ≤ loc.lineNumber ∧ line = loc.lineNumber - 1 ∧
        wanted loc.fileNumber = true ∧ table.get? loc.fileNumber = some path ∧ path ≠ ""
  unlocated : ∀ position < lines.length,
    index.reverse? position = none ↔
      Ungoverned lines position ∨
        ∃ loc, Governs lines loc position ∧
          (loc.lineNumber = 0 ∨ wanted loc.fileNumber = false ∨ table.get? loc.fileNumber = none ∨
            table.get? loc.fileNumber = some "")
  outside : ∀ position : Int, position < 0 ∨ lines.length ≤ position → index.reverse? position = none

section
variable {lines : List String} {table : SourceTable} {wanted : Int → Bool} {index : LineIndex}

theorem dual (built : buildWanted lines table wanted = .ok index) : Dual lines index where
  mem_forward := mem_forward_iff built
  forward_increases := pairwise_forward built
  forward_within := by
    intro file line position member
    obtain ⟨text, there, -⟩ := (instructionAt_iff lines position).mp ((mem_forward_iff built _ _ _).mp member).1
    exact (List.getElem?_eq_some_iff.mp there).1
  sourceLines_increase := pairwise_sourceLines built
  mem_sourceLines := by
    intro file line
    constructor
    · rintro ⟨number, member, rfl⟩
      exact (mem_sourceLines_iff built file number).mp member
    · intro filled
      by_cases negative : line < 0
      · exact absurd (forward_of_negative index file negative) filled
      · obtain ⟨number, rfl⟩ := Int.eq_ofNat_of_zero_le (by omega : 0 ≤ line)
        exact ⟨number, (mem_sourceLines_iff built file number).mpr filled, rfl⟩

-- The forward direction normalises the path that it is given. Declared paths are normal already; with a table
-- from elsewhere the line could be missed.
theorem mem_forward_of_reverse? (built : buildWanted lines table wanted = .ok index) (valid : table.WellFormed)
    {position : Nat} {location : Location} (instruction : instructionAt lines position = true)
    (found : index.reverse? position = some location) : position ∈ index.forward location.file location.line := by
  obtain ⟨-, loc, -, -, -, path, -⟩ := (reverse?_eq_some_iff built position location).mp found
  refine (mem_forward_iff built _ _ _).mpr ⟨instruction, location.line, rfl, ?_⟩
  rw [(valid.normalize_of_get? path).1]
  exact found

theorem followsDirectives (built : buildWanted lines table wanted = .ok index) :
    FollowsDirectives lines table wanted index where
  located := by
    intro position bound path line
    rw [reverse?_eq_some_iff built]
    constructor
    · rintro ⟨-, loc, governs, number, chosen, found, filled⟩
      simp only at number
      exact ⟨loc, governs, by omega, by omega, chosen, found, filled⟩
    · rintro ⟨loc, governs, positive, number, chosen, found, filled⟩
      exact ⟨bound, loc, governs, by simp only; omega, chosen, found, filled⟩
  unlocated := by
    intro position bound
    rw [Option.eq_none_iff_forall_ne_some]
    simp only [ne_eq, reverse?_eq_some_iff built]
    constructor
    · intro refused
      -- A directive that governs must fail in one of the four ways, or else it would give a location.
      rcases exists_governs_or_ungoverned lines position with ⟨loc, governs⟩ | none
      · refine Or.inr ⟨loc, governs, ?_⟩
        by_cases zero : loc.lineNumber = 0
        · exact Or.inl zero
        · cases chosen : wanted loc.fileNumber with
          | false => simp
          | true =>
            cases found : table.get? loc.fileNumber with
            | none => simp
            | some path =>
              have blank : path = "" := by
                by_contra filled
                exact refused ⟨path, loc.lineNumber - 1⟩
                  ⟨bound, loc, governs, by simp only; omega, chosen, found, filled⟩
              simp [blank]
      · exact Or.inl none
    · rintro (none | ⟨loc, governs, cause⟩) location ⟨-, other, otherGoverns, number, chosen, found, filled⟩
      · exact otherGoverns.not_ungoverned none
      · cases governs.unique otherGoverns
        rcases cause with zero | refused | missing | blank
        · omega
        · simp [refused] at chosen
        · simp [missing] at found
        · rw [blank] at found
          exact filled (Option.some.inj found).symm
  outside := by
    intro position outside
    by_cases negative : position < 0
    · exact reverse?_of_negative index negative
    · obtain ⟨place, rfl⟩ := Int.eq_ofNat_of_zero_le (by omega : 0 ≤ position)
      rw [Option.eq_none_iff_forall_ne_some]
      intro location found
      have bound := ((reverse?_eq_some_iff built place location).mp found).1
      omega

/-- Both directions of an index agree, for any table and any choice of files; and with the table of the
listing itself, going from an instruction to its source and back finds it again. -/
theorem forward_reverse_dual (built : buildWanted lines table wanted = .ok index) :
    Dual lines index ∧
      (SourceTable.ofLines lines = .ok table → ∀ (position : Nat) (location : Location),
        instructionAt lines position = true → index.reverse? position = some location →
          position ∈ index.forward location.file location.line) := by
  refine ⟨dual built, fun read position location instruction found => ?_⟩
  exact mem_forward_of_reverse? built (SourceTable.wellFormed_of_ofLines read) instruction found

end

def revisiting : List String :=
  [".file 1 \"/p\" \"./k/../a.hip\"", ".file 2 \"/p/b.h\"", ".loc 1 7 0", "s_mov_b32 s0, 0", ".loc 2 1 0",
    "s_mov_b32 s1, 1", ".loc 1 0 0", "s_nop 0", ".loc 9 7 0", "s_nop 1", ".loc 1 7 4", "; again", "s_endpgm"]

def revisitingTable : SourceTable := ⟨[(1, "/p/a.hip"), (2, "/p/b.h")]⟩

def revisitingIndex : LineIndex where
  forwardMap := ⟨[(⟨"/p/a.hip", 6⟩, [3, 12]), (⟨"/p/b.h", 0⟩, [5])]⟩
  reverseMap := ⟨[(2, ⟨"/p/a.hip", 6⟩), (3, ⟨"/p/a.hip", 6⟩), (4, ⟨"/p/b.h", 0⟩), (5, ⟨"/p/b.h", 0⟩),
    (10, ⟨"/p/a.hip", 6⟩), (11, ⟨"/p/a.hip", 6⟩), (12, ⟨"/p/a.hip", 6⟩)]⟩

theorem forward_reverse_dual_revisiting :
    build revisiting revisitingTable = .ok revisitingIndex ∧ SourceTable.ofLines revisiting = .ok revisitingTable ∧
      Dual revisiting revisitingIndex ∧ 12 ∈ revisitingIndex.forward "/p/a.hip" 6 := by
  have built : build revisiting revisitingTable = .ok revisitingIndex := by decide +kernel
  have read : SourceTable.ofLines revisiting = .ok revisitingTable := by decide +kernel
  obtain ⟨dual, again⟩ := forward_reverse_dual built
  exact ⟨built, read, dual, again read 12 ⟨"/p/a.hip", 6⟩ (by decide) (by decide)⟩

/-- An index is built whenever the location directives can be read, and the most recent directive governs:
a line maps back to nothing if that directive names no line, or no known and wanted file, whatever came
before it. -/
theorem build_follows_directives {lines : List String} (legible : Legible lines) (table : SourceTable)
    (wanted : Int → Bool) :
    ∃ index, buildWanted lines table wanted = .ok index ∧ FollowsDirectives lines table wanted index := by
  obtain ⟨index, built⟩ := (exists_buildWanted_iff lines table wanted).mpr legible
  exact ⟨index, built, followsDirectives built⟩

theorem build_follows_directives_revisiting :
    Legible revisiting ∧ ∃ index, buildWanted revisiting revisitingTable (· == 1) = .ok index ∧
      FollowsDirectives revisiting revisitingTable (· == 1) index :=
  ⟨by decide, build_follows_directives (by decide) revisitingTable (· == 1)⟩

end LineIndex

end KernelAtlas
