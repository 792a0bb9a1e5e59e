import KernelAtlas.Proofs.Gathering
import KernelAtlas.Proofs.GoverningLocation
import KernelAtlas.Proofs.Regions
import Mathlib.Data.List.Sort

/-! What the two maps of a line index hold.

Both maps are made from one list of entries, the lines at which a location is in force. The backward map
is that list; the forward map gathers the positions of its instructions by location. -/

set_option autoImplicit false

namespace KernelAtlas

open Numeral (Oversize)

/-- Whether a line is there and is an instruction. -/
def Listing.instructionAt (lines : List String) (position : Nat) : Bool := lines[position]?.any Line.isInstruction

theorem Listing.instructionAt_iff (lines : List String) (position : Nat) :
    instructionAt lines position = true ↔ ∃ line, lines[position]? = some line ∧ Line.isInstruction line = true := by
  simp [instructionAt, Option.any_eq_true]

namespace LineIndex

open Listing

theorem locate_eq_some_iff (table : SourceTable) (wanted : Int → Bool) (mark : Mark) (location : Location) :
    locate table wanted mark = some location ↔
      wanted mark.file = true ∧ table.get? mark.file = some location.file ∧ location.file ≠ "" ∧
        mark.line = location.line := by
  obtain ⟨file, line⟩ := location
  unfold locate
  by_cases chosen : wanted mark.file = true
  · simp only [chosen, if_true, true_and]
    split
    · rename_i missing
      simp [missing]
    · rename_i blank
      simp only [blank, Option.some.injEq, reduceCtorEq, false_iff]
      rintro ⟨rfl, filled, -⟩
      exact filled rfl
    · rename_i path filled found
      simp only [found, Option.some.injEq, Location.mk.injEq]
      constructor
      · rintro ⟨rfl, same⟩
        exact ⟨rfl, filled, same⟩
      · rintro ⟨rfl, -, same⟩
        exact ⟨rfl, same⟩
  · simp [chosen]

section
variable (table : SourceTable) (wanted : Int → Bool) (lines : List String) (marks : List (Option Mark))

theorem mem_located_iff (position : Nat) (line : String) (location : Location) :
    (position, line, location) ∈ located table wanted lines marks ↔
      lines[position]? = some line ∧
        ∃ mark, marks[position]? = some (some mark) ∧ locate table wanted mark = some location := by
  simp only [located, List.mem_filterMap]
  constructor
  · rintro ⟨⟨⟨text, mark⟩, place⟩, member, kept⟩
    obtain ⟨found, located, same⟩ := Option.map_eq_some_iff.mp kept
    cases same
    obtain ⟨mark, rfl, located⟩ := Option.bind_eq_some_iff.mp located
    have both := List.mem_zipIdx_iff_getElem?.mp member
    obtain ⟨first, second⟩ := List.getElem?_zip_eq_some.mp both
    exact ⟨first, mark, second, located⟩
  · rintro ⟨first, mark, second, located⟩
    refine ⟨((line, some mark), position), ?_, by simp [located]⟩
    exact List.mem_zipIdx_iff_getElem?.mpr (List.getElem?_zip_eq_some.mpr ⟨first, second⟩)

theorem pairwise_located :
    (located table wanted lines marks).Pairwise fun left right => left.1 < right.1 := by
  refine (pairwise_snd_zipIdx (lines.zip marks)).filterMap _ ?_
  intro left right before first kept second keptToo
  obtain ⟨location, -, rfl⟩ := Option.map_eq_some_iff.mp kept
  obtain ⟨other, -, rfl⟩ := Option.map_eq_some_iff.mp keptToo
  exact before

end

section
variable {entries : List (Nat × String × Location)}

theorem reverse?_collect_iff (sorted : entries.Pairwise fun left right => left.1 < right.1) (position : Nat)
    (location : Location) :
    (collect entries).reverse? position = some location ↔ ∃ line, (position, line, location) ∈ entries := by
  -- Positions increase, so none of them is a key twice.
  have distinct : (collect entries).reverseMap.keys.Nodup := by
    simp only [collect, OrderedMap.keys, List.map_map, List.Nodup, List.pairwise_map]
    exact sorted.imp fun before => Nat.ne_of_lt before
  have found : (collect entries).reverse? position = (collect entries).reverseMap.get? position := rfl
  rw [found, OrderedMap.get?_eq_some_iff distinct]
  simp [collect]

theorem forwardMap_collect (entries : List (Nat × String × Location)) :
    (collect entries).forwardMap =
      OrderedMap.gather (fun entry => entry.2.2) Prod.fst .empty
        (entries.filter fun entry => Line.isInstruction entry.2.1) := rfl

theorem forward_collect (entries : List (Nat × String × Location)) (file : String) (line : Nat) :
    (collect entries).forward file line =
      ((entries.filter fun entry => Line.isInstruction entry.2.1).filter fun entry =>
        entry.2.2 = (⟨Path.normalize file, line⟩ : Location)).map Prod.fst := by
  have found : (collect entries).forward file line =
      ((collect entries).forwardMap.get? ⟨Path.normalize file, line⟩).getD [] := rfl
  rw [found, forwardMap_collect, OrderedMap.getD_get?_gather]
  simp

theorem mem_forward_collect_iff (entries : List (Nat × String × Location)) (file : String) (line position : Nat) :
    position ∈ (collect entries).forward file line ↔
      ∃ text, (position, text, ⟨Path.normalize file, line⟩) ∈ entries ∧ Line.isInstruction text = true := by
  rw [forward_collect]
  simp only [List.mem_map, List.mem_filter, decide_eq_true_eq]
  constructor
  · rintro ⟨⟨place, text, location⟩, ⟨⟨member, instruction⟩, rfl⟩, rfl⟩
    exact ⟨text, member, instruction⟩
  · rintro ⟨text, member, instruction⟩
    exact ⟨(position, text, ⟨Path.normalize file, line⟩), ⟨⟨member, instruction⟩, rfl⟩, rfl⟩

theorem mem_keys_collect_iff (entries : List (Nat × String × Location)) (location : Location) :
    location ∈ (collect entries).forwardMap.keys ↔
      ∃ entry ∈ entries, Line.isInstruction entry.2.1 = true ∧ entry.2.2 = location := by
  rw [forwardMap_collect, OrderedMap.mem_keys_gather_iff]
  simp [OrderedMap.keys, OrderedMap.empty, and_assoc]

end

theorem forward_of_negative (index : LineIndex) (file : String) {line : Int} (negative : line < 0) :
    index.forward file line = [] := by
  unfold forward
  split
  · rfl
  · rename_i number found
    have same := Int.mem_toNat?.mp found
    omega

theorem reverse?_of_negative (index : LineIndex) {position : Int} (negative : position < 0) :
    index.reverse? position = none := by
  unfold reverse?
  cases found : position.toNat? with
  | none => rfl
  | some number =>
    have same := Int.mem_toNat?.mp found
    omega

theorem buildWanted_eq_ok_iff (lines : List String) (table : SourceTable) (wanted : Int → Bool) (index : LineIndex) :
    buildWanted lines table wanted = .ok index ↔
      ∃ marks, marksFrom none lines = .ok marks ∧ index = collect (located table wanted lines marks) := by
  simp only [buildWanted, bind_eq_ok_iff]
  refine exists_congr fun marks => and_congr_right fun _ => ?_
  exact ⟨fun same => (Except.ok.inj same).symm, fun same => congrArg Except.ok same.symm⟩

-- Numerals are read before it is asked which file is wanted, so the choice of files does not matter here.
theorem exists_buildWanted_iff (lines : List String) (table : SourceTable) (wanted : Int → Bool) :
    (∃ index, buildWanted lines table wanted = .ok index) ↔ Listing.Legible lines := by
  simp only [buildWanted_eq_ok_iff, ← exists_marksFrom_iff none lines]
  constructor
  · rintro ⟨index, marks, read, -⟩
    exact ⟨marks, read⟩
  · rintro ⟨marks, read⟩
    exact ⟨_, marks, read, rfl⟩

section
variable {lines : List String} {table : SourceTable} {wanted : Int → Bool} {index : LineIndex}

/-- A line maps back to the location that its governing directive gives. -/
theorem reverse?_eq_some_iff (built : buildWanted lines table wanted = .ok index) (position : Nat)
    (location : Location) :
    index.reverse? position = some location ↔
      position < lines.length ∧ ∃ loc, Governs lines loc position ∧ loc.lineNumber = location.line + 1 ∧
        wanted loc.fileNumber = true ∧ table.get? loc.fileNumber = some location.file ∧ location.file ≠ "" := by
  obtain ⟨marks, read, rfl⟩ := (buildWanted_eq_ok_iff _ _ _ _).mp built
  rw [reverse?_collect_iff (pairwise_located table wanted lines marks)]
  simp only [mem_located_iff, getElem?_marks_iff read, locate_eq_some_iff]
  constructor
  · rintro ⟨line, -, mark, ⟨bound, loc, governs, file, number⟩, chosen, path, filled, same⟩
    rw [← file] at chosen path
    exact ⟨bound, loc, governs, by omega, chosen, path, filled⟩
  · rintro ⟨bound, loc, governs, number, chosen, path, filled⟩
    exact ⟨lines[position], List.getElem?_eq_getElem bound, ⟨loc.fileNumber, location.line⟩,
      ⟨bound, loc, governs, rfl, number⟩, chosen, path, filled, rfl⟩

theorem mem_forward_iff (built : buildWanted lines table wanted = .ok index) (file : String) (line : Int)
    (position : Nat) :
    position ∈ index.forward file line ↔
      instructionAt lines position = true ∧
        ∃ number : Nat, line = number ∧ index.reverse? position = some ⟨Path.normalize file, number⟩ := by
  obtain ⟨marks, -, rfl⟩ := (buildWanted_eq_ok_iff _ _ _ _).mp built
  have sorted := pairwise_located table wanted lines marks
  rw [instructionAt_iff]
  by_cases negative : line < 0
  · rw [forward_of_negative _ _ negative]
    constructor
    · intro member
      cases member
    · rintro ⟨-, number, same, -⟩
      omega
  · obtain ⟨number, rfl⟩ := Int.eq_ofNat_of_zero_le (by omega : 0 ≤ line)
    simp only [mem_forward_collect_iff, reverse?_collect_iff sorted]
    constructor
    · rintro ⟨text, member, instruction⟩
      have there := ((mem_located_iff _ _ _ _ _ _ _).mp member).1
      exact ⟨⟨text, there, instruction⟩, number, rfl, text, member⟩
    · rintro ⟨⟨text, there, instruction⟩, other, same, line, member⟩
      cases Int.ofNat.inj same
      have also := ((mem_located_iff _ _ _ _ _ _ _).mp member).1
      cases Option.some.inj (there.symm.trans also)
      exact ⟨text, member, instruction⟩

theorem pairwise_forward (built : buildWanted lines table wanted = .ok index) (file : String) (line : Int) :
    (index.forward file line).Pairwise (· < ·) := by
  obtain ⟨marks, -, rfl⟩ := (buildWanted_eq_ok_iff _ _ _ _).mp built
  by_cases negative : line < 0
  · rw [forward_of_negative _ _ negative]
    exact List.Pairwise.nil
  · obtain ⟨number, rfl⟩ := Int.eq_ofNat_of_zero_le (by omega : 0 ≤ line)
    rw [forward_collect, List.pairwise_map]
    exact ((pairwise_located table wanted lines marks).filter _).filter _

theorem mem_sourceLines_iff (built : buildWanted lines table wanted = .ok index) (file : String) (line : Nat) :
    line ∈ index.sourceLines file ↔ index.forward file line ≠ [] := by
  obtain ⟨marks, -, rfl⟩ := (buildWanted_eq_ok_iff _ _ _ _).mp built
  have key : line ∈ (collect (located table wanted lines marks)).sourceLines file ↔
      ⟨Path.normalize file, line⟩ ∈ (collect (located table wanted lines marks)).forwardMap.keys := by
    simp only [sourceLines, List.mem_mergeSort, List.mem_filterMap]
    constructor
    · rintro ⟨⟨path, number⟩, member, kept⟩
      by_cases same : path = Path.normalize file
      · simp only [same, if_true, Option.some.injEq] at kept
        rwa [same, kept] at member
      · simp [same] at kept
    · intro member
      exact ⟨⟨Path.normalize file, line⟩, member, by simp⟩
  rw [key, mem_keys_collect_iff]
  constructor
  · rintro ⟨⟨position, text, location⟩, member, instruction, rfl⟩
    have hit : position ∈ (collect (located table wanted lines marks)).forward file line :=
      (mem_forward_collect_iff _ _ _ _).mpr ⟨text, member, instruction⟩
    exact List.ne_nil_of_mem hit
  · intro filled
    obtain ⟨position, hit⟩ := List.exists_mem_of_ne_nil _ filled
    obtain ⟨text, member, instruction⟩ := (mem_forward_collect_iff _ _ _ _).mp hit
    exact ⟨(position, text, ⟨Path.normalize file, line⟩), member, instruction, rfl⟩

theorem pairwise_sourceLines (built : buildWanted lines table wanted = .ok index) (file : String) :
    (index.sourceLines file).Pairwise (· < ·) := by
  obtain ⟨marks, -, rfl⟩ := (buildWanted_eq_ok_iff _ _ _ _).mp built
  have keys : (collect (located table wanted lines marks)).forwardMap.keys.Nodup := by
    rw [forwardMap_collect]
    exact OrderedMap.nodup_keys_gather _ _ (by simp [OrderedMap.keys, OrderedMap.empty]) _
  -- Two locations of one file that are not equal differ in their lines.
  have numbers : ((collect (located table wanted lines marks)).forwardMap.keys.filterMap fun location =>
      if location.file = Path.normalize file then some location.line else none).Nodup := by
    refine List.Pairwise.filterMap _ ?_ keys
    rintro ⟨path, number⟩ ⟨other, otherNumber⟩ different first kept second keptToo rfl
    split at kept
    · split at keptToo
      · simp_all
      · cases keptToo
    · cases kept
  have sorted : ((collect (located table wanted lines marks)).sourceLines file).Pairwise (· ≤ ·) :=
    List.pairwise_mergeSort' (· ≤ ·) _
  have distinct : ((collect (located table wanted lines marks)).sourceLines file).Nodup :=
    (List.mergeSort_perm _ _).nodup_iff.mpr numbers
  exact sorted.imp₂ (fun _ _ bound apart => Nat.lt_of_le_of_ne bound apart) distinct

end

end LineIndex

end KernelAtlas
