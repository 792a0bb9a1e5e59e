import KernelAtlas.Proofs.QueriedLine
import Mathlib.Data.List.Sort

/-! Indexes for some of the files.

Which files are wanted decides only whether an entry is kept: every location directive is followed, and the index for
some files is cut out of the whole one. -/

set_option autoImplicit false

namespace KernelAtlas

namespace Listing

def governing? (lines : List String) : Nat → Option Directive.Loc
  | 0 => locOn? lines 0
  | position + 1 => (locOn? lines (position + 1)).or (governing? lines position)

theorem governing?_eq_some_iff (lines : List String) (position : Nat) (loc : Directive.Loc) :
    governing? lines position = some loc ↔ Governs lines loc position := by
  induction position with
  | zero =>
    constructor
    · intro found
      exact ⟨0, Nat.le_refl 0, found, fun later after bound => absurd after (by omega)⟩
    · intro ⟨last, bound, found, _⟩
      rwa [Nat.le_zero.mp bound] at found
  | succ position ih =>
    rw [governing?]
    cases here : locOn? lines (position + 1) with
    | some other =>
      have governs : Governs lines other (position + 1) :=
        ⟨position + 1, Nat.le_refl _, here, fun later after bound => absurd after (by omega)⟩
      constructor
      · intro found
        cases found
        exact governs
      · intro found
        rw [found.unique governs, Option.some_or]
    | none =>
      rw [Option.none_or, ih]
      constructor
      · intro ⟨last, bound, found, silent⟩
        refine ⟨last, by omega, found, fun later after within => ?_⟩
        rcases Nat.lt_or_eq_of_le within with earlier | same
        · exact silent later after (by omega)
        · rwa [same]
      · intro ⟨last, bound, found, silent⟩
        have before : last ≠ position + 1 := by
          intro same
          rw [same, here] at found
          cases found
        exact ⟨last, by omega, found, fun later after within => silent later after (by omega)⟩

def governedBy (wanted : Int → Bool) (lines : List String) (position : Nat) : Bool :=
  (governing? lines position).any fun loc => wanted loc.fileNumber

theorem Governs.governedBy_iff {lines : List String} {loc : Directive.Loc} {position : Nat}
    (governs : Governs lines loc position) (wanted : Int → Bool) :
    governedBy wanted lines position = true ↔ wanted loc.fileNumber = true := by
  rw [governedBy, (governing?_eq_some_iff lines position loc).mpr governs, Option.any_some]

end Listing

namespace LineIndex

open Listing

section
variable {lines : List String} {marks : List (Option Mark)} (read : marksFrom none lines = .ok marks)
  (table : SourceTable) (wanted : Int → Bool)
include read

-- Both lists are sorted by position, so it is enough that they have the same entries.
theorem located_eq_filter :
    located table wanted lines marks =
      (located table (fun _ => true) lines marks).filter fun entry => governedBy wanted lines entry.1 := by
  let before (left right : Nat × String × Location) : Prop := left.1 < right.1
  have asymmetric : Std.Asymm before := ⟨fun _ _ => Nat.lt_asymm⟩
  have irreflexive : Std.Irrefl before := ⟨fun _ => Nat.lt_irrefl _⟩
  have sorted : (located table wanted lines marks).Pairwise before := pairwise_located table wanted lines marks
  refine sorted.eq_of_mem_iff ((pairwise_located table _ lines marks).filter _) ?_
  intro entry
  obtain ⟨position, line, location⟩ := entry
  simp only [List.mem_filter, mem_located_iff, getElem?_marks_iff read, locate_eq_some_iff]
  constructor
  · intro member
    obtain ⟨there, mark, ⟨bound, loc, governs, file, number⟩, chosen, found⟩ := member
    rw [← file] at chosen
    exact ⟨⟨there, mark, ⟨bound, loc, governs, file, number⟩, trivial, found⟩,
      (governs.governedBy_iff wanted).mpr chosen⟩
  · intro member
    obtain ⟨⟨there, mark, ⟨bound, loc, governs, file, number⟩, -, found⟩, kept⟩ := member
    have chosen := (governs.governedBy_iff wanted).mp kept
    rw [file] at chosen
    exact ⟨there, mark, ⟨bound, loc, governs, file, number⟩, chosen, found⟩

end

theorem forward_collect_filter (entries : List (Nat × String × Location)) (kept : Nat → Bool) (file : String) (line : Int) :
    (collect (entries.filter fun entry => kept entry.1)).forward file line =
      ((collect entries).forward file line).filter kept := by
  by_cases negative : line < 0
  · rw [forward_of_negative _ _ negative, forward_of_negative _ _ negative, List.filter_nil]
  · obtain ⟨number, rfl⟩ := Int.eq_ofNat_of_zero_le (by omega : 0 ≤ line)
    simp only [forward_collect, List.filter_map, List.filter_filter]
    congr 1
    refine List.filter_congr fun entry _ => ?_
    rw [Function.comp_apply]
    ac_rfl

/-- What the index for the wanted files has of the whole index. -/
structure Restricts (lines : List String) (table : SourceTable) (wanted : Int → Bool) (full part : LineIndex) :
    Prop where
  reverse : part.reverseMap.entries = full.reverseMap.entries.filter fun entry => governedBy wanted lines entry.1
  /-- So every list is a sublist of the whole one. -/
  forward : ∀ (file : String) (line : Int),
    part.forward file line = (full.forward file line).filter (governedBy wanted lines)
  /-- Nothing is lost of a file if all its numbers are wanted. -/
  whole : ∀ file : String, (∀ id, table.get? id = some (Path.normalize file) → wanted id = true) →
    ∀ line : Int, part.forward file line = full.forward file line

section
variable {lines : List String} {table : SourceTable} {wanted : Int → Bool} {full part : LineIndex}
  (built : build lines table = .ok full)
include built

theorem governedBy_of_mem_forward {file : String}
    (every : ∀ id, table.get? id = some (Path.normalize file) → wanted id = true) {line : Int} {position : Nat}
    (hit : position ∈ full.forward file line) : governedBy wanted lines position = true := by
  obtain ⟨-, number, -, back⟩ := (mem_forward_iff built file line position).mp hit
  obtain ⟨-, loc, governs, -, -, found, -⟩ := (reverse?_eq_some_iff built position _).mp back
  exact (governs.governedBy_iff wanted).mpr (every loc.fileNumber found)

theorem restricts (builtPart : buildWanted lines table wanted = .ok part) : Restricts lines table wanted full part := by
  obtain ⟨marks, read, rfl⟩ := (buildWanted_eq_ok_iff _ _ _ _).mp built
  obtain ⟨same, readSame, rfl⟩ := (buildWanted_eq_ok_iff _ _ _ _).mp builtPart
  cases read.symm.trans readSame
  have forward : ∀ (file : String) (line : Int), (collect (located table wanted lines marks)).forward file line =
      ((collect (located table (fun _ => true) lines marks)).forward file line).filter (governedBy wanted lines) := by
    intro file line
    rw [located_eq_filter read table wanted, forward_collect_filter]
  refine ⟨?_, forward, ?_⟩
  · simp only [collect, located_eq_filter read table wanted, List.filter_map]
    rfl
  · intro file every line
    rw [forward, List.filter_eq_self]
    exact fun position hit => governedBy_of_mem_forward built every hit

end

end LineIndex

namespace Query

open LineIndex

theorem hits_eq_of_alone {query : Query} (asked : 0 < query.line) {kernel : Kernel} {item : Match}
    (made : query.alone kernel = .ok (some item)) {full : LineIndex}
    (built : build kernel.listing.lines kernel.table = .ok full) :
    item.hits = ((full.forward item.sourceFile (query.line - 1)).filter
      (Listing.governedBy (· == item.fileId) kernel.listing.lines)).filter fun hit : Nat => kernel.contains hit := by
  rcases (query.alone_eq_ok_iff kernel _).mp made with
    ⟨-, none⟩ | ⟨fileId, path, -, ⟨-, part, builtPart, same⟩ | ⟨unasked, -⟩⟩
  · cases none
  · cases same
    simp only [matchWith, (restricts built builtPart).forward]
  · omega

end Query

namespace LineIndex

/-- An index for some files is cut out of the whole index, and so are the hits of a match. All of a file is kept if
the index is for all numbers that are declared with its normalised path. -/
theorem restricted_index_agrees :
    (∀ lines table wanted,
      ((∃ full, build lines table = .ok full) ↔ ∃ part, buildWanted lines table wanted = .ok part) ∧
      ∀ full part, build lines table = .ok full → buildWanted lines table wanted = .ok part →
        Restricts lines table wanted full part) ∧
    ∀ (listings : List Listing) (dumps : List Dump) (query : Query) (found : List Match),
      (listings.mapM Dump.ofListing).result = .ok dumps → (query.resolve dumps).result = .ok found → 1 ≤ query.line →
        ∀ item ∈ found, ∃ full, item.index.result = .ok full ∧
          item.hits.Sublist
            ((full.forward item.sourceFile (query.line - 1)).filter fun hit : Nat => item.kernel.contains hit) ∧
          ((∀ id, item.kernel.table.get? id = some item.sourceFile → id = item.fileId) →
            item.hits =
              (full.forward item.sourceFile (query.line - 1)).filter fun hit : Nat => item.kernel.contains hit) := by
  constructor
  · intro lines table wanted
    refine ⟨?_, fun full part built builtPart => restricts built builtPart⟩
    exact (exists_buildWanted_iff lines table _).trans (exists_buildWanted_iff lines table wanted).symm
  · intro listings dumps query found read resolved asked item member
    obtain ⟨full, indexed⟩ := Query.exists_index_of_mem_resolve read resolved (by omega) member
    have built := item.result_index.symm.trans indexed
    obtain ⟨among, answers, alone⟩ := Query.alone_of_mem_resolve read resolved member
    have hits := Query.hits_eq_of_alone (by omega) alone built
    refine ⟨full, indexed, ?_, fun single => ?_⟩
    · rw [hits]
      exact List.filter_sublist.filter _
    · obtain ⟨dump, inDumps, inside⟩ := List.mem_flatMap.mp among
      obtain ⟨normal, -⟩ := (Query.wellFormed_of_mem_kernels read inDumps inside).normalize_of_get? answers.path
      have every : ∀ id, item.kernel.table.get? id = some (Path.normalize item.sourceFile) →
          (id == item.fileId) = true := by
        intro id declared
        rw [normal] at declared
        exact beq_iff_eq.mpr (single id declared)
      rw [hits, List.filter_eq_self.mpr fun position hit => governedBy_of_mem_forward built every hit]

def aliased : Listing where
  path := "w/build/k-hip-amdgcn-amd-amdhsa-gfx90a.s"
  buildTag := "build"
  modified := .finite false 2
  lines := [".file 1 \"/p\" \"a.hip\"", ".file 2 \"/p/./a.hip\"", ".file 3 \"/p/b.h\"", ".globl kernel_one", ".loc 1 7 0",
    "s_nop 0", ".loc 2 7 0", "s_nop 1", ".loc 3 7 0", "s_endpgm"]

def aliasedTable : SourceTable := ⟨[(1, "/p/a.hip"), (2, "/p/a.hip"), (3, "/p/b.h")]⟩

def aliasedDump : Dump := ⟨aliased, aliasedTable, [⟨"kernel_one", 3, 10, aliased, aliasedTable⟩]⟩

/-- The whole index has the instructions of both numbers, and an index for one of them has its own. A file that is
declared once loses nothing. -/
theorem restricted_index_agrees_aliased :
    ∃ full part, build aliased.lines aliasedTable = .ok full ∧
      buildWanted aliased.lines aliasedTable (· == 1) = .ok part ∧
      Restricts aliased.lines aliasedTable (· == 1) full part ∧
      full.forward "/p/a.hip" 6 = [5, 7] ∧ part.forward "/p/a.hip" 6 = [5] ∧
      ∃ item : Match, (Query.resolve ⟨"b.h", 7⟩ [aliasedDump]).result = .ok [item] ∧ item.hits = [9] ∧
        item.index.result = .ok full ∧
        item.hits = (full.forward "/p/b.h" 6).filter fun hit : Nat => item.kernel.contains hit := by
  obtain ⟨indexes, resolutions⟩ := restricted_index_agrees
  obtain ⟨full, built⟩ := (exists_buildWanted_iff aliased.lines aliasedTable fun _ => true).mpr (by decide)
  obtain ⟨part, builtPart⟩ := (exists_buildWanted_iff aliased.lines aliasedTable (· == 1)).mpr (by decide)
  have forwards : ((build aliased.lines aliasedTable).toOption.map (·.forward "/p/a.hip" 6),
      (buildWanted aliased.lines aliasedTable (· == 1)).toOption.map (·.forward "/p/a.hip" 6)) =
        (some [5, 7], some [5]) := by decide +kernel
  rw [build, built, builtPart] at forwards
  simp only [Except.toOption, Option.map_some, Prod.mk.injEq, Option.some.injEq] at forwards
  have read : ([aliased].mapM Dump.ofListing).result = .ok [aliasedDump] := by decide +kernel
  let item : Match := ⟨⟨"kernel_one", 3, 10, aliased, aliasedTable⟩, "/p/b.h", 3, [9]⟩
  have resolved : (Query.resolve ⟨"b.h", 7⟩ [aliasedDump]).result = .ok [item] := by decide +kernel
  have single : ∀ id, aliasedTable.get? id = some "/p/b.h" → id = 3 := by
    intro id found
    have member := OrderedMap.mem_entries_of_get? found
    simpa [aliasedTable] using member
  obtain ⟨whole, indexed, -, agrees⟩ := resolutions _ _ _ _ read resolved (by decide) item List.mem_cons_self
  have same : whole = full := Except.ok.inj (indexed.symm.trans (item.result_index.trans built))
  rw [same] at indexed agrees
  exact ⟨full, part, built, builtPart, (indexes _ _ _).2 full part built builtPart, forwards.1, forwards.2, item,
    resolved, rfl, indexed, agrees single⟩

/-- A path is normalised before it is looked up, so it is not enough that the index is for the numbers that are
declared with the path as it is written; even if the table was read from the listing. -/
theorem forward_differs_at_unnormalised_path :
    (let lines := [".loc 2 1 0", "s_nop 0"]
      let table : SourceTable := ⟨[(1, "./a.hip"), (2, "a.hip")]⟩
      (∀ id, table.get? id = some "./a.hip" → (id == 1) = true) ∧
        ((build lines table).toOption.map (·.forward "./a.hip" 0)) = some [1] ∧
        ((buildWanted lines table (· == 1)).toOption.map (·.forward "./a.hip" 0)) = some []) ∧
    (let lines := [".file 1 \"a.hip\"", ".file 2 \"b.h\"", ".loc 1 1 0", "s_nop 0"]
      let table : SourceTable := ⟨[(1, "a.hip"), (2, "b.h")]⟩
      SourceTable.ofLines lines = .ok table ∧ (∀ id, table.get? id = some "./a.hip" → (id == 2) = true) ∧
        ((build lines table).toOption.map (·.forward "./a.hip" 0)) = some [3] ∧
        ((buildWanted lines table (· == 2)).toOption.map (·.forward "./a.hip" 0)) = some []) := by
  refine ⟨⟨?_, by decide +kernel, by decide +kernel⟩, by decide +kernel, ?_, by decide +kernel, by decide +kernel⟩
  · intro id found
    have member := OrderedMap.mem_entries_of_get? found
    simpa using member
  · intro id found
    have member := OrderedMap.mem_entries_of_get? found
    simp at member

end LineIndex

end KernelAtlas
