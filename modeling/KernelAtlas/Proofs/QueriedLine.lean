import KernelAtlas.Proofs.Resolution
import KernelAtlas.Version

/-! What the queried line decides.

It decides the hits of the matches and nothing else: a query for the kernels alone has the same matches in
the same order. -/

set_option autoImplicit false

namespace KernelAtlas

open Numeral (Oversize)

namespace Match

def bare (found : Match) : Match := { found with hits := [] }

theorem result_index (found : Match) :
    found.index.result = LineIndex.build found.kernel.listing.lines found.kernel.table := by
  unfold index
  rw [Recorded.result_bind, Recorded.result_ofExcept]
  cases LineIndex.build found.kernel.listing.lines found.kernel.table <;> rfl

end Match

theorem latestFirst_sorted {α : Type} (time : α → Rat) (items : List α) :
    (latestFirst time items).Pairwise fun left right => time right ≤ time left :=
  pairwise_mergeSort_of_key time items

-- The sort is stable and looks at times only, so it commutes with dropping the hits.
theorem orderMatches_map_bare (found : List Match) :
    orderMatches (found.map Match.bare) = (orderMatches found).map Match.bare := by
  unfold orderMatches latestFirst
  apply Eq.symm
  apply List.map_mergeSort
  intro left _ right _
  rfl

namespace Query

def withoutLine (query : Query) : Query := { query with line := 0 }

theorem alone_withoutLine {query : Query} {kernel : Kernel} {found : Option Match}
    (made : query.alone kernel = .ok found) : query.withoutLine.alone kernel = .ok (found.map Match.bare) := by
  apply (alone_eq_ok_iff _ _ _).mpr
  rcases (query.alone_eq_ok_iff kernel found).mp made with ⟨missing, rfl⟩ | ⟨fileId, path, named, rest⟩
  · exact Or.inl ⟨missing, rfl⟩
  · refine Or.inr ⟨fileId, path, named, Or.inr ⟨Int.le_refl 0, ?_⟩⟩
    rcases rest with ⟨-, index, -, rfl⟩ | ⟨-, rfl⟩
    · rfl
    · rfl

section
variable {listings : List Listing} {dumps : List Dump} (read : (listings.mapM Dump.ofListing).result = .ok dumps)
  {query : Query} {found : List Match} (resolved : (query.resolve dumps).result = .ok found)
include read resolved

theorem resolve_withoutLine : (query.withoutLine.resolve dumps).result = .ok (found.map Match.bare) := by
  obtain ⟨same, made⟩ := resolve_eq_ok read resolved
  -- A kernel that could be resolved with a line can be resolved without one, which needs no index.
  have each : (kernelsOf dumps).mapM query.withoutLine.alone =
      .ok ((kernelsOf dumps).map fun kernel => (query.match? kernel).map Match.bare) := by
    rw [mapM_eq_ok_iff, List.forall₂_map_right_iff, List.forall₂_same]
    intro kernel member
    obtain ⟨single, alone⟩ := made kernel member
    have kept : query.match? kernel = single := congrArg (fun result => result.toOption.join) alone
    rw [kept]
    exact alone_withoutLine alone
  rw [result_resolve read, each, same, List.map_filterMap]
  simp only [Except.map, List.filterMap_map, Function.comp_def, id]

theorem alone_of_mem_resolve {item : Match} (member : item ∈ found) :
    item.kernel ∈ kernelsOf dumps ∧ query.Answers item.kernel item ∧ query.alone item.kernel = .ok (some item) := by
  obtain ⟨same, -⟩ := resolve_eq_ok read resolved
  rw [same] at member
  obtain ⟨kernel, among, kept⟩ := List.mem_filterMap.mp member
  obtain ⟨dump, inDumps, inside⟩ := List.mem_flatMap.mp among
  have alone := alone_of_match? kept
  have answers := answers_of_alone (wellFormed_of_mem_kernels read inDumps inside) alone
  rw [answers.of_kernel]
  exact ⟨among, answers, alone⟩

-- A line can be asked for only in listings whose location directives can be read. Then the whole index can be
-- built as well.
theorem exists_index_of_mem_resolve (asked : 0 < query.line) {item : Match} (member : item ∈ found) :
    ∃ index, item.index.result = .ok index := by
  obtain ⟨-, -, alone⟩ := alone_of_mem_resolve read resolved member
  simp only [Match.result_index]
  rcases (query.alone_eq_ok_iff _ _).mp alone with ⟨-, none⟩ | ⟨fileId, path, -, ⟨-, index, built, -⟩ | ⟨unasked, -⟩⟩
  · cases none
  · have legible := (LineIndex.exists_buildWanted_iff _ _ _).mp ⟨index, built⟩
    exact (LineIndex.exists_buildWanted_iff _ _ _).mpr legible
  · omega

end

section
variable {query : Query} {item : Match} {index : LineIndex}

/-- The whole index of a listing leads from a hit back to the queried line. -/
theorem Answers.reverse?_of_mem_hits (answers : query.Answers item.kernel item) (asked : 0 < query.line)
    (valid : item.kernel.table.WellFormed) (built : item.index.result = .ok index) {hit : Nat} (member : hit ∈ item.hits) :
    ∃ number : Nat, (number : Int) + 1 = query.line ∧ index.reverse? hit = some ⟨item.sourceFile, number⟩ := by
  rw [Match.result_index] at built
  obtain ⟨-, instruction, loc, governs, same, line⟩ := (answers.mem_hits asked hit).mp member
  obtain ⟨text, there, -⟩ := (Listing.instructionAt_iff _ _).mp instruction
  have bound := (List.getElem?_eq_some_iff.mp there).1
  have declared : item.kernel.table.get? loc.fileNumber = some item.sourceFile := same ▸ answers.path
  have filled := (valid.normalize_of_get? answers.path).2
  have counted : loc.lineNumber = loc.lineNumber - 1 + 1 := by omega
  refine ⟨loc.lineNumber - 1, by omega, ?_⟩
  apply (LineIndex.reverse?_eq_some_iff built hit _).mpr
  exact ⟨bound, loc, governs, counted, rfl, declared, filled⟩

/-- An instruction of the kernel that the whole index leads from to the queried line is a hit, unless its file
is declared under a second number. -/
theorem Answers.mem_hits_of_reverse? (answers : query.Answers item.kernel item) (asked : 0 < query.line)
    (built : item.index.result = .ok index)
    (single : ∀ fileId, item.kernel.table.get? fileId = some item.sourceFile → fileId = item.fileId) {position number : Nat}
    (inside : item.kernel.contains position = true)
    (instruction : Listing.instructionAt item.kernel.listing.lines position = true)
    (counted : (number : Int) + 1 = query.line) (found : index.reverse? position = some ⟨item.sourceFile, number⟩) :
    position ∈ item.hits := by
  rw [Match.result_index] at built
  obtain ⟨-, loc, governs, line, -, declared, -⟩ := (LineIndex.reverse?_eq_some_iff built position _).mp found
  simp only at line
  apply (answers.mem_hits asked position).mpr
  exact ⟨inside, instruction, loc, governs, single loc.fileNumber declared, by omega⟩

end

end Query

end KernelAtlas
