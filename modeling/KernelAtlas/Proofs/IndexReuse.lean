import KernelAtlas.Match
import KernelAtlas.Proofs.Outcome

/-! Indexes that are kept during a resolution.

An index is kept under the place of its listing and the number of a file, and the kernel that it was built for is one of
that place. So what holds of every index that a kernel of a place could build anew holds of the index that is used. As
long as each place stands for one listing, every kernel has the match that it has on its own, and a resolution fails
where the first of its kernels would. -/

set_option autoImplicit false

namespace KernelAtlas

open Numeral (Oversize)

namespace Query

def freshIndex (kernel : Kernel) (fileId : Int) : Except Oversize LineIndex :=
  LineIndex.buildWanted kernel.listing.lines kernel.table (· == fileId)

def alone (query : Query) (kernel : Kernel) : Except Oversize (Option Match) :=
  (query.matchFor .empty 0 kernel).result.map Prod.fst

/-- Kernels of one place belong to one listing. -/
def OnePlace (placed : List (Nat × Kernel)) : Prop :=
  ∀ first ∈ placed, ∀ second ∈ placed, first.1 = second.1 →
    first.2.listing = second.2.listing ∧ first.2.table = second.2.table

/-- Every kept index was built for a kernel of its place. -/
def Indexes.Built (kept : Indexes) (placed : List (Nat × Kernel)) : Prop :=
  ∀ place fileId index, kept.get? (place, fileId) = some index →
    ∃ builder, (place, builder) ∈ placed ∧ freshIndex builder fileId = .ok index

theorem Indexes.built_empty (placed : List (Nat × Kernel)) : Indexes.Built .empty placed := by
  intro place fileId index found
  cases found

def matchWith (query : Query) (kernel : Kernel) (fileId : Int) (path : String) (index : LineIndex) : Match :=
  ⟨kernel, path, fileId, (index.forward path (query.line - 1)).filter fun hit => kernel.contains hit⟩

/-- The match of a kernel with an index that is built anew for a kernel of the same place. -/
def freshMatch (query : Query) (builder kernel : Kernel) : Except Oversize (Option Match) :=
  match kernel.table.findBaseName? query.name with
  | none => .ok none
  | some (fileId, path) =>
    if 0 < query.line then (freshIndex builder fileId).map fun index => some (query.matchWith kernel fileId path index)
    else .ok (some ⟨kernel, path, fileId, []⟩)

def Gives (query : Query) (placed : List (Nat × Kernel)) (entry : Nat × Kernel) (outcome : Except Oversize (Option Match)) :
    Prop :=
  entry ∈ placed ∧ ∃ builder, (entry.1, builder) ∈ placed ∧ query.freshMatch builder entry.2 = outcome

section
variable {kept : Indexes} {placed : List (Nat × Kernel)} (built : kept.Built placed)
include built

theorem Indexes.Built.insert {place : Nat} {builder : Kernel} (member : (place, builder) ∈ placed) {fileId : Int}
    {index : LineIndex} (made : freshIndex builder fileId = .ok index) :
    Indexes.Built (OrderedMap.insert kept (place, fileId) index) placed := by
  intro other otherId found present
  by_cases same : (other, otherId) = (place, fileId)
  · cases same
    rw [OrderedMap.get?_insert_self] at present
    cases present
    exact ⟨builder, member, made⟩
  · rw [OrderedMap.get?_insert_of_ne kept same] at present
    exact built other otherId found present

section
variable {place : Nat} {kernel : Kernel} (member : (place, kernel) ∈ placed)
include member

theorem exists_indexFor (fileId : Int) :
    ∃ builder next, (place, builder) ∈ placed ∧ Indexes.Built next placed ∧
      (indexFor kept place kernel fileId).result = (freshIndex builder fileId).map (·, next) := by
  unfold indexFor
  cases found : kept.get? (place, fileId) with
  | some index =>
    obtain ⟨builder, shares, made⟩ := built place fileId index found
    refine ⟨builder, kept, shares, built, ?_⟩
    rw [made]
    rfl
  | none =>
    simp only [Recorded.result_bind, Recorded.result_ofExcept]
    change ∃ builder next, _ ∧ _ ∧ (freshIndex kernel fileId >>= _) = _
    cases made : freshIndex kernel fileId with
    | error refused =>
      refine ⟨kernel, kept, member, built, ?_⟩
      rw [made]
      rfl
    | ok index =>
      refine ⟨kernel, _, member, built.insert member made, ?_⟩
      rw [made]
      rfl

theorem exists_matchFor (query : Query) :
    ∃ builder next, (place, builder) ∈ placed ∧ Indexes.Built next placed ∧
      (query.matchFor kept place kernel).result = (query.freshMatch builder kernel).map (·, next) := by
  unfold matchFor freshMatch
  cases found : kernel.table.findBaseName? query.name with
  | none => exact ⟨kernel, kept, member, built, rfl⟩
  | some entry =>
    obtain ⟨fileId, path⟩ := entry
    simp only [hitsFor]
    by_cases asked : 0 < query.line
    · obtain ⟨builder, next, shares, nextBuilt, indexed⟩ := exists_indexFor built member fileId
      refine ⟨builder, next, shares, nextBuilt, ?_⟩
      simp only [asked, if_true, Recorded.result_bind, indexed]
      cases freshIndex builder fileId with
      | error refused => rfl
      | ok index => rfl
    · refine ⟨kernel, kept, member, built, ?_⟩
      simp only [asked, if_false]
      rfl

end

/-- A resolution comes to what its kernels come to one after the other, each with an index of its place. -/
theorem exists_resolveFrom {rest : List (Nat × Kernel)} (within : rest ⊆ placed) (query : Query) :
    ∃ outcomes, List.Forall₂ (query.Gives placed) rest outcomes ∧
      (query.resolveFrom kept rest).result = (outcomes.mapM id).map (·.filterMap id) := by
  induction rest generalizing kept with
  | nil => exact ⟨[], .nil, rfl⟩
  | cons entry rest ih =>
    obtain ⟨place, kernel⟩ := entry
    have member : (place, kernel) ∈ placed := within List.mem_cons_self
    obtain ⟨builder, next, shares, nextBuilt, made⟩ := exists_matchFor built member query
    obtain ⟨outcomes, each, later⟩ := ih nextBuilt fun other present => within (List.mem_cons_of_mem _ present)
    refine ⟨query.freshMatch builder kernel :: outcomes, .cons ⟨member, builder, shares, rfl⟩ each, ?_⟩
    simp only [resolveFrom, Recorded.result_bind, made, List.mapM_cons, id]
    cases query.freshMatch builder kernel with
    | error refused => rfl
    | ok found =>
      change ((query.resolveFrom next rest).result >>= _) = _
      rw [later]
      cases outcomes.mapM id with
      | error refused => rfl
      | ok others => cases found <;> rfl

theorem exists_gives_of_mem_resolveFrom {rest : List (Nat × Kernel)} (within : rest ⊆ placed) {query : Query}
    {found : List Match} (resolved : (query.resolveFrom kept rest).result = .ok found) {item : Match} (member : item ∈ found) :
    ∃ entry, query.Gives placed entry (.ok (some item)) := by
  obtain ⟨outcomes, each, made⟩ := exists_resolveFrom built within query
  rw [made] at resolved
  cases all : outcomes.mapM id with
  | error refused =>
    rw [all] at resolved
    cases resolved
  | ok records =>
    rw [all] at resolved
    cases resolved
    obtain ⟨record, inRecords, same⟩ := List.mem_filterMap.mp member
    cases same
    obtain ⟨outcome, inOutcomes, same⟩ := exists_of_mem_of_forall₂ ((mapM_eq_ok_iff _ _ _).mp all) inRecords
    cases same
    obtain ⟨entry, -, gives⟩ := exists_of_mem_of_forall₂ each inOutcomes
    exact ⟨entry, gives⟩

end

theorem alone_eq_freshMatch (query : Query) (kernel : Kernel) : query.alone kernel = query.freshMatch kernel kernel := by
  -- With nothing kept, a kernel on its own is the only one of its place.
  obtain ⟨builder, next, single, -, made⟩ :=
    exists_matchFor (Indexes.built_empty [(0, kernel)]) (List.mem_singleton_self _) query
  cases List.mem_singleton.mp single
  rw [alone, made]
  cases query.freshMatch kernel kernel <;> rfl

theorem alone_eq_ok_iff (query : Query) (kernel : Kernel) (found : Option Match) :
    query.alone kernel = .ok found ↔
      (kernel.table.findBaseName? query.name = none ∧ found = none) ∨
        ∃ fileId path, kernel.table.findBaseName? query.name = some (fileId, path) ∧
          ((0 < query.line ∧ ∃ index, freshIndex kernel fileId = .ok index ∧
              found = some (query.matchWith kernel fileId path index)) ∨
            (query.line ≤ 0 ∧ found = some ⟨kernel, path, fileId, []⟩)) := by
  rw [alone_eq_freshMatch, freshMatch]
  cases named : kernel.table.findBaseName? query.name with
  | none => simp [eq_comm]
  | some entry =>
    obtain ⟨fileId, path⟩ := entry
    by_cases asked : 0 < query.line
    · have answered : ¬query.line ≤ 0 := by omega
      cases built : freshIndex kernel fileId with
      | error refused => simp [asked, answered, built, Except.map]
      | ok index => simp [asked, answered, built, Except.map, eq_comm]
    · have unasked : query.line ≤ 0 := by omega
      simp [asked, unasked, eq_comm]

theorem OnePlace.freshMatch_eq {placed : List (Nat × Kernel)} (shared : OnePlace placed) {place : Nat}
    {builder kernel : Kernel} (left : (place, builder) ∈ placed) (right : (place, kernel) ∈ placed) (query : Query) :
    query.freshMatch builder kernel = query.alone kernel := by
  obtain ⟨listing, table⟩ : builder.listing = kernel.listing ∧ builder.table = kernel.table := shared _ left _ right rfl
  have same (fileId : Int) : freshIndex builder fileId = freshIndex kernel fileId := by
    simp only [freshIndex, listing, table]
  simp only [alone_eq_freshMatch, freshMatch, same]

theorem result_resolveFrom {placed rest : List (Nat × Kernel)} (shared : OnePlace placed) (within : rest ⊆ placed)
    (query : Query) :
    (query.resolveFrom .empty rest).result = (rest.mapM fun entry => query.alone entry.2).map (·.filterMap id) := by
  obtain ⟨outcomes, each, made⟩ := exists_resolveFrom (Indexes.built_empty placed) within query
  have alone : List.Forall₂ (fun entry outcome => query.alone entry.2 = outcome) rest outcomes :=
    each.imp fun entry outcome ⟨member, builder, shares, given⟩ => (shared.freshMatch_eq shares member query).symm.trans given
  rw [← List.forall₂_map_left_iff, List.forall₂_eq_eq_eq] at alone
  rw [made, ← alone, List.mapM_map]
  rfl

end Query

end KernelAtlas
