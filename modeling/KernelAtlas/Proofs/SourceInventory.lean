import KernelAtlas.Proofs.DisplayNames
import KernelAtlas.Proofs.ListingOrder
import Mathlib.Data.List.TakeWhile

/-! The source files that are listed are the source files that can be asked for.

The inventory gathers the names of all files in all tables; a query looks for one name in each table. They agree on
every name, and each kernel without a match has its own report. -/

set_option autoImplicit false

namespace KernelAtlas

theorem Path.baseName_baseName (path : String) : baseName (baseName path) = baseName path := by
  have whole (name : List Char) (plain : '/' ∉ name) : baseNameChars name = name := by
    rw [baseNameChars, List.takeWhile_eq_self_iff.mpr, List.reverse_reverse]
    intro c member
    have kept : c ≠ '/' := fun same => plain (same ▸ List.mem_reverse.mp member)
    simpa using kept
  simp only [baseName, String.toList_ofList, whole _ (slash_notMem_baseNameChars _)]

section
variable (kernels : List Kernel)

theorem mem_sourceNames_iff (name : String) :
    name ∈ sourceNames kernels ↔ ∃ kernel ∈ kernels, ∃ path ∈ kernel.table.values, Path.baseName path = name := by
  simp [sourceNames, List.mem_mergeSort, List.mem_eraseDups]

theorem pairwise_sourceNames : (sourceNames kernels).Pairwise (· < ·) := by
  have names := nodup_eraseDups (kernels.flatMap fun kernel => kernel.table.values.map Path.baseName)
  have sorted := FileTree.pairwise_sortNames
    (kernels.flatMap fun kernel => kernel.table.values.map Path.baseName).eraseDups
  refine (sorted.and ((List.mergeSort_perm _ _).nodup_iff.mpr names)).imp ?_
  intro left right ⟨ordered, different⟩
  exact String.not_le.mp fun back => different (String.le_antisymm ordered back)

theorem mem_sourceNames_iff_refersTo (query : Query) :
    query.name ∈ sourceNames kernels ↔ ∃ kernel ∈ kernels, query.refersTo kernel = true := by
  simp [mem_sourceNames_iff, Query.refersTo]

end

namespace Query

theorem exists_alone_of_lineless {query : Query} (lineless : query.line ≤ 0) (kernel : Kernel) :
    ∃ single, query.alone kernel = .ok single :=
  (query.exists_alone_iff kernel).mpr fun asked => absurd asked (Int.not_lt.mpr lineless)

/-- What a query for a whole source file finds, beside the names that are listed. -/
structure Inventoried (query : Query) (dumps : List Dump) (found : List Match) : Prop where
  resolved : (query.resolve dumps).result = .ok found
  listed : found ≠ [] ↔ query.name ∈ sourceNames (kernelsOf dumps)
  counted : found.length = (kernelsOf dumps).countP query.refersTo
  reported : List.Forall₂ (fun kernel report => report.kind = .noSourceFileMatch ∧ report.site = kernel.site)
    ((kernelsOf dumps).filter fun kernel => !query.refersTo kernel) (query.resolve dumps).diagnostics

theorem exists_inventoried {listings : List Listing} {dumps : List Dump}
    (read : (listings.mapM Dump.ofListing).result = .ok dumps) {query : Query} (lineless : query.line ≤ 0) :
    ∃ found, query.Inventoried dumps found := by
  have each := fun kernel (_ : kernel ∈ kernelsOf dumps) => exists_alone_of_lineless lineless kernel
  have resolved := (resolve_eq_ok_iff read query _).mpr ⟨rfl, each⟩
  have counted : ((kernelsOf dumps).filterMap query.match?).length = (kernelsOf dumps).countP query.refersTo := by
    rw [← (forall₂_kernel_match? each).length_eq, List.countP_eq_length_filter]
  refine ⟨_, resolved, ?_, counted, ?_⟩
  · rw [mem_sourceNames_iff_refersTo, ← List.length_pos_iff, counted, List.countP_pos_iff]
  · rw [diagnostics_resolve resolved, List.forall₂_map_right_iff, List.forall₂_same]
    exact fun kernel _ => ⟨rfl, rfl⟩

end Query

namespace Command

open Query (olderBuild twoBuilds twoKernels)
open Report (Kernels Matches)

section
variable {world : World} {scope : Scope}

theorem exists_of_kernelsReport {report : Kernels} (made : (kernelsReport world scope).result = .ok report) :
    ∃ config dumps, (world.config scope).result = .ok config ∧
      (Discovery.dumps world.tree config scope.workspace).result = .ok dumps ∧
        report.sources = sourceNames (kernelsOf dumps) ∧ ∀ kernel ∈ kernelsOf dumps, Answers world.demangler config kernel := by
  obtain ⟨config, settings, made⟩ := (Recorded.result_bind_eq_ok_iff _ _ _).mp made
  obtain ⟨dumps, read, made⟩ := (Recorded.result_bind_eq_ok_iff _ _ _).mp made
  obtain ⟨names, named, made⟩ := (Recorded.result_bind_eq_ok_iff _ _ _).mp made
  cases made
  exact ⟨config, dumps, settings, (Recorded.result_mapError_eq_ok_iff _ _ _).mp read, rfl,
    (exists_names_iff (demangler_ne_nil settings)).mp ⟨names, named⟩⟩

theorem exists_searchReport {config : Config} {query : Query} {found : List Match} (counted : 0 ≤ query.line)
    (settings : (world.config scope).result = .ok config) (searched : (world.search config scope query).result = .ok found)
    (answers : ∀ item ∈ found, Answers world.demangler config item.kernel) :
    ∃ report, (searchReport world scope query).result = .ok report ∧ report.entries.length = found.length := by
  obtain ⟨names, named⟩ := (exists_names_iff (demangler_ne_nil settings)).mpr (List.forall_mem_map.mpr answers)
  have length := length_of_names named
  refine ⟨.ofNames query found names, ?_, ?_⟩
  · rw [searchReport, if_neg (Int.not_lt.mpr counted)]
    apply Recorded.result_bind_of_ok settings
    apply Recorded.result_bind_of_ok searched
    apply Recorded.result_bind_of_ok named
    rfl
  · rw [List.length_map] at length
    simp [Matches.ofNames, length]

theorem exists_search_of_listed {report : Kernels} (made : (kernelsReport world scope).result = .ok report) {name : String}
    (listed : name ∈ report.sources) :
    ∃ found, (searchReport world scope ⟨name, 0⟩).result = .ok found ∧ found.entries ≠ [] := by
  obtain ⟨config, dumps, settings, dumped, sources, answers⟩ := exists_of_kernelsReport made
  obtain ⟨listings, -, read⟩ := (Discovery.dumps_eq_ok_iff _ _ _ _).mp dumped
  obtain ⟨discovered, inventoried⟩ : ∃ found, Query.Inventoried ⟨name, 0⟩ dumps found :=
    Query.exists_inventoried read (Int.le_refl 0)
  have searched := (result_search_eq_ok_iff (orderMatches discovered)).mpr
    ⟨dumps, discovered, dumped, inventoried.resolved, rfl⟩
  have same := latestFirst_perm Match.time discovered
  have named : ∀ item ∈ orderMatches discovered, Answers world.demangler config item.kernel := fun item member =>
    answers _ (Query.alone_of_mem_resolve read inventoried.resolved (same.mem_iff.mp member)).1
  obtain ⟨found, foundMade, length⟩ := exists_searchReport (Int.le_refl 0) settings searched named
  refine ⟨found, foundMade, ?_⟩
  have kept : (orderMatches discovered).length = discovered.length := same.length_eq
  rw [← List.length_pos_iff, length, kept, List.length_pos_iff, inventoried.listed]
  -- The name that is asked for is the last component of some path, and so its own last component.
  rw [sources, mem_sourceNames_iff] at listed
  obtain ⟨kernel, member, path, declared, rfl⟩ := listed
  rw [Query.name, Path.baseName_baseName]
  exact (mem_sourceNames_iff _ _).mpr ⟨kernel, member, path, declared, rfl⟩

structure Finds (world : World) (scope : Scope) (name : String) (found : Matches) : Prop where
  made : (searchReport world scope ⟨name, 0⟩).result = .ok found
  entries : found.entries ≠ []
  printed : (perform world { scope with json := true } (.search (some name) (some 0))).result =
    .ok ⟨0, found.toJson.render ++ "\n"⟩

end

/-- The names of all source files are listed in order and once, a query finds something exactly for the names that
are listed, and a search for a listed name has a match. -/
theorem inventory_agrees :
    (∀ (listings : List Listing) (dumps : List Dump), (listings.mapM Dump.ofListing).result = .ok dumps →
      (sourceNames (kernelsOf dumps)).Pairwise (· < ·) ∧
        ∀ source, ∃ found, Query.Inventoried ⟨source, 0⟩ dumps found) ∧
      ∀ world scope report, (kernelsReport world scope).result = .ok report →
        ∀ name ∈ report.sources, ∃ found, Finds world scope name found := by
  refine ⟨?_, ?_⟩
  · intro listings dumps read
    exact ⟨pairwise_sourceNames _, fun source => Query.exists_inventoried read (Int.le_refl 0)⟩
  · intro world scope report made name listed
    obtain ⟨found, foundMade, entries⟩ := exists_search_of_listed made listed
    have printed : (searchReport world { scope with json := true } ⟨name, 0⟩).result = .ok found := foundMade
    exact ⟨found, foundMade, entries,
      Recorded.result_bind_of_ok (result_given .line 0) (Recorded.result_bind_of_ok printed rfl)⟩

/-- The two names of the builds are listed, and a search finds the one kernel that refers to the header. -/
theorem inventory_agrees_twoBuilds :
    ([twoKernels, olderBuild].mapM Dump.ofListing).result = .ok twoBuilds ∧
      (∃ found, Query.Inventoried ⟨"include/b.h", 0⟩ twoBuilds found ∧ found.length = 1) ∧
        ∃ report, (kernelsReport twoBuildsWorld bothBuilds).result = .ok report ∧ "b.h" ∈ report.sources ∧
          ∃ found, Finds twoBuildsWorld bothBuilds "b.h" found := by
  obtain ⟨listings, commands⟩ := inventory_agrees
  obtain ⟨found, inventoried⟩ := (listings _ _ Query.read_twoBuilds).2 "include/b.h"
  have settings : (twoBuildsWorld.config bothBuilds).result = .ok bothConfigured := by decide +kernel
  obtain ⟨names, named⟩ : ∃ names, (twoBuildsWorld.names bothConfigured (kernelsOf twoBuilds)).result = .ok names :=
    (exists_names_iff (demangler_ne_nil settings)).mpr fun _ _ _ unforeseen => unforeseen
  have made : (kernelsReport twoBuildsWorld bothBuilds).result = .ok (.ofNames (kernelsOf twoBuilds) names) := by
    rw [result_kernelsReport settings dumps_twoBuilds, named]
    rfl
  have listed : "b.h" ∈ (Kernels.ofNames (kernelsOf twoBuilds) names).sources :=
    (mem_sourceNames_iff _ _).mpr (by decide +kernel)
  refine ⟨Query.read_twoBuilds, ⟨found, inventoried, ?_⟩, _, made, listed, commands _ _ _ made _ listed⟩
  rw [inventoried.counted]
  decide +kernel

end Command

end KernelAtlas
