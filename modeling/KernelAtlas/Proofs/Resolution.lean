import KernelAtlas.Proofs.IndexLaws
import KernelAtlas.Proofs.IndexReuse

/-! What a query finds.

A resolution is a filter on kernels: it has one match for each kernel whose listing declares a file of the
queried name, and the hits of a match are the instructions of the kernel that the queried line governs. -/

set_option autoImplicit false

namespace KernelAtlas

open Numeral (Oversize)

namespace Query

def refersTo (query : Query) (kernel : Kernel) : Bool :=
  kernel.table.values.any fun path => Path.baseName path == query.name

/-- The match of a kernel that refers to the queried file. -/
structure Answers (query : Query) (kernel : Kernel) (found : Match) : Prop where
  of_kernel : found.kernel = kernel
  first : ∃ before after, kernel.table.entries = before ++ (found.fileId, found.sourceFile) :: after ∧
    Path.baseName found.sourceFile = query.name ∧
      ∀ entry ∈ before, Path.baseName entry.2 ≠ query.name
  path : kernel.table.get? found.fileId = some found.sourceFile
  unasked : query.line ≤ 0 → found.hits = []
  increases : found.hits.Pairwise (· < ·)
  mem_hits : 0 < query.line → ∀ position : Nat, position ∈ found.hits ↔
    kernel.contains position = true ∧ Listing.instructionAt kernel.listing.lines position = true ∧
      ∃ loc, Listing.Governs kernel.listing.lines loc position ∧ loc.fileNumber = found.fileId ∧
        (loc.lineNumber : Int) = query.line

/-- A query over listings is an exact filter of their kernels. -/
structure Exact (query : Query) (dumps : List Dump) : Prop where
  /-- The indexes that are kept cannot be told from indexes built for each kernel. -/
  fresh : (query.resolve dumps).result = ((kernelsOf dumps).mapM query.alone).map (·.filterMap id)
  /-- Nor does it matter which kernels are resolved together. -/
  company : ∀ placed ⊆ placedKernels dumps,
    (query.resolveFrom .empty placed).result = (placed.mapM fun entry => query.alone entry.2).map (·.filterMap id)
  matched : ∀ found, (query.resolve dumps).result = .ok found → ∃ parts : List (List Match), found = parts.flatten ∧
    List.Forall₂ (fun dump part => List.Forall₂ query.Answers (dump.kernels.filter query.refersTo) part ∧
      part.Pairwise fun left right => ∀ hit ∈ left.hits, hit ∉ right.hits) dumps parts

theorem refersTo_iff (query : Query) (kernel : Kernel) :
    query.refersTo kernel = true ↔ (kernel.table.findBaseName? query.name).isSome = true := by
  simp [refersTo, SourceTable.findBaseName?, OrderedMap.values, List.find?_isSome]

section
variable {query : Query} {kernel : Kernel}

theorem contains_of_alone {found : Match} (made : query.alone kernel = .ok (some found)) :
    ∀ hit ∈ found.hits, kernel.contains hit = true := by
  rcases (query.alone_eq_ok_iff kernel _).mp made with ⟨-, none⟩ | ⟨fileId, path, -, ⟨-, index, -, same⟩ | ⟨-, same⟩⟩
  · cases none
  · cases same
    intro hit member
    exact (List.mem_filter.mp member).2
  · cases same
    simp

theorem isSome_of_alone {found : Option Match} (made : query.alone kernel = .ok found) :
    found.isSome = query.refersTo kernel := by
  rw [Bool.eq_iff_iff, refersTo_iff]
  rcases (query.alone_eq_ok_iff kernel _).mp made with ⟨missing, none⟩ | ⟨fileId, path, named, rest⟩
  · simp [missing, none]
  · rcases rest with ⟨-, index, -, same⟩ | ⟨-, same⟩
    · simp [named, same]
    · simp [named, same]

-- The index of a match gives a line back only for the path of its own file: that path is normalised, and its
-- number is the only one that the index was built for.
theorem mem_hits_iff (valid : kernel.table.WellFormed) {fileId : Int} {path : String} {index : LineIndex}
    (numbered : kernel.table.get? fileId = some path) (built : freshIndex kernel fileId = .ok index)
    (asked : 0 < query.line) (position : Nat) :
    position ∈ (query.matchWith kernel fileId path index).hits ↔
      kernel.contains position = true ∧ Listing.instructionAt kernel.listing.lines position = true ∧
        ∃ loc, Listing.Governs kernel.listing.lines loc position ∧ loc.fileNumber = fileId ∧
          (loc.lineNumber : Int) = query.line := by
  obtain ⟨normal, filled⟩ := valid.normalize_of_get? numbered
  simp only [matchWith, List.mem_filter, LineIndex.mem_forward_iff built, LineIndex.reverse?_eq_some_iff built, normal]
  constructor
  · rintro ⟨⟨instruction, number, line, -, loc, governs, numeral, same, -⟩, inside⟩
    exact ⟨inside, instruction, loc, governs, by simpa using same, by omega⟩
  · rintro ⟨inside, instruction, loc, governs, same, line⟩
    obtain ⟨text, there, -⟩ := (Listing.instructionAt_iff _ _).mp instruction
    have bound := (List.getElem?_eq_some_iff.mp there).1
    have declared : kernel.table.get? loc.fileNumber = some path := same ▸ numbered
    exact ⟨⟨instruction, loc.lineNumber - 1, by omega, bound, loc, governs, by omega, by simpa using same, declared,
      filled⟩, inside⟩

theorem answers_of_alone (valid : kernel.table.WellFormed) {found : Match}
    (made : query.alone kernel = .ok (some found)) : query.Answers kernel found := by
  rcases (query.alone_eq_ok_iff kernel _).mp made with ⟨-, none⟩ | ⟨fileId, path, named, rest⟩
  · cases none
  · obtain ⟨numbered, base, before, after, split, earlier⟩ := valid.findBaseName? named
    rcases rest with ⟨asked, index, built, same⟩ | ⟨unasked, same⟩
    · cases same
      exact ⟨rfl, ⟨before, after, split, base, earlier⟩, numbered, fun none => by omega,
        (LineIndex.pairwise_forward built path (query.line - 1)).filter _,
        fun _ position => mem_hits_iff valid numbered built asked position⟩
    · cases same
      exact ⟨rfl, ⟨before, after, split, base, earlier⟩, numbered, fun _ => rfl, List.Pairwise.nil,
        fun asked => by omega⟩

end

def match? (query : Query) (kernel : Kernel) : Option Match := (query.alone kernel).toOption.join

theorem alone_of_match? {query : Query} {kernel : Kernel} {found : Match} (made : query.match? kernel = some found) :
    query.alone kernel = .ok (some found) := by
  unfold match? at made
  cases alone : query.alone kernel with
  | error refused => simp [alone, Except.toOption] at made
  | ok result =>
    simp only [alone, Except.toOption, Option.join_some] at made
    rw [made]

theorem filterMap_of_mapM {query : Query} {kernels : List Kernel} {found : List (Option Match)}
    (made : kernels.mapM query.alone = .ok found) : found.filterMap id = kernels.filterMap query.match? := by
  have each := (mapM_eq_ok_iff _ _ _).mp made
  clear made
  induction each with
  | nil => rfl
  | cons first rest ih =>
    have same : query.match? _ = _ := congrArg (fun result => result.toOption.join) first
    simp only [List.filterMap_cons, ih, same]
    rfl

theorem forall₂_match? {query : Query} {kernels : List Kernel} (valid : ∀ kernel ∈ kernels, kernel.table.WellFormed)
    (made : ∀ kernel ∈ kernels, ∃ found, query.alone kernel = .ok found) :
    List.Forall₂ query.Answers (kernels.filter query.refersTo) (kernels.filterMap query.match?) := by
  induction kernels with
  | nil => exact .nil
  | cons kernel rest ih =>
    have later := ih (fun other member => valid other (List.mem_cons_of_mem kernel member))
      fun other member => made other (List.mem_cons_of_mem kernel member)
    obtain ⟨found, first⟩ := made kernel List.mem_cons_self
    have same : query.match? kernel = found := congrArg (fun result => result.toOption.join) first
    have refers := isSome_of_alone first
    cases found with
    | none => simpa [List.filter_cons, ← refers, List.filterMap_cons, same] using later
    | some record =>
      simp only [List.filter_cons, ← refers, Option.isSome_some, if_true, List.filterMap_cons, same]
      exact .cons (answers_of_alone (valid kernel List.mem_cons_self) first) later

/-- The hits of different kernels of one listing have nothing in common. -/
theorem pairwise_match? (query : Query) {kernels : List Kernel}
    (apart : kernels.Pairwise fun left right => left.stop ≤ right.start) :
    (kernels.filterMap query.match?).Pairwise fun left right => ∀ hit ∈ left.hits, hit ∉ right.hits := by
  refine apart.filterMap _ ?_
  -- A hit lies within its kernel, and the spans of the two kernels are apart.
  intro left right before first kept second keptToo hit inFirst inSecond
  have inLeft := contains_of_alone (alone_of_match? kept) hit inFirst
  have inRight := contains_of_alone (alone_of_match? keptToo) hit inSecond
  simp only [Kernel.contains, Bool.and_eq_true, decide_eq_true_eq] at inLeft inRight
  omega

theorem mem_placedKernels_iff (dumps : List Dump) (place : Nat) (kernel : Kernel) :
    (place, kernel) ∈ placedKernels dumps ↔ ∃ dump, dumps[place]? = some dump ∧ kernel ∈ dump.kernels := by
  simp only [placedKernels, List.mem_flatMap, List.mem_map]
  constructor
  · rintro ⟨⟨dump, other⟩, there, kernel, member, same⟩
    cases same
    exact ⟨dump, List.mem_zipIdx_iff_getElem?.mp there, member⟩
  · rintro ⟨dump, there, member⟩
    exact ⟨(dump, place), List.mem_zipIdx_iff_getElem?.mpr there, kernel, member, rfl⟩

theorem map_snd_placedKernels (dumps : List Dump) : (placedKernels dumps).map Prod.snd = kernelsOf dumps := by
  have kernels : ∀ entries : List (Dump × Nat),
      (entries.flatMap fun entry => entry.1.kernels.map fun kernel => (entry.2, kernel)).map Prod.snd =
        (entries.map Prod.fst).flatMap Dump.kernels := by
    intro entries
    induction entries with
    | nil => rfl
    | cons entry rest ih => simp [List.flatMap_cons, ih, Function.comp_def]
  rw [placedKernels, kernels, List.zipIdx_map_fst, kernelsOf]

section
variable {listings : List Listing} {dumps : List Dump} (read : (listings.mapM Dump.ofListing).result = .ok dumps)
include read

theorem onePlace_placedKernels : OnePlace (placedKernels dumps) := by
  rintro ⟨place, first⟩ left ⟨other, second⟩ right same
  cases same
  obtain ⟨dump, there, inFirst⟩ := (mem_placedKernels_iff dumps place first).mp left
  obtain ⟨dump', there', inSecond⟩ := (mem_placedKernels_iff dumps place second).mp right
  cases Option.some.inj (there.symm.trans there')
  obtain ⟨listing, -, made⟩ := Recorded.exists_of_mem_result_mapM read (List.mem_of_getElem? there)
  obtain ⟨firstListing, firstTable⟩ := Dump.kernel_of_ofListing made inFirst
  obtain ⟨secondListing, secondTable⟩ := Dump.kernel_of_ofListing made inSecond
  exact ⟨firstListing.trans secondListing.symm, firstTable.trans secondTable.symm⟩

theorem wellFormed_of_mem_kernels {dump : Dump} (member : dump ∈ dumps) {kernel : Kernel} (inside : kernel ∈ dump.kernels) :
    kernel.table.WellFormed := by
  obtain ⟨listing, -, made⟩ := Recorded.exists_of_mem_result_mapM read member
  rw [(Dump.kernel_of_ofListing made inside).2]
  exact SourceTable.wellFormed_of_ofLines (Dump.table_of_ofListing made)

/-- Any selection of the kernels has the matches that its kernels have on their own. -/
theorem result_resolveFrom_empty (query : Query) {placed : List (Nat × Kernel)} (within : placed ⊆ placedKernels dumps) :
    (query.resolveFrom .empty placed).result = (placed.mapM fun entry => query.alone entry.2).map (·.filterMap id) :=
  result_resolveFrom (onePlace_placedKernels read) within query

theorem result_resolve (query : Query) :
    (query.resolve dumps).result = ((kernelsOf dumps).mapM query.alone).map (·.filterMap id) := by
  rw [resolve, Recorded.note, Recorded.result_record_bind, result_resolveFrom_empty read query (List.Subset.refl _),
    ← map_snd_placedKernels, List.mapM_map]
  rfl

theorem resolve_eq_ok {query : Query} {found : List Match} (resolved : (query.resolve dumps).result = .ok found) :
    found = (kernelsOf dumps).filterMap query.match? ∧ ∀ kernel ∈ kernelsOf dumps, ∃ single, query.alone kernel = .ok single := by
  rw [result_resolve read] at resolved
  cases made : (kernelsOf dumps).mapM query.alone with
  | error refused => simp [made, Except.map] at resolved
  | ok records =>
    simp only [made, Except.map, Except.ok.injEq] at resolved
    exact ⟨resolved ▸ filterMap_of_mapM made, fun kernel member => exists_ok_of_mem made member⟩

/-- With or without the indexes that are kept, in any company, each kernel that refers to the queried file
has one match, in order, and no instruction is hit in two kernels of one listing. -/
theorem resolve_exact (query : Query) : query.Exact dumps := by
  refine ⟨result_resolve read query, fun placed within => result_resolveFrom_empty read query within, ?_⟩
  intro found resolved
  obtain ⟨same, made⟩ := resolve_eq_ok read resolved
  refine ⟨dumps.map fun dump => dump.kernels.filterMap query.match?, ?_, ?_⟩
  · rw [same, kernelsOf, List.filterMap_flatMap, List.flatMap_def]
  · rw [List.forall₂_map_right_iff, List.forall₂_same]
    intro dump member
    obtain ⟨listing, -, parsed⟩ := Recorded.exists_of_mem_result_mapM read member
    refine ⟨forall₂_match? (fun kernel => wellFormed_of_mem_kernels read member) fun kernel inside => ?_,
      pairwise_match? query (Dump.pairwise_kernels parsed)⟩
    exact made kernel (List.mem_flatMap.mpr ⟨dump, member, inside⟩)

end

/-- Two kernels of one listing, which declares two files of one name; the second kernel starts under the
location of the first. -/
def twoKernels : Listing where
  path := "w/build/k-hip-amdgcn-amd-amdhsa-gfx90a.s"
  buildTag := "build"
  modified := .finite false 2
  lines := [".file 1 \"/p\" \"a.hip\"", ".file 2 \"/q/a.hip\"", ".section .text.first", ".globl kernel_one",
    ".loc 1 7 0", "s_nop 0", ".section .text.second", ".globl kernel_two", "s_nop 1", ".loc 2 7 0", "s_nop 2",
    ".loc 1 7 0", "s_endpgm"]

def olderBuild : Listing where
  path := "w/old/k-hip-amdgcn-amd-amdhsa-gfx90a.s"
  buildTag := "old"
  modified := .finite false 1
  lines := [".file 4 \"/p/b.h\"", ".file 3 \"/r\" \"./a.hip\"", ".globl kernel_one", ".loc 3 7 0", "s_nop 0"]

def twoBuilds : List Dump :=
  let table : SourceTable := ⟨[(1, "/p/a.hip"), (2, "/q/a.hip")]⟩
  let olderTable : SourceTable := ⟨[(4, "/p/b.h"), (3, "/r/a.hip")]⟩
  [⟨twoKernels, table, [⟨"kernel_one", 2, 6, twoKernels, table⟩, ⟨"kernel_two", 6, 13, twoKernels, table⟩]⟩,
    ⟨olderBuild, olderTable, [⟨"kernel_one", 2, 5, olderBuild, olderTable⟩]⟩]

theorem read_twoBuilds : ([twoKernels, olderBuild].mapM Dump.ofListing).result = .ok twoBuilds := by decide +kernel

def twoBuildsFound : List Match :=
  (kernelsOf twoBuilds).zipWith (fun kernel found => ⟨kernel, found.1, found.2.1, found.2.2⟩)
    [("/p/a.hip", 1, [5]), ("/p/a.hip", 1, [8, 12]), ("/r/a.hip", 3, [4])]

theorem resolve_twoBuilds : (resolve ⟨"x/a.hip", 7⟩ twoBuilds).result = .ok twoBuildsFound := by decide +kernel

theorem resolve_exact_twoBuilds :
    ([twoKernels, olderBuild].mapM Dump.ofListing).result = .ok twoBuilds ∧ Exact ⟨"x/a.hip", 7⟩ twoBuilds ∧
      (resolve ⟨"x/a.hip", 7⟩ twoBuilds).result = .ok twoBuildsFound :=
  ⟨read_twoBuilds, resolve_exact read_twoBuilds ⟨"x/a.hip", 7⟩, resolve_twoBuilds⟩

end Query

end KernelAtlas
