import KernelAtlas.Proofs.FileIsolation
import KernelAtlas.Proofs.LatestBuild
import KernelAtlas.Proofs.PathLookup

/-! When a match is outdated.

Of the versions of a kernel one is the latest: the first that was found among those modified last. A match is outdated
if that version is in another file. Versions in one file have one time of modification, so a newer version is always
in another file; of equally recent files only the one that was found first is not outdated. -/

set_option autoImplicit false

namespace KernelAtlas

namespace FileTree

def fileWith (tree : FileTree) (jump : Directory → String → List String → Option Place) (here : Directory) :
    List String → Option Place
  | [] => none
  | name :: rest =>
    if name = "" ∨ name = "." then tree.fileWith jump here rest
    else if name = ".." then tree.fileWith jump (tree.parent here) rest
    else
      match here.node? name with
      | none => none
      | some (.file _ _) => if rest = [] then some (name :: here.place) else none
      | some (.directory entries) => tree.fileWith jump ⟨name :: here.place, entries⟩ rest
      | some (.link target) => jump here target rest

def fileFrom (tree : FileTree) : Nat → Directory → List String → Option Place
  | 0 => tree.fileWith fun _ _ _ => none
  | links + 1 => tree.fileWith fun here target rest => tree.fileFrom links (tree.start here target) (names target ++ rest)

def fileAt? (tree : FileTree) (path : String) : Option Place := do
  let here ← tree.directory? (tree.base path)
  tree.fileFrom linkLimit here (names path)

section
variable {tree : FileTree} {bytes : List UInt8} {modified : Timestamp}

def IsFileAt (tree : FileTree) (bytes : List UInt8) (modified : Timestamp) (place : Option Place) : Prop :=
  ∃ there, place = some there ∧ tree.node? there = some (.file bytes modified)

-- The induction follows the names; `agree` says what is known of the links.
theorem isFileAt_fileWith {follows : Directory → String → List String → Except Failure Target}
    {leads : Directory → String → List String → Option Place}
    (agree : ∀ holder target rest, tree.Holding holder → follows holder target rest = .ok (.file bytes modified) →
      tree.IsFileAt bytes modified (leads holder target rest))
    {here : Directory} (held : tree.Holding here) {path : List String}
    (read : tree.followWith follows here path = .ok (.file bytes modified)) :
    tree.IsFileAt bytes modified (tree.fileWith leads here path) := by
  induction path generalizing here with
  | nil => cases read
  | cons name rest ih =>
    rw [followWith] at read
    rw [fileWith]
    by_cases stays : name = "" ∨ name = "."
    · rw [if_pos stays] at read ⊢
      exact ih held read
    by_cases climbs : name = ".."
    · rw [if_neg stays, if_pos climbs] at read ⊢
      exact ih (.parent here) read
    by_cases long : nameLimit < name.utf8ByteSize
    · rw [if_neg stays, if_neg climbs, if_pos long] at read
      cases read
    rw [if_neg stays, if_neg climbs, if_neg long] at read
    rw [if_neg stays, if_neg climbs]
    cases found : here.node? name with
    | none =>
      rw [found] at read
      cases read
    | some node =>
      rw [found] at read
      cases node with
      | file content time =>
        by_cases last : rest = []
        · simp only [last, if_true, Except.ok.injEq, Target.file.injEq] at read
          exact ⟨name :: here.place, by simp [last], by rw [node?_cons held, found, read.1, read.2]⟩
        · simp [last] at read
      | directory entries => exact ih (held.child found) read
      | link target => exact agree here target rest held read

theorem isFileAt_fileFrom {links : Nat} {here : Directory} (held : tree.Holding here) {path : List String}
    (read : tree.follow links here path = .ok (.file bytes modified)) :
    tree.IsFileAt bytes modified (tree.fileFrom links here path) := by
  induction links generalizing here path with
  | zero => exact isFileAt_fileWith (fun _ _ _ _ refused => by cases refused) held read
  | succ links ih =>
    refine isFileAt_fileWith (fun holder target rest holds jumped => ?_) held read
    split at jumped
    · cases jumped
    · exact ih (holds.start target) jumped

theorem isFileAt_of_read {path : String} {time : Binary64} (read : tree.read path = .ok (bytes, time)) :
    ∃ modified : Timestamp, modified.seconds = time ∧ tree.IsFileAt bytes modified (tree.fileAt? path) := by
  unfold FileTree.read at read
  split at read
  · cases read
  · rename_i content modified resolved
    cases read
    obtain ⟨-, -, -, reached⟩ := resolve_eq_ok_iff.mp resolved
    obtain ⟨here, start, followed⟩ := followFrom_eq_ok_iff.mp reached
    have held : tree.Holding here := by rw [Holding, (directory?_eq_some_iff.mp start).1, start]
    refine ⟨modified, rfl, ?_⟩
    rw [fileAt?, start]
    exact isFileAt_fileFrom held followed
  · cases read

end

end FileTree

namespace Match

def file? (tree : FileTree) (found : Match) : Option Place := tree.fileAt? found.kernel.listing.path

/-- The versions of a match that are in its own file are those with its normalised path. -/
def ToldApart (tree : FileTree) (found : List Match) (item : Match) : Prop :=
  ∀ other ∈ found, other.symbol = item.symbol →
    (Path.normalize item.kernel.listing.path = Path.normalize other.kernel.listing.path ↔
      other.file? tree = item.file? tree)

end Match

namespace Query

section
variable {query : Query} {tree : FileTree} {config : Config} {workspace : String} {found : List Match}
  (resolved : (query.inWorkspace tree config workspace).result = .ok found)
include resolved

theorem stored_of_mem_inWorkspace {item : Match} (member : item ∈ found) : Discovery.Stored tree item.kernel.listing := by
  obtain ⟨dumps, discovered, matched⟩ := (Recorded.result_bind_eq_ok_iff _ _ _).mp resolved
  obtain ⟨listings, scanned, parsed⟩ := (Discovery.dumps_eq_ok_iff tree config workspace dumps).mp discovered
  obtain ⟨among, -, -⟩ := alone_of_mem_resolve parsed matched member
  obtain ⟨dump, inDumps, inside⟩ := List.mem_flatMap.mp among
  obtain ⟨listing, there, made⟩ := Recorded.exists_of_mem_result_mapM parsed inDumps
  rw [(Dump.kernel_of_ofListing made inside).1, Dump.listing_of_ofListing made]
  exact Discovery.stored_of_scan scanned listing there

/-- Matches in one file have one time of modification. -/
theorem time_eq_of_file? {left right : Match} (inLeft : left ∈ found) (inRight : right ∈ found)
    (same : left.file? tree = right.file? tree) : left.time = right.time := by
  obtain ⟨bytes, read, -⟩ := stored_of_mem_inWorkspace resolved inLeft
  obtain ⟨others, readToo, -⟩ := stored_of_mem_inWorkspace resolved inRight
  obtain ⟨modified, seconds, place, there, node⟩ := FileTree.isFileAt_of_read read
  obtain ⟨modifiedToo, secondsToo, placeToo, thereToo, nodeToo⟩ := FileTree.isFileAt_of_read readToo
  have places : place = placeToo := Option.some.inj (there.symm.trans (same.trans thereToo))
  rw [places, nodeToo] at node
  cases node
  rw [Match.time, Match.time, Match.modified, Match.modified, ← seconds, ← secondsToo]

end

end Query

namespace Placed

theorem pairwise_place_list (found : List Match) : (list found).Pairwise fun left right => left.place < right.place := by
  rw [list, List.pairwise_map]
  exact pairwise_snd_zipIdx found

/-- Of the versions of a match, the first that was found among those modified last. -/
structure IsLatest (found : List Match) (selected latest : Placed) : Prop where
  version : latest ∈ selected.versions (list found)
  upper : ∀ other ∈ selected.versions (list found), other.time ≤ latest.time
  first : ∀ other ∈ selected.versions (list found), other.time = latest.time → latest.place ≤ other.place

theorem isLatest_of_head? {found : List Match} {selected latest : Placed}
    (head : (ordered (selected.versions (list found))).head? = some latest) : IsLatest found selected latest := by
  have perm := latestFirst_perm time (selected.versions (list found))
  obtain ⟨rest, order⟩ := List.head?_eq_some_iff.mp head
  have sorted := latestFirst_sorted time (selected.versions (list found))
  rw [← ordered, order] at perm sorted
  refine ⟨perm.mem_iff.mp List.mem_cons_self, ?_, ?_⟩
  · intro other member
    exact time_le_of_head sorted other (perm.mem_iff.mpr member)
  · intro other member same
    -- The versions of the latest time stand in the order in which they were found.
    have kept := filter_time_latestFirst time (selected.versions (list found)) latest.time
    rw [← ordered, order, List.filter_cons_of_pos (by simp)] at kept
    have places : ((selected.versions (list found)).filter fun item => item.time = latest.time).Pairwise
        fun left right => left.place < right.place := ((pairwise_place_list found).filter _).filter _
    have present : other ∈ (selected.versions (list found)).filter fun item => item.time = latest.time :=
      List.mem_filter.mpr ⟨member, by simpa using same⟩
    rw [← kept] at places present
    rcases List.mem_cons.mp present with rfl | later
    · exact Nat.le_refl _
    · exact Nat.le_of_lt ((List.pairwise_cons.mp places).1 other later)

theorem mem_versions_list_iff {found : List Match} {selected other : Placed} :
    other ∈ selected.versions (list found) ↔
      found[other.place]? = some other.found ∧ other.found.symbol = selected.found.symbol := by
  rw [versions, List.mem_filter, mem_list_iff, decide_eq_true_eq]

section
variable {query : Query} {tree : FileTree} {config : Config} {workspace : String} {found : List Match}
  (resolved : (query.inWorkspace tree config workspace).result = .ok found) {selected latest : Placed}
  (member : selected ∈ list found) (isLatest : IsLatest found selected latest)
include resolved member isLatest

theorem IsLatest.time_eq_of_file? (same : latest.found.file? tree = selected.found.file? tree) :
    latest.found.time = selected.found.time := by
  have latestThere := (mem_versions_list_iff.mp isLatest.version).1
  have selectedThere := (mem_list_iff found selected).mp member
  exact Query.time_eq_of_file? resolved (List.mem_of_getElem? latestThere) (List.mem_of_getElem? selectedThere) same

theorem IsLatest.file?_ne_of_newer {newer : Match} (among : newer ∈ found)
    (symbol : newer.symbol = selected.found.symbol) (later : selected.found.time < newer.time) :
    latest.found.file? tree ≠ selected.found.file? tree := by
  intro same
  obtain ⟨newerPlace, there⟩ := List.mem_iff_getElem?.mp among
  have bound : newer.time ≤ latest.found.time :=
    isLatest.upper ⟨newerPlace, newer⟩ (mem_versions_list_iff.mpr ⟨there, symbol⟩)
  rw [isLatest.time_eq_of_file? resolved member same] at bound
  exact absurd later (Rat.not_lt.mpr bound)

theorem IsLatest.file?_ne_of_found_earlier {rivalPlace : Nat} {rival : Match} (there : found[rivalPlace]? = some rival)
    (symbol : rival.symbol = selected.found.symbol) (tie : rival.time = selected.found.time)
    (before : ∀ (ownPlace : Nat) (own : Match), found[ownPlace]? = some own → own.symbol = selected.found.symbol →
      own.file? tree = selected.found.file? tree → rivalPlace < ownPlace) :
    latest.found.file? tree ≠ selected.found.file? tree := by
  intro same
  obtain ⟨latestThere, latestSymbol⟩ := mem_versions_list_iff.mp isLatest.version
  have times := isLatest.time_eq_of_file? resolved member same
  have bound : latest.place ≤ rivalPlace :=
    isLatest.first ⟨rivalPlace, rival⟩ (mem_versions_list_iff.mpr ⟨there, symbol⟩) (tie.trans times.symm)
  have strict := before latest.place latest.found latestThere latestSymbol same
  omega

theorem IsLatest.newer_or_found_earlier (apart : latest.found.file? tree ≠ selected.found.file? tree) :
    selected.found.time < latest.found.time ∨ latest.found.time = selected.found.time ∧
      ∀ (ownPlace : Nat) (own : Match), found[ownPlace]? = some own → own.symbol = selected.found.symbol →
        own.file? tree = selected.found.file? tree → latest.place < ownPlace := by
  by_cases newer : selected.found.time < latest.found.time
  · exact Or.inl newer
  have tie : latest.found.time = selected.found.time :=
    Rat.le_antisymm (Rat.not_lt.mp newer) (isLatest.upper selected (mem_versions_self member))
  refine Or.inr ⟨tie, fun ownPlace own ownThere ownSymbol ownFile => ?_⟩
  -- What is in the file of the match has its time, so the latest version was found no later.
  have selectedThere := List.mem_of_getElem? ((mem_list_iff found selected).mp member)
  have times : own.time = selected.found.time :=
    Query.time_eq_of_file? resolved (List.mem_of_getElem? ownThere) selectedThere ownFile
  have bound : latest.place ≤ ownPlace :=
    isLatest.first ⟨ownPlace, own⟩ (mem_versions_list_iff.mpr ⟨ownThere, ownSymbol⟩) (times.trans tie.symm)
  refine Nat.lt_of_le_of_ne bound fun same => ?_
  rw [← same, (mem_versions_list_iff.mp isLatest.version).1] at ownThere
  cases ownThere
  exact apart ownFile

end

end Placed

namespace Staleness

/-- A match is outdated if and only if a version of it was modified later, or an equally recent one was found before all
that are in the file of the match. -/
theorem outdated_iff_newer_or_found_earlier {query : Query} {tree : FileTree} {config : Config} {workspace : String}
    {found : List Match} (resolved : (query.inWorkspace tree config workspace).result = .ok found) {place : Nat}
    {item : Match} (there : found[place]? = some item) (told : item.ToldApart tree found) :
    (check ⟨place, item⟩ (Placed.list found)).outdated = true ↔
      (∃ newer ∈ found, newer.symbol = item.symbol ∧ item.time < newer.time) ∨
        ∃ (rivalPlace : Nat) (rival : Match), found[rivalPlace]? = some rival ∧ rival.symbol = item.symbol ∧
          rival.time = item.time ∧ ∀ (ownPlace : Nat) (own : Match), found[ownPlace]? = some own →
            own.symbol = item.symbol → own.file? tree = item.file? tree → rivalPlace < ownPlace := by
  have member : ⟨place, item⟩ ∈ Placed.list found := (Placed.mem_list_iff found _).mpr there
  obtain ⟨latest, head, checked⟩ := check_of_mem member
  have isLatest := Placed.isLatest_of_head? head
  obtain ⟨latestThere, latestSymbol⟩ := Placed.mem_versions_list_iff.mp isLatest.version
  have among := List.mem_of_getElem? latestThere
  have outdated : (check ⟨place, item⟩ (Placed.list found)).outdated = true ↔
      latest.found.file? tree ≠ item.file? tree := by
    rw [checked, ne_eq, ← told latest.found among latestSymbol]
    simp [Placed.sameFile]
  rw [outdated]
  constructor
  · intro apart
    rcases isLatest.newer_or_found_earlier resolved member apart with newer | ⟨tie, before⟩
    · exact Or.inl ⟨latest.found, among, latestSymbol, newer⟩
    · exact Or.inr ⟨latest.place, latest.found, latestThere, latestSymbol, tie, before⟩
  · intro cause
    rcases cause with ⟨newer, amongToo, symbol, later⟩ | ⟨rivalPlace, rival, rivalThere, symbol, tie, before⟩
    · exact (isLatest.file?_ne_of_newer resolved member amongToo symbol later :)
    · exact (isLatest.file?_ne_of_found_earlier resolved member rivalThere symbol tie before :)

def oneKernel (path buildTag : String) (modified : Rat) : Listing :=
  ⟨path, buildTag, .finite false modified, [".file 1 \"a.hip\"", ".globl kernel_one"]⟩

def oneKernelBytes : List UInt8 := ".file 1 \"a.hip\"\n.globl kernel_one".toList.map fun c => c.toNat.toUInt8

theorem linesOfBytes_oneKernelBytes :
    Listing.linesOfBytes oneKernelBytes = [".file 1 \"a.hip\"", ".globl kernel_one"] := by decide +kernel

def original : Listing := oneKernel "w/build/k-hip-amdgcn-amd-amdhsa-gfx90a.s" "build" 2

def copy : Listing := oneKernel "w/copy/k-hip-amdgcn-amd-amdhsa-gfx90a.s" "copy" 2

def older : Listing := oneKernel "w/old/k-hip-amdgcn-amd-amdhsa-gfx90a.s" "old" 1

/-- A workspace with an older build, a newer one, and a copy of the newer one that kept its time of modification. -/
def copied : FileTree :=
  let build (modified : Timestamp) : FileTree.Node :=
    .directory [("k-hip-amdgcn-amd-amdhsa-gfx90a.s", .file oneKernelBytes modified)]
  ⟨[("w", .directory [("build", build ⟨2000000000⟩), ("copy", build ⟨2000000000⟩), ("old", build ⟨1000000000⟩)])], []⟩

def threeConfigured : Config :=
  { Config.default with buildDirectories := [Text.codePoints "old", Text.codePoints "build", Text.codePoints "copy"] }

def matchOf (listing : Listing) : Match :=
  ⟨⟨"kernel_one", 1, 2, listing, ⟨[(1, "a.hip")]⟩⟩, "a.hip", 1, []⟩

def copiedFound : List Match := [matchOf older, matchOf original, matchOf copy]

theorem scan_copied : (Discovery.scan copied threeConfigured "w").result = .ok [older, original, copy] := by
  refine Recorded.result_bind_of_ok
    ((Recorded.result_mapM_eq_ok_iff _ _ [[older], [original], [copy]]).mpr ?_) rfl
  have assembly : threeConfigured.isAssemblyFile "k-hip-amdgcn-amd-amdhsa-gfx90a.s" = true := by decide +kernel
  refine .cons ?_ (.cons ?_ (.cons ?_ .nil))
  · have present : Discovery.presentBuild? copied "w" (Text.codePoints "old") = some "old" := by decide +kernel
    rw [Discovery.result_scanBuild_single present rfl (by decide +kernel) assembly (by decide +kernel),
      linesOfBytes_oneKernelBytes]
    decide +kernel
  · have present : Discovery.presentBuild? copied "w" (Text.codePoints "build") = some "build" := by decide +kernel
    rw [Discovery.result_scanBuild_single present rfl (by decide +kernel) assembly (by decide +kernel),
      linesOfBytes_oneKernelBytes]
    decide +kernel
  · have present : Discovery.presentBuild? copied "w" (Text.codePoints "copy") = some "copy" := by decide +kernel
    rw [Discovery.result_scanBuild_single present rfl (by decide +kernel) assembly (by decide +kernel),
      linesOfBytes_oneKernelBytes]
    decide +kernel

theorem resolve_copied : (Query.inWorkspace ⟨"x/a.hip", 0⟩ copied threeConfigured "w").result = .ok copiedFound := by
  apply (Query.inWorkspace_eq_ok_iff scan_copied ⟨"x/a.hip", 0⟩ copiedFound).mpr
  refine ⟨[[matchOf older], [matchOf original], [matchOf copy]], ?_, rfl⟩
  decide +kernel

/-- The copy is outdated because the build itself was found before it. -/
theorem outdated_iff_newer_or_found_earlier_copied :
    (Query.inWorkspace ⟨"x/a.hip", 0⟩ copied threeConfigured "w").result = .ok copiedFound ∧
      copiedFound[2]? = some (matchOf copy) ∧ (matchOf copy).ToldApart copied copiedFound ∧
      ∃ (rivalPlace : Nat) (rival : Match), copiedFound[rivalPlace]? = some rival ∧ rival.symbol = "kernel_one" ∧
        rival.time = (matchOf copy).time ∧ ∀ (ownPlace : Nat) (own : Match), copiedFound[ownPlace]? = some own →
          own.symbol = "kernel_one" → own.file? copied = (matchOf copy).file? copied → rivalPlace < ownPlace := by
  have told : (matchOf copy).ToldApart copied copiedFound := by
    unfold Match.ToldApart
    decide +kernel
  refine ⟨resolve_copied, rfl, told, ?_⟩
  have outdated : (check ⟨2, matchOf copy⟩ (Placed.list copiedFound)).outdated = true := by decide +kernel
  rcases (outdated_iff_newer_or_found_earlier resolve_copied rfl told).mp outdated with newer | tie
  · exact absurd newer (by decide +kernel)
  · exact tie

/-- Though no version of the kernel is newer than the copy, the copy is outdated. -/
theorem copy_outdated_without_newer :
    (Query.inWorkspace ⟨"x/a.hip", 0⟩ copied threeConfigured "w").result = .ok copiedFound ∧
      copiedFound[2]? = some (matchOf copy) ∧ (check ⟨2, matchOf copy⟩ (Placed.list copiedFound)).outdated = true ∧
      ¬∃ newer ∈ copiedFound, newer.symbol = (matchOf copy).symbol ∧ (matchOf copy).time < newer.time :=
  ⟨resolve_copied, rfl, by decide +kernel, by decide +kernel⟩

end Staleness

end KernelAtlas
