import KernelAtlas.Proofs.Provenance
import KernelAtlas.Proofs.WalkCoverage

/-! The files that a walk comes upon.

Every directory is entered by one path, and a path tells the directory and the name of the file that it is made for,
so each assembly file is read or reported once, and what is reported of directories does not mix with it. -/

set_option autoImplicit false

namespace KernelAtlas

theorem Text.codePoints_inj {left right : String} : Text.codePoints left = Text.codePoints right ↔ left = right := by
  constructor
  · intro same
    have equal := congrArg Text.ofPoints? same
    simpa using equal
  · rintro rfl
    rfl

namespace FileTree

section
variable {tree : FileTree} {remaining : List Place} {pending : List String} {root path name : String}
  {directory : Directory} {failure : Failure}

theorem mem_plainEntries_iff : name ∈ tree.plainEntries path directory ↔
    ∃ entry ∈ directory.entries, tree.leadsToDirectory path entry = false ∧ entry.1 = name := by
  simp [plainEntries, mem_sortNames_iff, and_assoc]

theorem isName_of_mem_plainEntries (proper : directory.Proper) (plain : name ∈ tree.plainEntries path directory) :
    IsName name := by
  obtain ⟨entry, present, -, rfl⟩ := mem_plainEntries_iff.mp plain
  exact proper.named entry present

theorem isName_of_mem_subdirectories (proper : directory.Proper) (listed : name ∈ tree.subdirectories path directory) :
    IsName name := by
  obtain ⟨entry, present, -, rfl⟩ := mem_subdirectories_iff.mp listed
  exact proper.named entry present

theorem nodup_plainEntries (proper : directory.Proper) (path : String) : (tree.plainEntries path directory).Nodup := by
  refine (List.mergeSort_perm _ _).nodup_iff.mpr ?_
  exact proper.distinct.sublist (List.filter_sublist.map Prod.fst)

theorem notMem_subdirectories (proper : directory.Proper) (plain : name ∈ tree.plainEntries path directory) :
    name ∉ tree.subdirectories path directory := by
  intro listed
  obtain ⟨entry, present, leads, rfl⟩ := mem_subdirectories_iff.mp listed
  obtain ⟨other, presentToo, stays, same⟩ := mem_plainEntries_iff.mp plain
  rw [List.inj_on_of_nodup_map proper.distinct presentToo present same, leads] at stays
  cases stays

/-- A path that is refused was given, or is that of a subdirectory of a directory that was entered. -/
theorem origin_of_refused (member : .refused path failure ∈ tree.walkFrom remaining pending) :
    tree.directoryAt path = .error failure ∧ (path ∈ pending ∨ ∃ above directory,
      (above, directory) ∈ entered (tree.walkFrom remaining pending) ∧
        ∃ name ∈ tree.subdirectories above directory, path = Path.join above name) := by
  fun_induction walkFrom tree remaining pending with
  | case1 => cases member
  | case2 remaining first pending other failed ih =>
    rcases List.mem_cons.mp member with same | later
    · cases same
      exact ⟨failed, .inl List.mem_cons_self⟩
    · exact ⟨(ih later).1, (ih later).2.imp (List.mem_cons_of_mem first) id⟩
  | case3 remaining first pending holder found fresh ih =>
    rcases List.mem_cons.mp member with same | later
    · cases same
    obtain ⟨failed, waited | ⟨above, directory, among, name, listed, same⟩⟩ := ih later
    · refine ⟨failed, ?_⟩
      rcases List.mem_append.mp waited with inside | outside
      · obtain ⟨name, listed, same⟩ := List.mem_map.mp inside
        exact .inr ⟨first, holder, List.mem_cons_self, name, listed, same.symm⟩
      · exact .inl (List.mem_cons_of_mem first outside)
    · exact ⟨failed, .inr ⟨above, directory, List.mem_cons_of_mem _ among, name, listed, same⟩⟩
  | case4 remaining first pending holder found old ih =>
    rcases List.mem_cons.mp member with same | later
    · cases same
    · exact ⟨(ih later).1, (ih later).2.imp (List.mem_cons_of_mem first) id⟩

theorem directoryAt_root_of_entered (member : .entered path directory ∈ tree.walk root) :
    ∃ start, tree.directoryAt root = .ok start := by
  cases found : tree.directoryAt root with
  | ok start => exact ⟨start, rfl⟩
  | error failure =>
    rw [walk, walkFrom] at member
    simp [found, walkFrom] at member

theorem refused_notMem_walk (wellFormed : tree.WellFormed) (visited : .entered path directory ∈ tree.walk root)
    (plain : name ∈ tree.plainEntries path directory) : .refused (Path.join path name) failure ∉ tree.walk root := by
  intro refused
  have found := directoryAt_of_entered visited
  have proper := wellFormed.proper found
  obtain ⟨failed, given | ⟨above, holder, among, other, listed, same⟩⟩ := origin_of_refused refused
  · obtain ⟨start, opened⟩ := directoryAt_root_of_entered visited
    rw [List.mem_singleton.mp given, opened] at failed
    cases failed
  · have visitedToo := mem_entered_iff.mp among
    have foundToo := directoryAt_of_entered visitedToo
    obtain ⟨rfl, rfl⟩ := eq_of_join_eq found foundToo (isName_of_mem_plainEntries proper plain)
      (isName_of_mem_subdirectories (wellFormed.proper foundToo) listed) same
    obtain ⟨rfl, -⟩ := eq_of_entered visited visitedToo rfl
    exact notMem_subdirectories proper plain listed

end

end FileTree

namespace Discovery

open FileTree (dotted entered mem_entered_iff)

/-- An assembly file that a walk comes upon: the directory that holds it, its name there, and the path by which it
is read. -/
structure Encounter where
  place : Place
  name : String
  path : String

def Encounter.inside (encounter : Encounter) : Place × String := (encounter.place, encounter.name)

def encountersIn (tree : FileTree) (config : Config) (visit : String × FileTree.Directory) : List Encounter :=
  ((tree.plainEntries visit.1 visit.2).filter fun name => config.isAssemblyFile name).map fun name =>
    ⟨visit.2.place, name, Path.join visit.1 name⟩

def encounters (tree : FileTree) (config : Config) (visits : List FileTree.Visit) : List Encounter :=
  (entered visits).flatMap (encountersIn tree config)

section
variable {tree : FileTree} {config : Config} {root : String}

theorem mem_encounters_iff {visits : List FileTree.Visit} {encounter : Encounter} :
    encounter ∈ encounters tree config visits ↔ ∃ path directory, .entered path directory ∈ visits ∧
      encounter.name ∈ tree.plainEntries path directory ∧ config.isAssemblyFile encounter.name = true ∧
        encounter.place = directory.place ∧ encounter.path = Path.join path encounter.name := by
  obtain ⟨place, name, path⟩ := encounter
  simp only [encounters, List.mem_flatMap, Prod.exists, mem_entered_iff, encountersIn, List.mem_map, List.mem_filter,
    Encounter.mk.injEq]
  constructor
  · rintro ⟨above, directory, visited, other, ⟨plain, assembly⟩, rfl, rfl, rfl⟩
    exact ⟨above, directory, visited, plain, assembly, rfl, rfl⟩
  · rintro ⟨above, directory, visited, plain, assembly, rfl, rfl⟩
    exact ⟨above, directory, visited, name, ⟨plain, assembly⟩, rfl, rfl, rfl⟩

theorem nodup_inside_encounters (wellFormed : tree.WellFormed) (root : String) :
    ((encounters tree config (tree.walk root)).map Encounter.inside).Nodup := by
  rw [encounters, List.map_flatMap, List.nodup_flatMap]
  constructor
  · rintro ⟨path, directory⟩ member
    have found := FileTree.directoryAt_of_entered (mem_entered_iff.mp member)
    simp only [encountersIn, List.map_map]
    refine ((FileTree.nodup_plainEntries (wellFormed.proper found) path).filter _).map ?_
    intro left right same
    exact (Prod.mk.inj same).2
  · refine (List.pairwise_map.mp (FileTree.nodup_enteredPlaces tree tree.directories [root])).imp ?_
    intro left right apart inside first second
    obtain ⟨encounter, among, rfl⟩ := List.mem_map.mp first
    obtain ⟨other, amongToo, same⟩ := List.mem_map.mp second
    obtain ⟨name, -, rfl⟩ := List.mem_map.mp among
    obtain ⟨nameToo, -, rfl⟩ := List.mem_map.mp amongToo
    exact apart (Prod.mk.inj same).1.symm

theorem nodup_path_encounters (wellFormed : tree.WellFormed) (root : String) :
    ((encounters tree config (tree.walk root)).map Encounter.path).Nodup := by
  refine List.Nodup.map_on ?_ (nodup_inside_encounters wellFormed root).of_map
  intro left leftMet right rightMet same
  refine List.inj_on_of_nodup_map (nodup_inside_encounters wellFormed root) leftMet rightMet ?_
  obtain ⟨path, directory, visited, plain, -, place, joined⟩ := mem_encounters_iff.mp leftMet
  obtain ⟨other, holder, visitedToo, plainToo, -, placeToo, joinedToo⟩ := mem_encounters_iff.mp rightMet
  have found := FileTree.directoryAt_of_entered visited
  have foundToo := FileTree.directoryAt_of_entered visitedToo
  have named := FileTree.isName_of_mem_plainEntries (wellFormed.proper found) plain
  have namedToo := FileTree.isName_of_mem_plainEntries (wellFormed.proper foundToo) plainToo
  obtain ⟨rfl, equal⟩ := FileTree.eq_of_join_eq found foundToo named namedToo (joined.symm.trans (same.trans joinedToo))
  rw [Encounter.inside, Encounter.inside, place, placeToo, equal]

end

def unreadable (path : String) (diagnostic : Diagnostic) : Bool :=
  diagnostic.kind = .unreadableFile && diagnostic.path = some (Text.codePoints path)

def Finding.concerns (path : String) : Finding → Bool
  | listing found => found.path = path
  | entry (.diagnostic found) => unreadable path found
  | entry _ => false

theorem countP_eq_add {α : Type} {whole left right : α → Bool}
    (each : ∀ item, (whole item).toNat = (left item).toNat + (right item).toNat) (items : List α) :
    items.countP whole = items.countP left + items.countP right := by
  induction items with
  | nil => rfl
  | cons item rest ih =>
    have one (answer : Bool) : (if answer = true then 1 else 0) = answer.toNat := by cases answer <;> rfl
    rw [List.countP_cons, List.countP_cons, List.countP_cons, ih, one, one, one, each]
    omega

theorem countP_concerns (path : String) (found : List Finding) :
    found.countP (Finding.concerns path) =
      (found.filterMap Finding.listing?).countP (fun listing => listing.path = path) +
        (Journal.diagnostics (found.filterMap Finding.entry?)).countP (unreadable path) := by
  rw [Journal.diagnostics, List.filterMap_filterMap, List.countP_filterMap, List.countP_filterMap]
  apply countP_eq_add
  intro finding
  cases finding with
  | listing listing => rfl
  | entry entry => cases entry <;> simp [Finding.concerns, Finding.listing?, Finding.entry?, Journal.Entry.diagnostic?]

theorem concerns_fileFinding (tree : FileTree) (buildTag path other : String) :
    (fileFinding tree buildTag other).concerns path = decide (other = path) := by
  unfold fileFinding
  cases tree.read other with
  | error failure => simp [Finding.concerns, unreadable, Text.codePoints_inj]
  | ok contents => rfl

def refusedAt (path : String) : FileTree.Visit → Bool
  | .refused other _ => other = path
  | _ => false

/-- What a visit says of a path: the files at it, and the directory at it if it is refused. -/
theorem countP_visitFindings (tree : FileTree) (config : Config) (buildTag path : String) (visit : FileTree.Visit) :
    (visitFindings tree config buildTag visit).countP (Finding.concerns path) =
      (encounters tree config [visit]).countP (fun encounter => encounter.path = path) +
        [visit].countP (refusedAt path) := by
  cases visit with
  | entered above directory =>
    simp [visitFindings, encounters, encountersIn, refusedAt, List.countP_map, Function.comp_def, concerns_fileFinding]
  | repeated above => simp [visitFindings, encounters, refusedAt, Finding.concerns]
  | refused above failure =>
    simp [visitFindings, encounters, refusedAt, Finding.concerns, unreadable, Text.codePoints_inj]

theorem encounters_cons (tree : FileTree) (config : Config) (visit : FileTree.Visit) (visits : List FileTree.Visit) :
    encounters tree config (visit :: visits) = encounters tree config [visit] ++ encounters tree config visits := by
  cases visit <;> simp [encounters]

theorem countP_findings (tree : FileTree) (config : Config) (root buildTag path : String) :
    (findings tree config root buildTag).countP (Finding.concerns path) =
      (encounters tree config (tree.walk root)).countP (fun encounter => encounter.path = path) +
        (tree.walk root).countP (refusedAt path) := by
  unfold findings
  induction tree.walk root with
  | nil => rfl
  | cons visit visits ih =>
    have split : (visit :: visits).countP (refusedAt path) = [visit].countP (refusedAt path) +
        visits.countP (refusedAt path) := by
      rw [← List.countP_append, List.singleton_append]
    rw [List.flatMap_cons, List.countP_append, countP_visitFindings, ih, encounters_cons tree config visit visits,
      List.countP_append, split]
    omega

/-- Every assembly file that a walk comes upon is read or reported, once. -/
theorem count_of_encounter {tree : FileTree} {config : Config} {root buildTag : String} (wellFormed : tree.WellFormed)
    {encounter : Encounter} (met : encounter ∈ encounters tree config (tree.walk root)) :
    ((findings tree config root buildTag).filterMap Finding.listing?).countP
        (fun listing => listing.path = encounter.path) +
      (Journal.diagnostics ((findings tree config root buildTag).filterMap Finding.entry?)).countP
        (unreadable encounter.path) = 1 := by
  have once : (encounters tree config (tree.walk root)).countP (fun other => other.path = encounter.path) = 1 := by
    have single := List.count_eq_one_of_mem (nodup_path_encounters wellFormed root) (List.mem_map_of_mem met)
    rw [List.count, List.countP_map] at single
    simpa [Function.comp_def, beq_eq_decide] using single
  have apart : (tree.walk root).countP (refusedAt encounter.path) = 0 := by
    rw [List.countP_eq_zero]
    intro visit visited refused
    cases visit with
    | refused path failure =>
      obtain ⟨above, directory, entered, plain, -, -, joined⟩ := mem_encounters_iff.mp met
      have same : path = encounter.path := by simpa [refusedAt] using refused
      rw [same, joined] at visited
      exact FileTree.refused_notMem_walk wellFormed entered plain visited
    | entered path directory => cases refused
    | repeated path => cases refused
  rw [← countP_concerns, countP_findings, once, apart]

theorem filterMap_listing_visitFindings (tree : FileTree) (config : Config) (buildTag : String)
    (visit : FileTree.Visit) :
    (visitFindings tree config buildTag visit).filterMap Finding.listing? =
      (encounters tree config [visit]).filterMap fun encounter => (fileFinding tree buildTag encounter.path).listing? := by
  cases visit with
  | entered above directory =>
    simp [visitFindings, encounters, encountersIn, List.filterMap_map]
  | repeated above => rfl
  | refused above failure => rfl

/-- The listings of a scan are those of the files that its walk comes upon, in the order of the walk. -/
theorem filterMap_listing_findings (tree : FileTree) (config : Config) (root buildTag : String) :
    (findings tree config root buildTag).filterMap Finding.listing? =
      (encounters tree config (tree.walk root)).filterMap fun encounter =>
        (fileFinding tree buildTag encounter.path).listing? := by
  unfold findings
  induction tree.walk root with
  | nil => rfl
  | cons visit visits ih =>
    rw [List.flatMap_cons, List.filterMap_append, filterMap_listing_visitFindings, ih,
      encounters_cons tree config visit visits, List.filterMap_append]

theorem mem_encounters_of_plain {tree : FileTree} {config : Config} {root path : String}
    {directory : FileTree.Directory} {entry : String × FileTree.Node}
    (visited : .entered path directory ∈ tree.walk root) (present : entry ∈ directory.entries)
    (plain : tree.leadsToDirectory path entry = false) (assembly : config.isAssemblyFile entry.1 = true) :
    ⟨directory.place, entry.1, Path.join path entry.1⟩ ∈ encounters tree config (tree.walk root) :=
  mem_encounters_iff.mpr ⟨path, directory, visited, FileTree.mem_plainEntries_iff.mpr ⟨entry, present, plain, rfl⟩,
    assembly, rfl, rfl⟩

theorem scanPath_of_entered {tree : FileTree} {config : Config} {root path buildTag : String}
    {directory : FileTree.Directory} (visited : .entered path directory ∈ tree.walk root) :
    scanPath tree config root buildTag = scanDirectory tree config root buildTag := by
  obtain ⟨start, opened⟩ := FileTree.directoryAt_root_of_entered visited
  have plain := (FileTree.resolve_eq_ok_iff.mp (FileTree.directoryAt_eq_ok_iff.mp opened)).2.1
  rw [scanPath, plain]
  rfl

/-- A scan of a directory comes to an end and makes something, once, of everything that can be reached. -/
structure Covers (tree : FileTree) (config : Config) (root buildTag : String) : Prop where
  /-- The steps of the walk can be taken to their end, and in one way only. -/
  ends : ∀ visits, tree.Walks [] [root] visits ↔ visits = tree.walk root
  distinct : (FileTree.enteredPlaces (tree.walk root)).Nodup
  reached : ∀ directory, tree.Reachable root directory ↔ ∃ path, .entered path directory ∈ tree.walk root
  once : ((encounters tree config (tree.walk root)).map Encounter.inside).Nodup
  read : ∀ listings, (scanPath tree config root buildTag).result = .ok listings →
    listings = (encounters tree config (tree.walk root)).filterMap fun encounter =>
      (fileFinding tree buildTag encounter.path).listing?
  accounted : ∀ directory, tree.Reachable root directory → ∀ name ∈ directory.entries.map Prod.fst,
    config.isAssemblyFile name = true → (∀ child, ¬tree.Child directory name child) →
      ∃ path listings, .entered path directory ∈ tree.walk root ∧
        (scanPath tree config root buildTag).result = .ok listings ∧
          listings.countP (fun listing => listing.path = Path.join path name) +
            (scanPath tree config root buildTag).diagnostics.countP (unreadable (Path.join path name)) = 1

/-- Whatever links a tree has, a scan that is not hindered by their number or by the length of a path covers all that
can be reached. -/
theorem scan_covers_reachable (tree : FileTree) (config : Config) (root buildTag : String)
    (wellFormed : tree.WellFormed) (links : tree.LinksSuffice root) (paths : tree.PathsFit root) :
    Covers tree config root buildTag := by
  have enters {directory : FileTree.Directory} (reached : tree.Reachable root directory) :
      ∃ path, .entered path directory ∈ tree.walk root :=
    FileTree.exists_entered_of_reachable wellFormed links paths reached
  refine ⟨fun visits => FileTree.walks_iff tree.complement_nil, tree.nodup_enteredPlaces tree.directories [root],
    fun directory => ⟨enters, ?_⟩, nodup_inside_encounters wellFormed root, ?_, ?_⟩
  · rintro ⟨path, visited⟩
    exact FileTree.reachable_of_entered wellFormed visited
  · intro listings scanned
    unfold scanPath at scanned
    split at scanned
    · cases scanned
    · cases scanned
      exact filterMap_listing_findings tree config root buildTag
  · intro directory reached name listed assembly leaf
    obtain ⟨path, visited⟩ := enters reached
    obtain ⟨entry, present, rfl⟩ := List.mem_map.mp listed
    have plain : tree.leadsToDirectory path entry = false := by
      rw [Bool.eq_false_iff]
      intro leads
      obtain ⟨child, below⟩ := FileTree.exists_child_of_leadsToDirectory wellFormed
        (FileTree.directoryAt_of_entered visited) present leads
      exact leaf child below
    have met := mem_encounters_of_plain visited present plain assembly
    rw [scanPath_of_entered visited]
    exact ⟨path, _, visited, rfl, count_of_encounter wellFormed met⟩

/-- A directory with two ways to one subdirectory, which leads back, with a link to itself, and with a link to
nothing that has the name of an assembly file. -/
def linkedEntries : List (String × FileTree.Node) :=
  [("again", .link "sub"), ("gone-hip-amdgcn-amd-amdhsa-gfx90a.s", .link "nowhere"),
    ("k-hip-amdgcn-amd-amdhsa-gfx90a.s", .file [] ⟨0⟩), ("self", .link "self"), ("sub", .directory [("up", .link "..")])]

def linked : FileTree := ⟨[("b", .directory linkedEntries)], []⟩

theorem walk_linked :
    linked.walk "b" = [.entered "b" ⟨["b"], linkedEntries⟩, .entered "b/again" ⟨["sub", "b"], [("up", .link "..")]⟩,
      .repeated "b/again/up", .repeated "b/sub"] := by
  have build : linked.directoryAt "b" = .ok ⟨["b"], linkedEntries⟩ :=
    FileTree.directoryAt_of_place ["b"] (by decide +kernel) rfl
  have again : linked.directoryAt "b/again" = .ok ⟨["sub", "b"], [("up", .link "..")]⟩ :=
    FileTree.directoryAt_of_place ["sub", "b"] (by decide +kernel) rfl
  have up : linked.directoryAt "b/again/up" = .ok ⟨["b"], linkedEntries⟩ :=
    FileTree.directoryAt_of_place ["b"] (by decide +kernel) rfl
  have sub : linked.directoryAt "b/sub" = .ok ⟨["sub", "b"], [("up", .link "..")]⟩ :=
    FileTree.directoryAt_of_place ["sub", "b"] (by decide +kernel) rfl
  have inBuild : (linked.subdirectories "b" ⟨["b"], linkedEntries⟩).map (Path.join "b") = ["b/again", "b/sub"] := by
    have listed : (linkedEntries.filter (linked.leadsToDirectory "b")).map Prod.fst = ["again", "sub"] := by
      decide +kernel
    have sorted : FileTree.sortNames ["again", "sub"] = ["again", "sub"] := by simp [FileTree.sortNames, List.mergeSort]
    rw [FileTree.subdirectories, listed, sorted]
    decide +kernel
  have inSub : (linked.subdirectories "b/again" ⟨["sub", "b"], [("up", .link "..")]⟩).map (Path.join "b/again") =
      ["b/again/up"] := by decide +kernel
  refine FileTree.Walks.eq_walk (.enter build List.not_mem_nil ?_)
  rw [inBuild]
  refine .enter again (by simp) ?_
  rw [inSub]
  exact .skip up (by simp) (.skip sub (by simp) (.done _))

theorem child_linked {path name : String} {directory child : FileTree.Directory}
    (visited : .entered path directory ∈ linked.walk "b") (leads : linked.Child directory name child) :
    Path.join path name ∈ ["b/again", "b/sub", "b/again/up"] := by
  obtain ⟨entry, links, followed⟩ := leads
  rw [walk_linked] at visited
  simp only [List.mem_cons, FileTree.Visit.entered.injEq, reduceCtorEq, List.not_mem_nil, or_false] at visited
  rcases visited with ⟨rfl, rfl⟩ | ⟨rfl, rfl⟩
  · simp only [linkedEntries, List.map_cons, List.map_nil, List.mem_cons, List.not_mem_nil, or_false] at entry
    rcases entry with rfl | rfl | rfl | rfl | rfl
    · decide +kernel
    · cases links with
      | zero => cases followed
      | succ links => cases links <;> cases followed
    · cases links <;> cases followed
    · -- However many links are left, the next one leads here again.
      induction links with
      | zero => cases followed
      | succ links ih => exact ih followed
    · decide +kernel
  · rw [List.mem_singleton.mp entry]
    decide +kernel

theorem scan_covers_reachable_linked :
    linked.WellFormed ∧ linked.LinksSuffice "b" ∧ linked.PathsFit "b" ∧ Covers linked .default "b" "build" := by
  have wellFormed : linked.WellFormed := by decide +kernel
  have links : linked.LinksSuffice "b" := by
    intro path directory visited name child leads failed
    have opens : ∀ lookup ∈ ["b/again", "b/sub", "b/again/up"], linked.isDirectory lookup = true := by decide +kernel
    have opened := opens _ (child_linked visited leads)
    rw [FileTree.isDirectory, FileTree.directoryAt, failed] at opened
    cases opened
  have paths : linked.PathsFit "b" := by
    intro path directory visited name child leads
    have short : ∀ lookup ∈ ["b/again", "b/sub", "b/again/up"], lookup.utf8ByteSize ≤ FileTree.pathLimit := by
      decide +kernel
    exact short _ (child_linked visited leads)
  exact ⟨wellFormed, links, paths, scan_covers_reachable linked .default "b" "build" wellFormed links paths⟩

def longName : String := "aaaaaaaaaaaaaaaaaaaaaaaaaaaaaaaaaaaaaaaaaaaaaaaaaa"

def longPath : String := "b/aaaaaaaaaaaaaaaaaaaaaaaaaaaaaaaaaaaaaaaaaaaaaaaaaa"

def hidden : FileTree.Directory :=
  ⟨["eeee", "d", "b"], [("k-hip-amdgcn-amd-amdhsa-gfx90a.s", .file [] ⟨0⟩)]⟩

def between : FileTree.Directory := ⟨["d", "b"], [("eeee", .directory hidden.entries)]⟩

def outer : FileTree.Directory := ⟨["b"], [(longName, .link "d"), ("d", .directory between.entries)]⟩

def crowded : FileTree := ⟨[("b", .directory outer.entries)], []⟩

/-- The lookups of a walk that is long by its first names alone. -/
structure Crowded (count : Nat) : Prop where
  outer : crowded.directoryAt (dotted count "b") = .ok outer
  byLong : crowded.directoryAt (Path.join (dotted count "b") longName) = .ok between
  byShort : crowded.directoryAt (Path.join (dotted count "b") "d") = .ok between
  below : crowded.directoryAt (Path.join (Path.join (dotted count "b") longName) "eeee") = .error .nameTooLong

section
variable {count : Nat}

theorem crowded_of_size (fits : 2 * count + 52 ≤ FileTree.pathLimit) (long : FileTree.pathLimit < 2 * count + 57) :
    Crowded count := by
  have lookup {path : String} (filled : path ≠ "") (plain : FileTree.hasNull path = false)
      (relative : Path.isAbsolute path = false) (short : path.utf8ByteSize ≤ 52) :
      crowded.directoryAt (dotted count path) = crowded.directoryAt path := by
    rw [FileTree.directoryAt_dotted count crowded filled plain relative, if_neg (by omega)]
  have joinLong : Path.join (dotted count "b") longName = dotted count longPath := by
    rw [FileTree.join_dotted count (by decide) (by decide), show Path.join "b" longName = longPath by decide +kernel]
  have joinShort : Path.join (dotted count "b") "d" = dotted count "b/d" := by
    rw [FileTree.join_dotted count (by decide) (by decide), show Path.join "b" "d" = "b/d" by decide +kernel]
  constructor
  · rw [lookup (by decide) (by decide) (by decide) (by decide)]
    exact FileTree.directoryAt_of_place ["b"] (by decide +kernel) rfl
  · rw [joinLong, lookup (by decide) (by decide +kernel) (by decide) (by decide +kernel)]
    exact FileTree.directoryAt_of_place ["d", "b"] (by decide +kernel) rfl
  · rw [joinShort, lookup (by decide) (by decide) (by decide) (by decide)]
    exact FileTree.directoryAt_of_place ["d", "b"] (by decide +kernel) rfl
  · have size : (Path.join longPath "eeee").utf8ByteSize = 57 := by decide +kernel
    rw [joinLong, FileTree.join_dotted count (by decide) (by decide),
      FileTree.directoryAt_dotted count crowded (by decide +kernel) (by decide +kernel) (by decide +kernel), size,
      if_pos long]

-- The long name comes first, so the directory is entered by it, and what lies below is refused; by its short name
-- the directory is only passed over.
theorem Crowded.walk (lookups : Crowded count) :
    crowded.walk (dotted count "b") =
      [.entered (dotted count "b") Discovery.outer, .entered (Path.join (dotted count "b") longName) between,
        .refused (Path.join (Path.join (dotted count "b") longName) "eeee") .nameTooLong,
        .repeated (Path.join (dotted count "b") "d")] := by
  have leads : crowded.isDirectory (Path.join (dotted count "b") longName) = true := by
    rw [FileTree.isDirectory, lookups.byLong]
    rfl
  have inOuter : crowded.subdirectories (dotted count "b") Discovery.outer = [longName, "d"] := by
    have order : longName ≤ "d" := by decide +kernel
    simp [FileTree.subdirectories, Discovery.outer, List.filter_cons, FileTree.leadsToDirectory, leads,
      FileTree.sortNames, List.mergeSort, order]
  have inBetween : crowded.subdirectories (Path.join (dotted count "b") longName) between = ["eeee"] := by
    simp [FileTree.subdirectories, between, List.filter_cons, FileTree.leadsToDirectory, FileTree.sortNames]
  refine FileTree.Walks.eq_walk (.enter lookups.outer List.not_mem_nil ?_)
  rw [inOuter]
  refine .enter lookups.byLong (by simp [between, Discovery.outer]) ?_
  rw [inBetween]
  exact .refuse lookups.below (.skip lookups.byShort (by simp) (.done _))

theorem Crowded.linksSuffice (lookups : Crowded count) : crowded.LinksSuffice (dotted count "b") := by
  intro path directory visited name child leads failed
  have missing : crowded.directoryAt (Path.join path name) = .error .tooManyLinks := by
    rw [FileTree.directoryAt, failed]
    rfl
  have entry := leads.entry
  rw [lookups.walk] at visited
  simp only [List.mem_cons, FileTree.Visit.entered.injEq, reduceCtorEq, List.not_mem_nil, or_false] at visited
  rcases visited with ⟨rfl, rfl⟩ | ⟨rfl, rfl⟩
  · simp only [Discovery.outer, List.map_cons, List.map_nil, List.mem_cons, List.not_mem_nil, or_false] at entry
    rcases entry with rfl | rfl
    · simp [lookups.byLong] at missing
    · simp [lookups.byShort] at missing
  · rw [List.mem_singleton.mp entry, lookups.below] at missing
    cases missing

end

/-- A path that is too long can keep a directory from being entered by any path. -/
theorem reachable_not_entered_crowded :
    crowded.WellFormed ∧ crowded.LinksSuffice (dotted 2020 "b") ∧ crowded.Reachable (dotted 2020 "b") hidden ∧
      ∀ path, .entered path hidden ∉ crowded.walk (dotted 2020 "b") := by
  have lookups : Crowded 2020 := crowded_of_size (by decide) (by decide)
  have inner : crowded.Child outer "d" between := ⟨List.mem_cons_of_mem _ List.mem_cons_self, 0, rfl⟩
  have innermost : crowded.Child between "eeee" hidden := ⟨List.mem_cons_self, 0, rfl⟩
  refine ⟨by decide +kernel, lookups.linksSuffice, .child (.child (.start lookups.outer) inner) innermost, ?_⟩
  intro path visited
  rw [lookups.walk] at visited
  simp [hidden, outer, between] at visited

end Discovery

end KernelAtlas
