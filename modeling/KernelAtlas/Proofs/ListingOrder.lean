import KernelAtlas.Command
import KernelAtlas.Proofs.Accounting

/-! The order in which directories list their entries is not seen.

Two trees that differ in nothing else are walked in step: a path that leads to a directory in one leads to a directory
at the same place in the other, names are sorted before they are followed, and so the places that have been entered
are the same at every step. -/

set_option autoImplicit false

namespace KernelAtlas

namespace FileTree

/-- The same file, the same link, or directories that list the same names in some order. -/
inductive Node.Alike : Node → Node → Prop where
  | file (bytes : List UInt8) (modified : Timestamp) : Alike (.file bytes modified) (.file bytes modified)
  | link (target : String) : Alike (.link target) (.link target)
  | directory {entries others : List (String × Node)} (listed : (entries.map Prod.fst).Perm (others.map Prod.fst)) :
    Alike (.directory entries) (.directory others)

/-- Two trees that differ at most in the order in which their directories list what they hold. -/
structure Relisted (left right : FileTree) : Prop where
  working : left.working = right.working
  nodes : ∀ place, Option.Rel Node.Alike (left.node? place) (right.node? place)

structure Twins (left right : FileTree) (here there : Directory) : Prop where
  first : left.Holding here
  second : right.Holding there
  place : here.place = there.place

inductive Target.Alike (left right : FileTree) : Target → Target → Prop where
  | file (bytes : List UInt8) (modified : Timestamp) : Alike left right (.file bytes modified) (.file bytes modified)
  | directory {here there : Directory} (twins : Twins left right here there) :
    Alike left right (.directory here) (.directory there)

/-- Two lookups fail alike, or what they find is related. -/
inductive Agree {α : Type} (related : α → α → Prop) : Except Failure α → Except Failure α → Prop where
  | failed (failure : Failure) : Agree related (.error failure) (.error failure)
  | found {value other : α} (same : related value other) : Agree related (.ok value) (.ok other)

inductive Visit.Alike (left right : FileTree) : Visit → Visit → Prop where
  | entered (path : String) {here there : Directory} (twins : Twins left right here there) :
    Alike left right (.entered path here) (.entered path there)
  | repeated (path : String) : Alike left right (.repeated path) (.repeated path)
  | refused (path : String) (failure : Failure) : Alike left right (.refused path failure) (.refused path failure)

theorem pairwise_sortNames (names : List String) : (sortNames names).Pairwise (· ≤ ·) :=
  List.pairwise_mergeSort' (· ≤ ·) names

theorem sortNames_eq_of_perm {names others : List String} (same : names.Perm others) : sortNames names = sortNames others := by
  refine List.Perm.eq_of_pairwise (fun _ _ _ _ => String.le_antisymm) (pairwise_sortNames names)
    (pairwise_sortNames others) ?_
  exact (List.mergeSort_perm names _).trans (same.trans (List.mergeSort_perm others _).symm)

theorem Directory.Proper.mem_names_filter_iff {directory : Directory} (proper : directory.Proper)
    {keep : String × Node → Bool} {name : String} :
    name ∈ (directory.entries.filter keep).map Prod.fst ↔ ∃ node, directory.node? name = some node ∧ keep (name, node) = true := by
  have distinct : (⟨directory.entries⟩ : OrderedMap String Node).keys.Nodup := proper.distinct
  simp only [List.mem_map, List.mem_filter, Prod.exists, exists_and_right, exists_eq_right, Directory.node?,
    OrderedMap.get?_eq_some_iff distinct]

section
variable {left right : FileTree}

theorem Twins.root : Twins left right left.root right.root := ⟨left.holding_root, right.holding_root, rfl⟩

theorem Twins.start {here there : Directory} (twins : Twins left right here there) (target : String) :
    Twins left right (left.start here target) (right.start there target) := by
  unfold FileTree.start
  split
  · exact .root
  · exact twins

variable (relisted : left.Relisted right) {here there : Directory}
include relisted

namespace Relisted

theorem directory? (place : Place) :
    Option.Rel (Twins left right) (left.directory? place) (right.directory? place) := by
  have nodes := relisted.nodes place
  -- Both nodes get a name, so that the cases of the relation say what they are.
  generalize found : left.node? place = node at nodes
  generalize foundToo : right.node? place = other at nodes
  cases nodes with
  | none =>
    simp only [FileTree.directory?, found, foundToo]
    exact .none
  | some alike =>
    cases alike with
    | directory listed =>
      have first : left.directory? place = some ⟨place, _⟩ := directory?_eq_some_iff.mpr ⟨rfl, found⟩
      have second : right.directory? place = some ⟨place, _⟩ := directory?_eq_some_iff.mpr ⟨rfl, foundToo⟩
      rw [first, second]
      exact .some ⟨first, second, rfl⟩
    | _ =>
      simp only [FileTree.directory?, found, foundToo]
      exact .none

theorem parent (twins : Twins left right here there) : Twins left right (left.parent here) (right.parent there) := by
  have above := relisted.directory? here.place.tail
  unfold FileTree.parent
  rw [← twins.place]
  generalize left.directory? here.place.tail = found at above
  generalize right.directory? here.place.tail = other at above
  cases above with
  | none => exact .root
  | some twins => exact twins

theorem node? (twins : Twins left right here there) (name : String) :
    Option.Rel Node.Alike (here.node? name) (there.node? name) := by
  rw [← node?_cons twins.first, ← node?_cons twins.second, twins.place]
  exact relisted.nodes (name :: there.place)

theorem listed (twins : Twins left right here there) : (here.entries.map Prod.fst).Perm (there.entries.map Prod.fst) := by
  have nodes := relisted.nodes here.place
  rw [(directory?_eq_some_iff.mp twins.first).2, twins.place, (directory?_eq_some_iff.mp twins.second).2] at nodes
  cases nodes with
  | some alike =>
    cases alike with
    | directory listed => exact listed

theorem follow (links : Nat) (twins : Twins left right here there) (path : List String) :
    Agree (Target.Alike left right) (left.follow links here path) (right.follow links there path) := by
  -- A link uses up one of those that may be followed and puts its names in front of the others, so the number of links
  -- comes first.
  induction links using Nat.strongRecOn generalizing here there path with
  | _ links fewer =>
    induction path generalizing here there with
    | nil =>
      rw [follow_nil, follow_nil]
      exact .found (.directory twins)
    | cons name rest ih =>
      rw [follow_cons, follow_cons]
      split
      · exact ih twins
      split
      · exact ih (relisted.parent twins)
      split
      · exact .failed .nameTooLong
      have nodes := relisted.node? twins name
      generalize found : here.node? name = node at nodes
      generalize foundToo : there.node? name = other at nodes
      cases nodes with
      | none => exact .failed .notFound
      | some alike =>
        cases alike with
        | file bytes modified =>
          by_cases last : rest = []
          · simp only [last, if_true]
            exact .found (.file bytes modified)
          · simp only [last, if_false]
            exact .failed .notDirectory
        | link target =>
          cases links with
          | zero => exact .failed .tooManyLinks
          | succ links =>
            by_cases blank : target = ""
            · simp only [jump, blank, if_true]
              exact .failed .notFound
            · simp only [jump_succ blank]
              exact fewer links (Nat.lt_succ_self links) (twins.start target) _
        | directory listed =>
          refine ih ⟨twins.first.child found, twins.second.child foundToo, ?_⟩
          rw [twins.place]

theorem resolve (path : String) : Agree (Target.Alike left right) (left.resolve path) (right.resolve path) := by
  unfold FileTree.resolve
  split
  · exact .failed .notFound
  split
  · exact .failed .nameTooLong
  have start : left.base path = right.base path := by rw [base, base, relisted.working]
  have directories := relisted.directory? (left.base path)
  unfold followFrom
  rw [start] at directories ⊢
  generalize left.directory? (right.base path) = found at directories
  generalize right.directory? (right.base path) = other at directories
  cases directories with
  | none => exact .failed .notFound
  | some twins => exact relisted.follow linkLimit twins (names path)

theorem directoryAt (path : String) : Agree (Twins left right) (left.directoryAt path) (right.directoryAt path) := by
  have targets := relisted.resolve path
  unfold FileTree.directoryAt
  generalize left.resolve path = found at targets
  generalize right.resolve path = other at targets
  cases targets with
  | failed failure => exact .failed failure
  | found alike =>
    cases alike with
    | file bytes modified => exact .failed .notDirectory
    | directory twins => exact .found twins

theorem twin {path : String} (found : left.directoryAt path = .ok here) :
    ∃ there, right.directoryAt path = .ok there ∧ Twins left right here there := by
  have directories := relisted.directoryAt path
  rw [found] at directories
  generalize foundToo : right.directoryAt path = other at directories
  cases directories with
  | found twins => exact ⟨_, rfl, twins⟩

theorem isDirectory (path : String) : left.isDirectory path = right.isDirectory path := by
  have directories := relisted.directoryAt path
  unfold FileTree.isDirectory
  generalize left.directoryAt path = found at directories
  generalize right.directoryAt path = other at directories
  cases directories <;> rfl

theorem read (path : String) : left.read path = right.read path := by
  have targets := relisted.resolve path
  unfold FileTree.read
  generalize left.resolve path = found at targets
  generalize right.resolve path = other at targets
  cases targets with
  | failed failure => rfl
  | found alike => cases alike <;> rfl

theorem leadsToDirectory (path name : String) {node other : Node} (alike : node.Alike other) :
    left.leadsToDirectory path (name, node) = right.leadsToDirectory path (name, other) := by
  cases alike with
  | file bytes modified => rfl
  | directory listed => rfl
  | link target => exact relisted.isDirectory _

theorem proper (twins : Twins left right here there) (proper : here.Proper) : there.Proper := by
  have listed := relisted.listed twins
  refine ⟨listed.nodup_iff.mp proper.distinct, fun entry member => ?_⟩
  obtain ⟨held, present, same⟩ := List.mem_map.mp (listed.mem_iff.mpr (List.mem_map_of_mem member))
  exact same ▸ proper.named held present

section
variable (twins : Twins left right here there) (proper : here.Proper)
include twins proper

theorem sortNames_filter {keep keepToo : String × Node → Bool}
    (same : ∀ name node other, Node.Alike node other → keep (name, node) = keepToo (name, other)) :
    sortNames ((here.entries.filter keep).map Prod.fst) = sortNames ((there.entries.filter keepToo).map Prod.fst) := by
  have properToo := relisted.proper twins proper
  -- Names are distinct, so it is enough that the same ones are kept.
  apply sortNames_eq_of_perm
  refine (List.perm_ext_iff_of_nodup (proper.distinct.sublist (List.filter_sublist.map Prod.fst))
    (properToo.distinct.sublist (List.filter_sublist.map Prod.fst))).mpr fun name => ?_
  rw [proper.mem_names_filter_iff, properToo.mem_names_filter_iff]
  have nodes := relisted.node? twins name
  generalize here.node? name = node at nodes
  generalize there.node? name = other at nodes
  cases nodes with
  | none => simp
  | some alike => simp [same name _ _ alike]

theorem subdirectories (path : String) : left.subdirectories path here = right.subdirectories path there :=
  relisted.sortNames_filter twins proper fun name _ _ => relisted.leadsToDirectory path name

theorem plainEntries (path : String) : left.plainEntries path here = right.plainEntries path there :=
  relisted.sortNames_filter twins proper fun name _ _ alike => congrArg not (relisted.leadsToDirectory path name alike)

end

/-- The trees are walked in step: the places that were visited are the same before and after each visit. -/
theorem walks (wellFormed : left.WellFormed) {visited : List Place} {pending : List String} {visits : List Visit}
    (walks : left.Walks visited pending visits) :
    ∃ others, right.Walks visited pending others ∧ List.Forall₂ (Visit.Alike left right) visits others := by
  induction walks with
  | done visited => exact ⟨[], .done visited, .nil⟩
  | @refuse visited path pending visits failure failed later ih =>
    obtain ⟨others, walksToo, alike⟩ := ih
    have directories := relisted.directoryAt path
    rw [failed] at directories
    generalize failedToo : right.directoryAt path = other at directories
    cases directories
    exact ⟨_, .refuse failedToo walksToo, .cons (.refused path failure) alike⟩
  | @skip visited path pending visits here found known later ih =>
    obtain ⟨others, walksToo, alike⟩ := ih
    obtain ⟨there, foundToo, twins⟩ := relisted.twin found
    exact ⟨_, .skip foundToo (twins.place ▸ known) walksToo, .cons (.repeated path) alike⟩
  | @enter visited path pending visits here found new later ih =>
    obtain ⟨others, walksToo, alike⟩ := ih
    obtain ⟨there, foundToo, twins⟩ := relisted.twin found
    rw [relisted.subdirectories twins (wellFormed.proper found), twins.place] at walksToo
    exact ⟨_, .enter foundToo (twins.place ▸ new) walksToo, .cons (.entered path twins) alike⟩

theorem walk (wellFormed : left.WellFormed) (path : String) :
    List.Forall₂ (Visit.Alike left right) (left.walk path) (right.walk path) := by
  obtain ⟨others, walksToo, alike⟩ := relisted.walks wellFormed ((walks_iff left.complement_nil).mpr rfl)
  rw [walksToo.eq_walk]
  exact alike

end Relisted

end

mutual

/-- A node with every directory listed backwards. -/
def Node.backwards : Node → Node
  | .directory entries => .directory (entriesBackwards entries)
  | .file bytes modified => .file bytes modified
  | .link target => .link target

def entriesBackwards : List (String × Node) → List (String × Node)
  | [] => []
  | (name, node) :: rest => entriesBackwards rest ++ [(name, node.backwards)]

end

def backwards (tree : FileTree) : FileTree := { tree with entries := entriesBackwards tree.entries }

theorem entriesBackwards_eq (entries : List (String × Node)) :
    entriesBackwards entries = (entries.map fun entry => (entry.1, entry.2.backwards)).reverse := by
  induction entries with
  | nil => rfl
  | cons entry rest ih => simp [entriesBackwards, ih]

theorem map_fst_entriesBackwards (entries : List (String × Node)) :
    (entriesBackwards entries).map Prod.fst = (entries.map Prod.fst).reverse := by
  simp [entriesBackwards_eq, Function.comp_def]

theorem Node.alike_backwards (node : Node) : node.Alike node.backwards := by
  cases node with
  | file bytes modified => exact .file bytes modified
  | link target => exact .link target
  | directory entries =>
    refine .directory ?_
    rw [map_fst_entriesBackwards]
    exact (List.reverse_perm _).symm

theorem get?_entriesBackwards {entries : List (String × Node)} (distinct : (entries.map Prod.fst).Nodup) (name : String) :
    OrderedMap.get? ⟨entriesBackwards entries⟩ name = (OrderedMap.get? ⟨entries⟩ name).map Node.backwards := by
  have distinctToo : (⟨entriesBackwards entries⟩ : OrderedMap String Node).keys.Nodup := by
    rw [OrderedMap.keys, map_fst_entriesBackwards]
    exact List.nodup_reverse.mpr distinct
  have lookup := OrderedMap.get?_eq_some_iff (show (⟨entries⟩ : OrderedMap String Node).keys.Nodup from distinct) name
  apply Option.ext
  intro node
  rw [OrderedMap.get?_eq_some_iff distinctToo]
  simp only [Option.map_eq_some_iff, lookup, entriesBackwards_eq, List.mem_reverse, List.mem_map, Prod.exists,
    Prod.mk.injEq]
  constructor
  · rintro ⟨_, held, member, rfl, same⟩
    exact ⟨held, member, same⟩
  · rintro ⟨held, member, same⟩
    exact ⟨name, held, member, rfl, same⟩

theorem node?_backwards {tree : FileTree} (wellFormed : tree.WellFormed) (place : Place) :
    tree.backwards.node? place = (tree.node? place).map Node.backwards := by
  induction place with
  | nil => rfl
  | cons name above ih =>
    rw [node?, node?, ih]
    cases found : tree.node? above with
    | none => rfl
    | some node =>
      cases node with
      | directory entries =>
        have held : tree.Holding ⟨above, entries⟩ := directory?_eq_some_iff.mpr ⟨rfl, found⟩
        exact get?_entriesBackwards (wellFormed _ held).distinct name
      | _ => rfl

theorem relisted_backwards {tree : FileTree} (wellFormed : tree.WellFormed) : tree.Relisted tree.backwards := by
  refine ⟨rfl, fun place => ?_⟩
  rw [node?_backwards wellFormed]
  cases tree.node? place with
  | none => exact .none
  | some node => exact .some node.alike_backwards

end FileTree

namespace Discovery

section
variable {left right : FileTree} (relisted : left.Relisted right) (wellFormed : left.WellFormed) (config : Config)
include relisted wellFormed

theorem findings_relisted (path buildTag : String) : findings left config path buildTag = findings right config path buildTag := by
  have visits := relisted.walk wellFormed path
  rw [findings, findings, List.flatMap_def, List.flatMap_def]
  refine congrArg List.flatten (map_eq_map_of_forall₂ visits fun visit other alike => ?_)
  cases alike with
  | entered path twins =>
    have proper := wellFormed _ twins.first
    simp only [visitFindings, relisted.plainEntries twins proper, fileFinding, relisted.read]
  | repeated path => rfl
  | refused path failure => rfl

theorem scan_relisted (workspace : String) : scan left config workspace = scan right config workspace := by
  have build (directory : Text.Points) : scanBuild left config workspace directory = scanBuild right config workspace directory := by
    simp only [scanBuild, presentBuild?, relisted.isDirectory, scanDirectory, findings_relisted relisted wellFormed]
  simp only [scan, funext build]

theorem dumps_relisted (workspace : String) : dumps left config workspace = dumps right config workspace := by
  rw [dumps, scan_relisted relisted wellFormed, ← dumps]

end

end Discovery

namespace Command

def World.withTree (world : World) (tree : FileTree) : World := { world with tree := tree }

section
variable {left right : FileTree} (relisted : left.Relisted right) (wellFormed : left.WellFormed) (world : World)
include relisted

theorem config_relisted (scope : Scope) : (world.withTree left).config scope = (world.withTree right).config scope := by
  simp only [World.config, World.withTree, Config.load, Config.fromSettings, relisted.read]

include wellFormed

theorem refresh_relisted (session : Session) (query : Query) : session.refresh left query = session.refresh right query := by
  simp only [Session.refresh, Session.lookUp, Discovery.dumps_relisted relisted wellFormed]

theorem dumps_relisted (config : Config) (scope : Scope) :
    (world.withTree left).dumps config scope = (world.withTree right).dumps config scope := by
  simp only [World.dumps, World.withTree, Discovery.dumps_relisted relisted wellFormed]

theorem perform_relisted (scope : Scope) (action : Action) :
    perform (world.withTree left) scope action = perform (world.withTree right) scope action := by
  have config := config_relisted relisted world
  have dumps := dumps_relisted relisted wellFormed world
  have refresh (session : Session) (query : Query) :
      session.refresh (world.withTree left).tree query = session.refresh (world.withTree right).tree query :=
    refresh_relisted relisted wellFormed session query
  cases action with
  | kernels =>
    simp only [perform, kernelsReport, config, dumps]
    rfl
  | search source line =>
    cases source with
    | none => simp only [perform, World.withoutSource, config, dumps]
    | some source =>
      simp only [perform, searchReport, World.search, config, dumps]
      rfl
  | lookup source line position =>
    cases source with
    | none => simp only [perform, World.withoutSource, config, dumps]
    | some source => simp only [perform, lookupReport, config, refresh]
  | diff source symbol leftPosition rightPosition width =>
    cases source with
    | none => simp only [perform, World.withoutSource, config, dumps]
    | some source =>
      simp only [perform, diffReport, World.search, config, dumps]
      rfl

end

/-- What is found in two trees is the same, and so is all that is shown. -/
structure FoundAlike (left right : FileTree) : Prop where
  scan : ∀ config workspace, Discovery.scan left config workspace = Discovery.scan right config workspace
  resolve : ∀ (query : Query) config workspace, query.inWorkspace left config workspace = query.inWorkspace right config workspace
  refresh : ∀ (session : Session) query, session.refresh left query = session.refresh right query
  run : ∀ (world : World) arguments, run (world.withTree left) arguments = run (world.withTree right) arguments

/-- However the directories of a tree list what they hold, the same is found in the same order and reported alike. -/
theorem listing_order_unseen {left right : FileTree} (wellFormed : left.WellFormed) (relisted : left.Relisted right) :
    FoundAlike left right where
  scan := Discovery.scan_relisted relisted wellFormed
  resolve query config workspace := by
    rw [Query.inWorkspace, Query.inWorkspace, Discovery.dumps_relisted relisted wellFormed]
  refresh := refresh_relisted relisted wellFormed
  run world arguments := by
    simp only [run, perform_relisted relisted wellFormed]

/-- The files of a build are found in the order of their names, though neither order of listing is that order. -/
theorem listing_order_unseen_patchy :
    Query.patchy.WellFormed ∧ Query.patchy.Relisted Query.patchy.backwards ∧
      ((Query.patchy.backwards.directory? ["build", "w"]).map fun directory => directory.entries.map Prod.fst) =
        some (Query.patchyEntries.map Prod.fst).reverse ∧
      (Discovery.scan Query.patchy.backwards Query.buildAndGone "w").result = .ok [Query.halfNamed, Query.foreign] := by
  have wellFormed : Query.patchy.WellFormed := by decide +kernel
  have relisted := FileTree.relisted_backwards wellFormed
  refine ⟨wellFormed, relisted, by decide +kernel, ?_⟩
  rw [← (listing_order_unseen wellFormed relisted).scan]
  exact Query.scan_patchy

end Command

end KernelAtlas
