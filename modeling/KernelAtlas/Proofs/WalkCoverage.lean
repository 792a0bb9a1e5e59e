import KernelAtlas.Proofs.PathLookup

/-! What a walk comes to.

A walk enters a directory at most once, so it ends, and it enters every directory that can be reached through
entries: one that is passed over has been entered before, and what it holds was looked at then. For this the
lookups of the walk must not fail for want of links or for the length of a path. -/

set_option autoImplicit false

namespace KernelAtlas.FileTree

structure Child (tree : FileTree) (directory : Directory) (name : String) (child : Directory) : Prop where
  entry : name ∈ directory.entries.map Prod.fst
  leads : ∃ links, tree.follow links directory [name] = .ok (.directory child)

inductive Reachable (tree : FileTree) (path : String) : Directory → Prop where
  | start {directory : Directory} (found : tree.directoryAt path = .ok directory) : Reachable tree path directory
  | child {directory child : Directory} {name : String} (reached : Reachable tree path directory)
    (leads : tree.Child directory name child) : Reachable tree path child

def Visit.entered? : Visit → Option (String × Directory)
  | entered path directory => some (path, directory)
  | _ => none

def entered (visits : List Visit) : List (String × Directory) := visits.filterMap Visit.entered?

def enteredPlaces (visits : List Visit) : List Place := (entered visits).map fun visit => visit.2.place

section
variable (visits : List Visit) (path : String) (directory : Directory) (failure : Failure)

@[simp] theorem entered_nil : entered [] = [] := rfl

@[simp] theorem entered_cons_entered :
    entered (.entered path directory :: visits) = (path, directory) :: entered visits := rfl

@[simp] theorem entered_cons_repeated : entered (.repeated path :: visits) = entered visits := rfl

@[simp] theorem entered_cons_refused : entered (.refused path failure :: visits) = entered visits := rfl

variable {visits path directory}

theorem mem_entered_iff : (path, directory) ∈ entered visits ↔ .entered path directory ∈ visits := by
  simp only [entered, List.mem_filterMap]
  constructor
  · rintro ⟨visit, member, same⟩
    cases visit <;> cases same
    exact member
  · intro member
    exact ⟨_, member, rfl⟩

end

section
variable {tree : FileTree} {path : String} {directory child : Directory} {name : String}

theorem Child.of_directoryAt (wellFormed : tree.WellFormed) (found : tree.directoryAt path = .ok directory)
    (entry : name ∈ directory.entries.map Prod.fst) (below : tree.directoryAt (Path.join path name) = .ok child) :
    tree.Child directory name child := by
  obtain ⟨held, member, rfl⟩ := List.mem_map.mp entry
  have named := (wellFormed.proper found).named held member
  obtain ⟨left, -, lookup⟩ := resolve_join found
  rw [directoryAt_eq_ok_iff, lookup held.1 named] at below
  split at below
  · cases below
  · exact ⟨entry, left, below⟩

theorem Child.directoryAt (leads : tree.Child directory name child) (wellFormed : tree.WellFormed)
    (found : tree.directoryAt path = .ok directory) (short : (Path.join path name).utf8ByteSize ≤ pathLimit)
    (enough : tree.resolve (Path.join path name) ≠ .error .tooManyLinks) :
    tree.directoryAt (Path.join path name) = .ok child := by
  obtain ⟨entry, links, followed⟩ := leads
  obtain ⟨held, member, rfl⟩ := List.mem_map.mp entry
  have named := (wellFormed.proper found).named held member
  obtain ⟨left, -, lookup⟩ := resolve_join found
  rw [lookup held.1 named, if_neg (Nat.not_lt.mpr short)] at enough
  -- Neither lookup runs out of links, so both give what all of these links give.
  have same : tree.follow (left + links) directory [held.1] = tree.follow left directory [held.1] :=
    follow_of_le (Nat.le_add_right left links) enough
  have sameToo : tree.follow (left + links) directory [held.1] = tree.follow links directory [held.1] :=
    follow_of_le (Nat.le_add_left links left) (by simp [followed])
  rw [directoryAt_eq_ok_iff, lookup held.1 named, if_neg (Nat.not_lt.mpr short), ← same, sameToo, followed]

theorem Directory.Proper.node? (proper : directory.Proper) {entry : String × Node} (member : entry ∈ directory.entries) :
    directory.node? entry.1 = some entry.2 := by
  have distinct : (⟨directory.entries⟩ : OrderedMap String Node).keys.Nodup := proper.distinct
  exact (OrderedMap.get?_eq_some_iff distinct entry.1 entry.2).mpr member

theorem follow_entry (proper : directory.Proper) {entry : String × Node} (member : entry ∈ directory.entries)
    (links : Nat) :
    tree.follow links directory [entry.1] =
      match entry.2 with
      | .file bytes modified => .ok (.file bytes modified)
      | .directory entries => .ok (.directory ⟨entry.1 :: directory.place, entries⟩)
      | .link target => tree.jump links directory target [] := by
  have named := proper.named entry member
  rw [follow_cons, if_neg (by simp [named.filled, named.notHere]), if_neg named.notAbove,
    if_neg (Nat.not_lt.mpr named.short), proper.node? member]
  cases entry.2 <;> simp

theorem exists_child_of_leadsToDirectory (wellFormed : tree.WellFormed) (found : tree.directoryAt path = .ok directory)
    {entry : String × Node} (member : entry ∈ directory.entries) (leads : tree.leadsToDirectory path entry = true) :
    ∃ child, tree.Child directory entry.1 child := by
  have listed : entry.1 ∈ directory.entries.map Prod.fst := List.mem_map_of_mem member
  have proper := wellFormed.proper found
  obtain ⟨name, node⟩ := entry
  cases node with
  | file bytes modified => cases leads
  | directory entries => exact ⟨_, listed, 0, follow_entry proper member 0⟩
  | link target =>
    simp only [leadsToDirectory, isDirectory] at leads
    cases below : tree.directoryAt (Path.join path name) with
    | error failure => simp [below, Except.isOk, Except.toBool] at leads
    | ok child => exact ⟨child, .of_directoryAt wellFormed found listed below⟩

theorem leadsToDirectory_of_directoryAt (wellFormed : tree.WellFormed) (found : tree.directoryAt path = .ok directory)
    {entry : String × Node} (member : entry ∈ directory.entries)
    (below : tree.directoryAt (Path.join path entry.1) = .ok child) : tree.leadsToDirectory path entry = true := by
  have proper := wellFormed.proper found
  obtain ⟨-, links, followed⟩ := Child.of_directoryAt wellFormed found (List.mem_map_of_mem member) below
  rw [follow_entry proper member] at followed
  obtain ⟨name, node⟩ := entry
  cases node with
  | file bytes modified => cases followed
  | directory entries => rfl
  | link target => simp only [leadsToDirectory, isDirectory, below]; rfl

theorem mem_sortNames_iff {names : List String} {name : String} : name ∈ sortNames names ↔ name ∈ names :=
  List.mem_mergeSort

theorem mem_subdirectories_iff : name ∈ tree.subdirectories path directory ↔
    ∃ entry ∈ directory.entries, tree.leadsToDirectory path entry = true ∧ entry.1 = name := by
  simp [subdirectories, mem_sortNames_iff, and_assoc]

end

/-- The steps of a walk that keeps the places it has entered. A directory is looked at when its path comes up, and
its subdirectories come up before the paths that wait. -/
inductive Walks (tree : FileTree) : List Place → List String → List Visit → Prop where
  | done (visited : List Place) : Walks tree visited [] []
  | refuse {visited : List Place} {path : String} {pending : List String} {visits : List Visit} {failure : Failure}
    (failed : tree.directoryAt path = .error failure) (later : Walks tree visited pending visits) :
    Walks tree visited (path :: pending) (.refused path failure :: visits)
  | skip {visited : List Place} {path : String} {pending : List String} {visits : List Visit} {directory : Directory}
    (found : tree.directoryAt path = .ok directory) (known : directory.place ∈ visited)
    (later : Walks tree visited pending visits) : Walks tree visited (path :: pending) (.repeated path :: visits)
  | enter {visited : List Place} {path : String} {pending : List String} {visits : List Visit} {directory : Directory}
    (found : tree.directoryAt path = .ok directory) (new : directory.place ∉ visited)
    (later : Walks tree (directory.place :: visited)
      ((tree.subdirectories path directory).map (Path.join path) ++ pending) visits) :
    Walks tree visited (path :: pending) (.entered path directory :: visits)

section
variable {tree : FileTree} {remaining visited : List Place} {pending : List String} {visits : List Visit}

def Complement (tree : FileTree) (remaining visited : List Place) : Prop :=
  ∀ directory, tree.Holding directory → (directory.place ∈ remaining ↔ directory.place ∉ visited)

theorem complement_nil (tree : FileTree) : tree.Complement tree.directories [] :=
  fun _ held => by simp [held.mem_directories]

theorem Complement.enter (complement : tree.Complement remaining visited) (place : Place) :
    tree.Complement (without remaining place) (place :: visited) := by
  intro directory held
  rw [mem_without, complement directory held, List.mem_cons, not_or, and_comm]

/-- The steps of a walk come to an end, and there is no other way to take them. -/
theorem walks_iff (complement : tree.Complement remaining visited) :
    tree.Walks visited pending visits ↔ visits = tree.walkFrom remaining pending := by
  constructor
  · intro walks
    induction walks generalizing remaining with
    | done visited => rw [walkFrom]
    | refuse failed later ih =>
      rw [walkFrom]
      simp only [failed, ih complement]
    | skip found known later ih =>
      have old := mt (complement _ (holding_of_directoryAt found)).mp (not_not_intro known)
      rw [walkFrom]
      simp only [found, old, ih complement, dite_false]
    | enter found new later ih =>
      have fresh := (complement _ (holding_of_directoryAt found)).mpr new
      rw [walkFrom]
      simp only [found, fresh, ih (complement.enter _), dite_true]
  · rintro rfl
    fun_induction walkFrom tree remaining pending generalizing visited with
    | case1 => exact .done visited
    | case2 remaining path pending failure failed ih => exact .refuse failed (ih complement)
    | case3 remaining path pending directory found fresh ih =>
      exact .enter found ((complement _ (holding_of_directoryAt found)).mp fresh) (ih (complement.enter _))
    | case4 remaining path pending directory found old ih =>
      have known := not_not.mp (mt (complement _ (holding_of_directoryAt found)).mpr old)
      exact .skip found known (ih complement)

theorem Walks.eq_walk {path : String} (walks : tree.Walks [] [path] visits) : tree.walk path = visits :=
  ((walks_iff tree.complement_nil).mp walks).symm

theorem mem_entered_walkFrom {path : String} {directory : Directory}
    (member : (path, directory) ∈ entered (tree.walkFrom remaining pending)) :
    tree.directoryAt path = .ok directory ∧ directory.place ∈ remaining := by
  fun_induction walkFrom tree remaining pending with
  | case1 => cases member
  | case2 remaining first pending failure failed ih => exact ih member
  | case3 remaining first pending holder found fresh ih =>
    rcases List.mem_cons.mp member with same | later
    · cases same
      exact ⟨found, fresh⟩
    · exact ⟨(ih later).1, (mem_without.mp (ih later).2).1⟩
  | case4 remaining first pending holder found old ih => exact ih member

theorem directoryAt_of_entered {path root : String} {directory : Directory}
    (member : .entered path directory ∈ tree.walk root) : tree.directoryAt path = .ok directory :=
  (mem_entered_walkFrom (mem_entered_iff.mpr member)).1

theorem nodup_enteredPlaces (tree : FileTree) (remaining : List Place) (pending : List String) :
    (enteredPlaces (tree.walkFrom remaining pending)).Nodup := by
  fun_induction walkFrom tree remaining pending with
  | case1 => exact List.nodup_nil
  | case2 remaining first pending failure failed ih => exact ih
  | case3 remaining first pending holder found fresh ih =>
    refine List.nodup_cons.mpr ⟨fun member => ?_, ih⟩
    obtain ⟨⟨path, directory⟩, among, same⟩ := List.mem_map.mp member
    exact (mem_without.mp (mem_entered_walkFrom among).2).2 same
  | case4 remaining first pending holder found old ih => exact ih

/-- A directory that still remains is entered once a path to it waits, or once it is a subdirectory of one that is
entered. -/
structure Closed (tree : FileTree) (remaining : List Place) (pending : List String) (visits : List Visit) : Prop where
  waiting : ∀ path ∈ pending, ∀ directory, tree.directoryAt path = .ok directory → directory.place ∈ remaining →
    directory.place ∈ enteredPlaces visits
  below : ∀ path directory, (path, directory) ∈ entered visits → ∀ name ∈ tree.subdirectories path directory,
    ∀ child, tree.directoryAt (Path.join path name) = .ok child → child.place ∈ remaining →
      child.place ∈ enteredPlaces visits

-- The pruning argument: what a step takes out of `remaining` is the directory that it enters.
theorem closed_walkFrom (tree : FileTree) (remaining : List Place) (pending : List String) :
    tree.Closed remaining pending (tree.walkFrom remaining pending) := by
  fun_induction walkFrom tree remaining pending with
  | case1 => exact ⟨by simp, by simp [entered]⟩
  | case2 remaining first pending failure failed ih =>
    refine ⟨fun path member directory found fresh => ?_, ih.below⟩
    rcases List.mem_cons.mp member with rfl | later
    · rw [failed] at found
      cases found
    · exact ih.waiting path later directory found fresh
  | case3 remaining first pending holder found fresh ih =>
    have enters {directory : Directory} (remains : directory.place ∈ remaining)
        (later : directory.place ∈ without remaining holder.place →
          directory.place ∈ enteredPlaces (tree.walkFrom (without remaining holder.place)
            ((tree.subdirectories first holder).map (Path.join first) ++ pending))) :
        directory.place ∈ enteredPlaces (.entered first holder :: tree.walkFrom (without remaining holder.place)
          ((tree.subdirectories first holder).map (Path.join first) ++ pending)) := by
      by_cases same : directory.place = holder.place
      · exact List.mem_cons.mpr (.inl same)
      · exact List.mem_cons_of_mem _ (later (mem_without.mpr ⟨remains, same⟩))
    constructor
    · intro path member directory foundToo remains
      rcases List.mem_cons.mp member with rfl | later
      · rw [found] at foundToo
        cases foundToo
        exact List.mem_cons_self
      · exact enters remains (ih.waiting path (List.mem_append_right _ later) directory foundToo)
    · intro path directory member name listed child foundToo remains
      rcases List.mem_cons.mp member with same | later
      · cases same
        have waits := List.mem_append_left pending (List.mem_map_of_mem (f := Path.join first) listed)
        exact enters remains (ih.waiting _ waits child foundToo)
      · exact enters remains (ih.below path directory later name listed child foundToo)
  | case4 remaining first pending holder found old ih =>
    refine ⟨fun path member directory foundToo fresh => ?_, ih.below⟩
    rcases List.mem_cons.mp member with rfl | later
    · rw [found] at foundToo
      cases foundToo
      exact absurd fresh old
    · exact ih.waiting path later directory foundToo fresh

theorem reachable_of_mem_entered_walkFrom {root : String} (wellFormed : tree.WellFormed)
    (start : ∀ path ∈ pending, ∀ directory, tree.directoryAt path = .ok directory → tree.Reachable root directory)
    {path : String} {directory : Directory} (member : (path, directory) ∈ entered (tree.walkFrom remaining pending)) :
    tree.Reachable root directory := by
  fun_induction walkFrom tree remaining pending with
  | case1 => cases member
  | case2 remaining first pending failure failed ih =>
    exact ih (fun path waits => start path (List.mem_cons_of_mem first waits)) member
  | case3 remaining first pending holder found fresh ih =>
    have reached := start first List.mem_cons_self holder found
    rcases List.mem_cons.mp member with same | later
    · cases same
      exact reached
    refine ih (fun path waits directory foundToo => ?_) later
    rcases List.mem_append.mp waits with inside | outside
    · obtain ⟨name, listed, rfl⟩ := List.mem_map.mp inside
      obtain ⟨entry, present, -, rfl⟩ := mem_subdirectories_iff.mp listed
      exact .child reached (.of_directoryAt wellFormed found (List.mem_map_of_mem present) foundToo)
    · exact start path (List.mem_cons_of_mem first outside) directory foundToo
  | case4 remaining first pending holder found old ih =>
    exact ih (fun path waits => start path (List.mem_cons_of_mem first waits)) member

variable {root path : String} {directory : Directory}

theorem reachable_of_entered (wellFormed : tree.WellFormed) (member : .entered path directory ∈ tree.walk root) :
    tree.Reachable root directory := by
  refine reachable_of_mem_entered_walkFrom wellFormed (fun other waits holder found => ?_) (mem_entered_iff.mpr member)
  rw [List.mem_singleton.mp waits] at found
  exact .start found

/-- A directory is entered by one path only. -/
theorem eq_of_entered {other : String} {holder : Directory} (member : .entered path directory ∈ tree.walk root)
    (memberToo : .entered other holder ∈ tree.walk root) (same : directory.place = holder.place) :
    path = other ∧ directory = holder := by
  have once := List.inj_on_of_nodup_map (nodup_enteredPlaces tree tree.directories [root])
    (mem_entered_iff.mpr member) (mem_entered_iff.mpr memberToo) same
  exact Prod.mk.inj once

/-- No lookup of the walk fails at an entry for its links if the entry leads to a directory with more of them. -/
def LinksSuffice (tree : FileTree) (root : String) : Prop :=
  ∀ path directory, .entered path directory ∈ tree.walk root → ∀ name child, tree.Child directory name child →
    tree.resolve (Path.join path name) ≠ .error .tooManyLinks

/-- No path that the walk makes for a directory is too long. -/
def PathsFit (tree : FileTree) (root : String) : Prop :=
  ∀ path directory, .entered path directory ∈ tree.walk root → ∀ name child, tree.Child directory name child →
    (Path.join path name).utf8ByteSize ≤ pathLimit

theorem exists_entered_of_place (held : tree.Holding directory)
    (member : directory.place ∈ enteredPlaces (tree.walk root)) : ∃ path, .entered path directory ∈ tree.walk root := by
  obtain ⟨⟨path, holder⟩, among, same⟩ := List.mem_map.mp member
  have visited := mem_entered_iff.mp among
  have equal := (holding_of_directoryAt (directoryAt_of_entered visited)).eq_of_place held same
  exact ⟨path, equal ▸ visited⟩

/-- Every directory that can be reached is entered. -/
theorem exists_entered_of_reachable (wellFormed : tree.WellFormed) (links : tree.LinksSuffice root)
    (paths : tree.PathsFit root) (reached : tree.Reachable root directory) :
    ∃ path, .entered path directory ∈ tree.walk root := by
  have closed := tree.closed_walkFrom tree.directories [root]
  induction reached with
  | start found =>
    have held := holding_of_directoryAt found
    exact exists_entered_of_place held (closed.waiting root List.mem_cons_self _ found held.mem_directories)
  | @child directory child name reached leads ih =>
    obtain ⟨path, visited⟩ := ih
    have found := directoryAt_of_entered visited
    have below := leads.directoryAt wellFormed found (paths path directory visited name child leads)
      (links path directory visited name child leads)
    have held := holding_of_directoryAt below
    obtain ⟨entry, present, rfl⟩ := List.mem_map.mp leads.entry
    have listed : entry.1 ∈ tree.subdirectories path directory := mem_subdirectories_iff.mpr
      ⟨entry, present, leadsToDirectory_of_directoryAt wellFormed found present below, rfl⟩
    exact exists_entered_of_place held
      (closed.below path directory (mem_entered_iff.mpr visited) entry.1 listed child below held.mem_directories)

end

end KernelAtlas.FileTree
