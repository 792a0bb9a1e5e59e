import KernelAtlas.FileTree.Walk
import KernelAtlas.Proofs.Gathering
import Mathlib.Data.List.Nodup

/-! Lookups of paths that are made longer name by name.

A lookup goes on from where its first names lead, so a name behind the path of a directory is looked up in that
directory, with the links that are left. More links change nothing but a lookup that ran out of them. -/

set_option autoImplicit false

namespace KernelAtlas.FileTree

def Holding (tree : FileTree) (directory : Directory) : Prop := tree.directory? directory.place = some directory

theorem holding_root (tree : FileTree) : tree.Holding tree.root := rfl

theorem Holding.parent {tree : FileTree} (directory : Directory) : tree.Holding (tree.parent directory) := by
  unfold FileTree.parent
  cases found : tree.directory? directory.place.tail with
  | none => exact tree.holding_root
  | some above =>
    have place := (directory?_eq_some_iff.mp found).1
    rw [Option.getD_some, Holding, place, found]

theorem Holding.child {tree : FileTree} {directory : Directory} (held : tree.Holding directory) {name : String}
    {entries : List (String × Node)} (found : directory.node? name = some (.directory entries)) :
    tree.Holding ⟨name :: directory.place, entries⟩ :=
  directory?_eq_some_iff.mpr ⟨rfl, (node?_cons held name).trans found⟩

theorem Holding.eq_of_place {tree : FileTree} {left right : Directory} (first : tree.Holding left)
    (second : tree.Holding right) (same : left.place = right.place) : left = right := by
  rw [Holding, same, second] at first
  exact (Option.some.inj first).symm

def jump (tree : FileTree) : Nat → Directory → String → List String → Except Failure Target
  | 0 => fun _ _ _ => .error .tooManyLinks
  | links + 1 => fun here target rest =>
    if target = "" then .error .notFound
    else tree.follow links (if Path.isAbsolute target then tree.root else here) (names target ++ rest)

def start (tree : FileTree) (here : Directory) (target : String) : Directory :=
  if Path.isAbsolute target then tree.root else here

theorem Holding.start {tree : FileTree} {here : Directory} (held : tree.Holding here) (target : String) :
    tree.Holding (tree.start here target) := by
  unfold FileTree.start
  split
  · exact tree.holding_root
  · exact held

theorem jump_succ {tree : FileTree} {target : String} (filled : target ≠ "") (links : Nat) (here : Directory)
    (rest : List String) :
    tree.jump (links + 1) here target rest = tree.follow links (tree.start here target) (names target ++ rest) :=
  if_neg filled

theorem jump_eq_ok_iff {tree : FileTree} {links : Nat} {here : Directory} {target : String} {rest : List String}
    {found : Target} :
    tree.jump links here target rest = .ok found ↔ ∃ fewer, links = fewer + 1 ∧ target ≠ "" ∧
      tree.follow fewer (tree.start here target) (names target ++ rest) = .ok found := by
  cases links with
  | zero => simp [jump]
  | succ links => by_cases blank : target = "" <;> simp [jump, start, blank]

@[simp] theorem follow_nil (tree : FileTree) (links : Nat) (here : Directory) :
    tree.follow links here [] = .ok (.directory here) := by
  cases links <;> rfl

theorem follow_cons (tree : FileTree) (links : Nat) (here : Directory) (name : String) (rest : List String) :
    tree.follow links here (name :: rest) =
      if name = "" ∨ name = "." then tree.follow links here rest
      else if name = ".." then tree.follow links (tree.parent here) rest
      else if nameLimit < name.utf8ByteSize then .error .nameTooLong
      else
        match here.node? name with
        | none => .error .notFound
        | some (.file bytes modified) => if rest = [] then .ok (.file bytes modified) else .error .notDirectory
        | some (.directory entries) => tree.follow links ⟨name :: here.place, entries⟩ rest
        | some (.link target) => tree.jump links here target rest := by
  cases links <;> rfl

/-- What names come to before a symbolic link is followed, whatever stands behind them. -/
inductive Stretch (tree : FileTree) (here : Directory) (path : List String) : Prop where
  | fails (failure : Failure) (all : ∀ links rest, tree.follow links here (path ++ rest) = .error failure)
  | file (bytes : List UInt8) (modified : Timestamp)
    (all : ∀ links rest, tree.follow links here (path ++ rest) =
      if rest = [] then .ok (.file bytes modified) else .error .notDirectory)
  | arrives (found : Directory) (held : tree.Holding here → tree.Holding found)
    (all : ∀ links rest, tree.follow links here (path ++ rest) = tree.follow links found rest)
  | link (holder : Directory) (target : String) (behind : List String)
    (held : tree.Holding here → tree.Holding holder)
    (all : ∀ links rest, tree.follow links here (path ++ rest) = tree.jump links holder target (behind ++ rest))

theorem Stretch.cons {tree : FileTree} {here next : Directory} {name : String} {path : List String}
    (held : tree.Holding here → tree.Holding next)
    (step : ∀ links rest, tree.follow links here (name :: rest) = tree.follow links next rest)
    (later : tree.Stretch next path) : tree.Stretch here (name :: path) := by
  cases later with
  | fails failure all => exact .fails failure fun links rest => (step links _).trans (all links rest)
  | file bytes modified all => exact .file bytes modified fun links rest => (step links _).trans (all links rest)
  | arrives found kept all => exact .arrives found (kept ∘ held) fun links rest => (step links _).trans (all links rest)
  | link holder target behind kept all =>
    exact .link holder target behind (kept ∘ held) fun links rest => (step links _).trans (all links rest)

theorem stretch (tree : FileTree) (here : Directory) (path : List String) : tree.Stretch here path := by
  induction path generalizing here with
  | nil => exact .arrives here id fun links rest => rfl
  | cons name path ih =>
    have step := fun links => tree.follow_cons links here name
    by_cases stays : name = "" ∨ name = "."
    · exact .cons id (fun links rest => by rw [step, if_pos stays]) (ih here)
    by_cases climbs : name = ".."
    · exact .cons (fun _ => .parent here) (fun links rest => by rw [step, if_neg stays, if_pos climbs]) (ih _)
    by_cases long : nameLimit < name.utf8ByteSize
    · exact .fails .nameTooLong fun links rest => by
        rw [List.cons_append, step, if_neg stays, if_neg climbs, if_pos long]
    simp only [stays, climbs, long, if_false] at step
    cases found : here.node? name with
    | none => exact .fails .notFound fun links rest => by simp only [List.cons_append, step, found]
    | some node =>
      simp only [found] at step
      cases node with
      | link target => exact .link here target path id fun links rest => step links _
      | directory entries => exact .cons (fun held => held.child found) (fun links rest => step links rest) (ih _)
      | file bytes modified =>
        -- Names behind a file are not looked at, so it is the end of the path or an error.
        cases path with
        | nil => exact .file bytes modified fun links rest => step links rest
        | cons next path => exact .fails .notDirectory fun links rest => step links (next :: (path ++ rest))

section
variable {tree : FileTree} {here found : Directory} {path : List String} {links : Nat}

/-- The names behind those that lead to a directory are followed from it. -/
theorem follow_append (reached : tree.follow links here path = .ok (.directory found)) :
    (tree.Holding here → tree.Holding found) ∧
      ∃ left ≤ links, ∀ rest, tree.follow links here (path ++ rest) = tree.follow left found rest := by
  rw [← List.append_nil path] at reached
  induction links using Nat.strongRecOn generalizing here path with
  | _ links ih =>
    cases tree.stretch here path with
    | fails failure all =>
      rw [all] at reached
      cases reached
    | file bytes modified all =>
      rw [all] at reached
      cases reached
    | arrives next held all =>
      rw [all, follow_nil] at reached
      cases reached
      exact ⟨held, links, Nat.le_refl links, all links⟩
    | link holder target behind held all =>
      rw [all] at reached
      rcases jump_eq_ok_iff.mp reached with ⟨links, rfl, filled, arrived⟩
      rw [← List.append_assoc] at arrived
      obtain ⟨kept, left, fewer, onward⟩ := ih links (Nat.lt_succ_self links) arrived
      refine ⟨fun known => kept ((held known).start target), left, Nat.le_succ_of_le fewer, fun rest => ?_⟩
      rw [all, jump_succ filled, ← List.append_assoc, onward]

/-- A lookup that does not run out of links is not changed by more of them. -/
theorem follow_of_le {more : Nat} (fewer : links ≤ more) (enough : tree.follow links here path ≠ .error .tooManyLinks) :
    tree.follow more here path = tree.follow links here path := by
  rw [← List.append_nil path] at enough ⊢
  induction links using Nat.strongRecOn generalizing more here path with
  | _ links ih =>
    cases tree.stretch here path with
    | fails failure all => rw [all, all]
    | file bytes modified all => rw [all, all]
    | arrives next held all => rw [all, all, follow_nil, follow_nil]
    | link holder target behind held all =>
      rw [all] at enough
      rw [all, all]
      cases links with
      | zero => exact absurd rfl enough
      | succ links =>
        obtain ⟨more, rfl⟩ : ∃ fewer, more = fewer + 1 := ⟨more - 1, by omega⟩
        by_cases filled : target = ""
        · simp [jump, filled]
        · rw [jump_succ filled, ← List.append_assoc] at enough
          rw [jump_succ filled, jump_succ filled, ← List.append_assoc]
          exact ih links (Nat.lt_succ_self links) (Nat.le_of_succ_le_succ fewer) enough

theorem follow_empty_name (path : List String) {rest : List String} (further : rest ≠ []) :
    tree.follow links here (path ++ "" :: rest) = tree.follow links here (path ++ rest) := by
  induction links using Nat.strongRecOn generalizing here path with
  | _ links ih =>
    cases tree.stretch here path with
    | fails failure all => rw [all, all]
    | file bytes modified all => rw [all, all, if_neg further, if_neg (by simp)]
    | arrives next held all => rw [all, all, follow_cons, if_pos (Or.inl rfl)]
    | link holder target behind held all =>
      rw [all, all]
      cases links with
      | zero => rfl
      | succ links =>
        by_cases filled : target = ""
        · simp [jump, filled]
        · rw [jump_succ filled, jump_succ filled, ← List.append_assoc, ← List.append_assoc,
            ih links (Nat.lt_succ_self links)]

end

theorem names_of_notMem {name : String} (whole : '/' ∉ name.toList) : names name = [name] := by
  rw [names, List.splitOn_eq_singleton whole, List.map_singleton, String.ofList_toList]

/-- A name joined to a path comes behind the names of the path, but for an empty one at its end. -/
theorem follow_names_join (tree : FileTree) (links : Nat) (here : Directory) {path name : String} (filled : path ≠ "")
    (relative : name.toList.head? ≠ some '/') :
    tree.follow links here (names (Path.join path name)) = tree.follow links here (names path ++ names name) := by
  have chars : path.toList ≠ [] := by simpa using filled
  have further : names name ≠ [] := by simp [names]
  by_cases closed : path.toList.getLast? = some '/'
  · obtain ⟨before, split⟩ : ∃ before, path.toList = before ++ ['/'] := List.getLast?_eq_some_iff.mp closed
    have whole : names path = (before.splitOn '/').map String.ofList ++ [""] := by
      rw [names, split, List.splitOn_append_cons_self]
      simp
    have joined : names (Path.join path name) = (before.splitOn '/').map String.ofList ++ names name := by
      rw [names, Path.join, String.toList_ofList, Path.joinChars, if_neg relative, if_pos (Or.inr closed), split,
        List.append_assoc, List.singleton_append, List.splitOn_append_cons_self, List.map_append, names]
    rw [whole, joined, List.append_assoc, List.singleton_append, follow_empty_name _ further]
  · have joined : names (Path.join path name) = names path ++ names name := by
      rw [names, Path.join, String.toList_ofList, Path.joinChars, if_neg relative, if_neg (by simp [chars, closed]),
        List.splitOn_append_cons_self, List.map_append, names, names]
    rw [joined]

theorem isAbsolute_join {path name : String} (filled : path ≠ "") (relative : name.toList.head? ≠ some '/') :
    Path.isAbsolute (Path.join path name) = Path.isAbsolute path := by
  obtain ⟨c, rest, split⟩ := List.exists_cons_of_ne_nil (show path.toList ≠ [] by simpa using filled)
  have first : (Path.joinChars path.toList name.toList).head? = some c := by
    unfold Path.joinChars
    rw [if_neg relative, split]
    split <;> rfl
  rw [Path.isAbsolute, Path.isAbsolute, Path.join, String.toList_ofList, first, split, List.head?_cons]

theorem directoryAt_eq_ok_iff {tree : FileTree} {path : String} {directory : Directory} :
    tree.directoryAt path = .ok directory ↔ tree.resolve path = .ok (.directory directory) := by
  unfold directoryAt
  cases tree.resolve path with
  | error failure => simp [bind, Except.bind]
  | ok target => cases target <;> simp [bind, Except.bind, Target.asDirectory]

theorem resolve_eq_ok_iff {tree : FileTree} {path : String} {target : Target} :
    tree.resolve path = .ok target ↔ path ≠ "" ∧ hasNull path = false ∧ path.utf8ByteSize ≤ pathLimit ∧
      tree.followFrom (tree.base path) (names path) = .ok target := by
  unfold resolve
  by_cases named : path = "" ∨ hasNull path = true
  · rw [if_pos named]
    rcases named with rfl | null
    · simp
    · simp [null]
  rw [if_neg named]
  obtain ⟨filled, plain⟩ := not_or.mp named
  by_cases long : pathLimit < path.utf8ByteSize
  · simp [long, Nat.not_le.mpr long]
  · simp [filled, plain, long, Nat.le_of_not_lt long]

theorem followFrom_eq_ok_iff {tree : FileTree} {place : Place} {path : List String} {target : Target} :
    tree.followFrom place path = .ok target ↔
      ∃ here, tree.directory? place = some here ∧ tree.follow linkLimit here path = .ok target := by
  unfold followFrom
  cases tree.directory? place <;> simp

section
variable {tree : FileTree} {path : String} {directory : Directory}

theorem holding_of_directoryAt (found : tree.directoryAt path = .ok directory) : tree.Holding directory := by
  obtain ⟨-, -, -, reached⟩ := resolve_eq_ok_iff.mp (directoryAt_eq_ok_iff.mp found)
  obtain ⟨here, start, followed⟩ := followFrom_eq_ok_iff.mp reached
  refine (follow_append followed).1 ?_
  rw [Holding, (directory?_eq_some_iff.mp start).1, start]

theorem directoryAt_of_place (place : Place) (reached : (tree.directoryAt path).toOption.map Directory.place = some place)
    (there : tree.directory? place = some directory) : tree.directoryAt path = .ok directory := by
  cases found : tree.directoryAt path with
  | error failure => simp [found, Except.toOption] at reached
  | ok holder =>
    have same : holder.place = place := by simpa [found, Except.toOption] using reached
    have held := holding_of_directoryAt found
    rw [Holding, same, there] at held
    rw [Option.some.inj held]

/-- What is joined to the path of a directory is looked up in the directory, with the links that are left. -/
theorem followFrom_join (found : tree.directoryAt path = .ok directory) :
    ∃ left ≤ linkLimit, ∀ name : String, name.toList.head? ≠ some '/' →
      tree.followFrom (tree.base (Path.join path name)) (names (Path.join path name)) =
        tree.follow left directory (names name) := by
  obtain ⟨filled, -, -, reached⟩ := resolve_eq_ok_iff.mp (directoryAt_eq_ok_iff.mp found)
  obtain ⟨here, start, followed⟩ := followFrom_eq_ok_iff.mp reached
  obtain ⟨-, left, fewer, onward⟩ := follow_append followed
  refine ⟨left, fewer, fun name relative => ?_⟩
  simp only [followFrom, base, isAbsolute_join filled relative]
  simp only [base] at start
  simp only [start, follow_names_join tree linkLimit here filled relative, onward]

structure IsName (name : String) : Prop where
  filled : name ≠ ""
  notHere : name ≠ "."
  notAbove : name ≠ ".."
  whole : '/' ∉ name.toList
  plain : hasNull name = false
  short : name.utf8ByteSize ≤ nameLimit

instance (name : String) : Decidable (IsName name) :=
  decidable_of_iff (name ≠ "" ∧ name ≠ "." ∧ name ≠ ".." ∧ '/' ∉ name.toList ∧ hasNull name = false ∧
      name.utf8ByteSize ≤ nameLimit)
    ⟨fun ⟨filled, notHere, notAbove, whole, plain, short⟩ => ⟨filled, notHere, notAbove, whole, plain, short⟩,
      fun named => ⟨named.filled, named.notHere, named.notAbove, named.whole, named.plain, named.short⟩⟩

theorem IsName.relative {name : String} (named : IsName name) : name.toList.head? ≠ some '/' :=
  fun slash => named.whole (List.mem_of_head? slash)

theorem IsName.hasNull_join {name : String} (named : IsName name) (plain : hasNull path = false) :
    hasNull (Path.join path name) = false := by
  have free := named.plain
  simp only [hasNull, List.contains_eq_mem, decide_eq_false_iff_not] at plain free ⊢
  rw [Path.join, String.toList_ofList, Path.joinChars, if_neg named.relative]
  split <;> simp [plain, free]

theorem IsName.join_ne_empty {name : String} (named : IsName name) : Path.join path name ≠ "" := by
  have chars : name.toList ≠ [] := by simpa using named.filled
  intro empty
  have none := congrArg String.toList empty
  rw [Path.join, String.toList_ofList, Path.joinChars, if_neg named.relative] at none
  split at none <;> simp_all

theorem resolve_join (found : tree.directoryAt path = .ok directory) :
    ∃ left ≤ linkLimit, ∀ name, IsName name → tree.resolve (Path.join path name) =
      if pathLimit < (Path.join path name).utf8ByteSize then .error .nameTooLong
      else tree.follow left directory [name] := by
  obtain ⟨left, fewer, onward⟩ := followFrom_join found
  refine ⟨left, fewer, fun name named => ?_⟩
  have plain := named.hasNull_join (resolve_eq_ok_iff.mp (directoryAt_eq_ok_iff.mp found)).2.1
  rw [resolve, if_neg (by simp [named.join_ne_empty, plain]), onward name named.relative, names_of_notMem named.whole]

/-- The path of an entry tells its directory and its name. -/
theorem eq_of_join_eq {other : String} {holder : Directory} {name given : String}
    (found : tree.directoryAt path = .ok directory) (foundToo : tree.directoryAt other = .ok holder)
    (named : IsName name) (namedToo : IsName given) (same : Path.join path name = Path.join other given) :
    directory = holder ∧ name = given := by
  have chars : Path.joinChars path.toList [] ++ name.toList = Path.joinChars other.toList [] ++ given.toList := by
    rw [← Path.joinChars_of_relative _ named.relative, ← Path.joinChars_of_relative _ namedToo.relative]
    exact String.ofList_injective same
  -- What stands in front of the names ends in a slash, and the names have none.
  have ends {text : String} (filled : text ≠ "") : ∃ before, Path.joinChars text.toList [] = before ++ ['/'] := by
    by_cases closed : text.toList.getLast? = some '/'
    · obtain ⟨before, split⟩ := List.getLast?_eq_some_iff.mp closed
      exact ⟨before, by simp [Path.joinChars, split]⟩
    · exact ⟨text.toList, by simp [Path.joinChars, closed, filled]⟩
  obtain ⟨front, split⟩ := ends (resolve_eq_ok_iff.mp (directoryAt_eq_ok_iff.mp found)).1
  obtain ⟨frontToo, splitToo⟩ := ends (resolve_eq_ok_iff.mp (directoryAt_eq_ok_iff.mp foundToo)).1
  have last : name.toList = given.toList := by
    have pieces := congrArg (List.splitOn '/') chars
    simp only [split, splitToo, List.append_assoc, List.singleton_append, List.splitOn_append_cons_self,
      List.splitOn_eq_singleton named.whole, List.splitOn_eq_singleton namedToo.whole] at pieces
    exact (List.append_inj' pieces rfl).2 |> List.singleton_inj.mp
  have fronts : Path.join path "" = Path.join other "" := by
    rw [last] at chars
    exact congrArg String.ofList (List.append_cancel_right chars)
  obtain ⟨left, -, onward⟩ := followFrom_join found
  obtain ⟨leftToo, -, onwardToo⟩ := followFrom_join foundToo
  have here := onward "" (by simp)
  rw [fronts, onwardToo "" (by simp), names_of_notMem (by simp)] at here
  simp only [follow_cons, true_or, if_true, follow_nil, Except.ok.injEq, Target.directory.injEq] at here
  exact ⟨here.symm, String.toList_inj.mp last⟩

end

/-- A path behind so many names that stand for the directory reached so far. -/
def dotted : Nat → String → String
  | 0, path => path
  | count + 1, path => "./" ++ dotted count path

section
variable (count : Nat) {path : String}

theorem utf8ByteSize_dotted (path : String) : (dotted count path).utf8ByteSize = 2 * count + path.utf8ByteSize := by
  induction count with
  | zero => simp [dotted]
  | succ count ih =>
    rw [dotted, String.utf8ByteSize_append, ih, show "./".utf8ByteSize = 2 from rfl]
    omega

theorem names_dotted (path : String) :
    names (dotted count path) = List.replicate count "." ++ names path := by
  induction count with
  | zero => rfl
  | succ count ih =>
    have text : (dotted (count + 1) path).toList = ['.'] ++ '/' :: (dotted count path).toList := by
      simp [dotted]
    rw [names, text, List.splitOn_append_cons_self, List.map_append, ← names, ih]
    rfl

theorem hasNull_dotted (path : String) : hasNull (dotted count path) = hasNull path := by
  induction count with
  | zero => rfl
  | succ count ih =>
    rw [← ih]
    simp [hasNull, dotted]

theorem isAbsolute_dotted (relative : Path.isAbsolute path = false) : Path.isAbsolute (dotted count path) = false := by
  cases count with
  | zero => exact relative
  | succ count => simp [Path.isAbsolute, dotted]

theorem dotted_ne_empty (filled : path ≠ "") : dotted count path ≠ "" := by
  cases count with
  | zero => exact filled
  | succ count => simp [dotted]

theorem join_append (front : String) (filled : path ≠ "") {name : String} (relative : name.toList.head? ≠ some '/') :
    Path.join (front ++ path) name = front ++ Path.join path name := by
  have chars : path.toList ≠ [] := by simpa using filled
  have last : (front.toList ++ path.toList).getLast? = path.toList.getLast? := List.getLast?_append_of_ne_nil _ chars
  apply String.toList_inj.mp
  by_cases closed : path.toList.getLast? = some '/' <;>
    simp [Path.join, Path.joinChars, relative, filled, last, closed]

theorem join_dotted (filled : path ≠ "") {name : String} (relative : name.toList.head? ≠ some '/') :
    Path.join (dotted count path) name = dotted count (Path.join path name) := by
  induction count with
  | zero => rfl
  | succ count ih => rw [dotted, dotted, join_append "./" (dotted_ne_empty count filled) relative, ih]

theorem follow_dots (tree : FileTree) (links : Nat) (here : Directory) (rest : List String) :
    tree.follow links here (List.replicate count "." ++ rest) = tree.follow links here rest := by
  induction count with
  | zero => rfl
  | succ count ih => rw [List.replicate_succ, List.cons_append, follow_cons, if_pos (Or.inr rfl), ih]

theorem directoryAt_dotted (tree : FileTree) (filled : path ≠ "") (plain : hasNull path = false)
    (relative : Path.isAbsolute path = false) :
    tree.directoryAt (dotted count path) =
      if pathLimit < 2 * count + path.utf8ByteSize then .error .nameTooLong else tree.directoryAt path := by
  have found : tree.followFrom (tree.base (dotted count path)) (names (dotted count path)) =
      tree.followFrom (tree.base path) (names path) := by
    simp only [base, isAbsolute_dotted count relative, relative, followFrom, names_dotted, follow_dots]
  simp only [directoryAt, resolve, dotted_ne_empty count filled, filled, hasNull_dotted, plain,
    utf8ByteSize_dotted, found, false_or, Bool.false_eq_true, if_false]
  split
  · rfl
  · rw [if_neg (by omega)]

end

theorem Node.directories_subset {place : Place} {name : String} {node : Node} {entries : List (String × Node)}
    (member : (name, node) ∈ entries) : node.directories (name :: place) ⊆ directoriesAmong place entries := by
  induction entries with
  | nil => cases member
  | cons entry rest ih =>
    obtain ⟨first, other⟩ := entry
    rw [directoriesAmong]
    rcases List.mem_cons.mp member with same | later
    · cases same
      exact List.subset_append_left _ _
    · exact List.subset_append_of_subset_right _ (ih later)

theorem Holding.mem_directories {tree : FileTree} {directory : Directory} (held : tree.Holding directory) :
    directory.place ∈ tree.directories := by
  obtain ⟨place, entries⟩ := directory
  have found := (directory?_eq_some_iff.mp held).2
  clear held
  -- With a directory stand those inside it, which the induction needs for the next place.
  suffices Node.directories place (.directory entries) ⊆ tree.directories from
    this (by simp [Node.directories])
  induction place generalizing entries with
  | nil =>
    cases found
    exact List.Subset.refl _
  | cons name above ih =>
    simp only [node?] at found
    split at found
    · rename_i outer parent
      refine List.Subset.trans ?_ (ih outer parent)
      rw [Node.directories]
      exact List.subset_cons_of_subset _
        (Node.directories_subset (OrderedMap.mem_entries_of_get? found))
    · cases found

/-- The entries of a directory have names, and no two the same. -/
structure Directory.Proper (directory : Directory) : Prop where
  distinct : (directory.entries.map Prod.fst).Nodup
  named : ∀ entry ∈ directory.entries, IsName entry.1

instance (directory : Directory) : Decidable directory.Proper :=
  decidable_of_iff ((directory.entries.map Prod.fst).Nodup ∧ ∀ entry ∈ directory.entries, IsName entry.1)
    ⟨fun ⟨distinct, named⟩ => ⟨distinct, named⟩, fun proper => ⟨proper.distinct, proper.named⟩⟩

/-- A tree as a file system can have it. -/
def WellFormed (tree : FileTree) : Prop := ∀ directory, tree.Holding directory → directory.Proper

theorem WellFormed.proper {tree : FileTree} (wellFormed : tree.WellFormed) {path : String} {directory : Directory}
    (found : tree.directoryAt path = .ok directory) : directory.Proper :=
  wellFormed directory (holding_of_directoryAt found)

instance (tree : FileTree) : Decidable tree.WellFormed :=
  decidable_of_iff (∀ place ∈ tree.directories, ∀ directory ∈ tree.directory? place, directory.Proper) <| by
    constructor
    · intro each directory held
      exact each directory.place held.mem_directories directory held
    · intro wellFormed place _ directory found
      refine wellFormed directory ?_
      rw [Holding, (directory?_eq_some_iff.mp found).1, Option.mem_def.mp found]

end KernelAtlas.FileTree
