import KernelAtlas.FileTree

/-! The walk through a directory and all that lies below it, symbolic links included.

Directories are visited before what they hold, in the order of their names. A directory that is
reached a second time is not entered again, so the walk ends in spite of cycles of links: every step
that goes deeper uses up one directory of the tree. -/

set_option autoImplicit false

namespace KernelAtlas.FileTree

inductive Visit where
  | entered (path : String) (directory : Directory)
  | repeated (path : String)
  | refused (path : String) (failure : Failure)

mutual

def Node.directories (place : Place) : Node → List Place
  | .directory entries => place :: directoriesAmong place entries
  | _ => []

def directoriesAmong (place : Place) : List (String × Node) → List Place
  | [] => []
  | (name, node) :: rest => node.directories (name :: place) ++ directoriesAmong place rest

end

def directories (tree : FileTree) : List Place := [] :: directoriesAmong [] tree.entries

def sortNames (names : List String) : List String := names.mergeSort fun left right => left ≤ right

/-- Whether an entry of a directory leads to a directory. Only a symbolic link is looked up by its path. -/
def leadsToDirectory (tree : FileTree) (path : String) (entry : String × Node) : Bool :=
  match entry.2 with
  | .directory _ => true
  | .link _ => tree.isDirectory (Path.join path entry.1)
  | .file _ _ => false

def subdirectories (tree : FileTree) (path : String) (directory : Directory) : List String :=
  sortNames ((directory.entries.filter (tree.leadsToDirectory path)).map Prod.fst)

/-- The entries of a directory that do not, by name; a link that leads nowhere is among them. -/
def plainEntries (tree : FileTree) (path : String) (directory : Directory) : List String :=
  sortNames ((directory.entries.filter fun entry => !tree.leadsToDirectory path entry).map Prod.fst)

def without (places : List Place) (place : Place) : List Place := places.filter (· ≠ place)

@[simp] theorem mem_without {places : List Place} {place other : Place} :
    other ∈ without places place ↔ other ∈ places ∧ other ≠ place := by
  simp [without]

theorem length_without_lt {places : List Place} {place : Place} (present : place ∈ places) :
    (without places place).length < places.length :=
  List.length_filter_lt_length_iff_exists.mpr ⟨place, present, by simp⟩

/-- Visits the pending paths; `remaining` holds the places of the directories not entered so far. -/
def walkFrom (tree : FileTree) (remaining : List Place) : List String → List Visit
  | [] => []
  | path :: pending =>
    match tree.directoryAt path with
    | .error failure => .refused path failure :: tree.walkFrom remaining pending
    | .ok directory =>
      if _fresh : directory.place ∈ remaining then
        .entered path directory ::
          tree.walkFrom (without remaining directory.place)
            ((tree.subdirectories path directory).map (Path.join path) ++ pending)
      else .repeated path :: tree.walkFrom remaining pending
termination_by pending => (remaining.length, pending.length)
decreasing_by
  · exact Prod.Lex.right _ (by simp)
  · exact Prod.Lex.left _ _ (length_without_lt _fresh)
  · exact Prod.Lex.right _ (by simp)

def walk (tree : FileTree) (path : String) : List Visit := tree.walkFrom tree.directories [path]

end KernelAtlas.FileTree
