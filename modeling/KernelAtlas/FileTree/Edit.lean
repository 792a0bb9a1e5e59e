import KernelAtlas.FileTree

/-! Changes to a file tree: making directories, writing nodes, with the directories above them, and
removing them. -/

set_option autoImplicit false

namespace KernelAtlas.FileTree

/-- Changes the entries of the directory to which names lead down from given entries. Names that lead to no
directory change nothing. -/
def alterBelow (change : List (String × Node) → List (String × Node)) :
    List String → List (String × Node) → List (String × Node)
  | [], entries => change entries
  | name :: rest, entries =>
    entries.map fun entry =>
      match entry.2 with
      | .directory inner => if entry.1 = name then (name, .directory (alterBelow change rest inner)) else entry
      | _ => entry

def alter (tree : FileTree) (place : Place) (change : List (String × Node) → List (String × Node)) : FileTree :=
  { tree with entries := alterBelow change place.reverse tree.entries }

def put (tree : FileTree) (directory : Place) (name : String) (node : Node) : FileTree :=
  tree.alter directory (OrderedMap.alterEntries name fun _ => node)

def enter (tree : FileTree) (here : Place) (name : String) : FileTree × Place :=
  if name = "" ∨ name = "." then (tree, here)
  else if name = ".." then (tree, here.tail)
  else
    match tree.node? (name :: here) with
    | none => (tree.put here name (.directory []), name :: here)
    | some (.link _) =>
      match tree.followFrom here [name] with
      | .ok (.directory target) => (tree, target.place)
      | _ => (tree, name :: here)
    | some _ => (tree, name :: here)

def enterAll (tree : FileTree) (here : Place) (names : List String) : FileTree × Place :=
  names.foldl (fun state name => state.1.enter state.2 name) (tree, here)

def trimmedNames (path : String) : List String :=
  ((names path).reverse.dropWhile (· = "")).reverse

def makeDirectory (tree : FileTree) (path : String) : FileTree :=
  (tree.enterAll (tree.base path) (trimmedNames path)).1

/-- Puts a node at a path. Missing directories above it are made, and what stood at the path itself, also a
symbolic link, is replaced. -/
def write (tree : FileTree) (path : String) (node : Node) : FileTree :=
  match (trimmedNames path).reverse with
  | [] => tree
  | name :: above =>
    let (tree, here) := tree.enterAll (tree.base path) above.reverse
    tree.put here name node

def removeAt (tree : FileTree) : Place → FileTree
  | [] => { tree with entries := [] }
  | name :: above => tree.alter above fun entries => entries.filter fun entry => entry.1 ≠ name

/-- The place of the node that a path names. A symbolic link at the end of the path is not followed, unless
the path goes on with a slash or a name that stands for a directory. -/
def named (tree : FileTree) (path : String) : Except Failure Place :=
  match (names path).reverse with
  | [] => .error .notFound
  | name :: above =>
    if name = "" ∨ name = "." ∨ name = ".." then do
      let directory ← tree.directoryAt path
      return directory.place
    else do
      let target ← tree.followFrom (tree.base path) above.reverse
      let directory ← target.asDirectory
      return name :: directory.place

def remove (tree : FileTree) (path : String) : FileTree :=
  match tree.named path with
  | .error _ => tree
  | .ok place => tree.removeAt place

end KernelAtlas.FileTree
