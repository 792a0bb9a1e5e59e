import KernelAtlas.OrderedMap
import KernelAtlas.Path
import KernelAtlas.Text.Quoted
import KernelAtlas.Timestamp

/-! A finite file tree with symbolic links, and the lookup of paths in it.

A directory holds its entries, so the tree is known by the entries of its root. A lookup walks down from a
directory, one name at a time, and carries the entries that it has come to; it follows symbolic links, up
to a limit, and ends at a directory or a file. Names and paths have a greatest length in bytes. -/

set_option autoImplicit false

namespace KernelAtlas

/-- The names that lead to a node: its own name first, then those of the directories above it. The root has
the empty place. -/
abbrev Place := List String

namespace FileTree

inductive Node where
  | file (bytes : List UInt8) (modified : Timestamp)
  | link (target : String)
  | directory (entries : List (String × Node))

structure Directory where
  place : Place
  entries : List (String × Node)

def Directory.node? (directory : Directory) (name : String) : Option Node := OrderedMap.get? ⟨directory.entries⟩ name

/-- What a path leads to once every symbolic link has been followed. -/
inductive Target where
  | file (bytes : List UInt8) (modified : Timestamp)
  | directory (directory : Directory)

inductive Failure where
  | notFound
  | notDirectory
  | nameTooLong
  | tooManyLinks
  deriving DecidableEq, Repr

def Failure.code : Failure → Nat
  | notFound => 2
  | notDirectory => 20
  | nameTooLong => 36
  | tooManyLinks => 40

def Failure.reason : Failure → String
  | notFound => "No such file or directory"
  | notDirectory => "Not a directory"
  | nameTooLong => "File name too long"
  | tooManyLinks => "Too many levels of symbolic links"

def Failure.message (failure : Failure) (path : String) : String :=
  s!"[Errno {failure.code}] {failure.reason}: {Text.quoted path}"

end FileTree

open FileTree

structure FileTree where
  /-- The entries of the root directory. -/
  entries : List (String × Node)
  /-- The directory that relative paths start from. -/
  working : Place

namespace FileTree

def nested : List String → List (String × Node)
  | [] => []
  | name :: rest => [(name, .directory (nested rest))]

/-- A tree that holds nothing but the working directory and those above it, named from the root on. -/
def ofWorking (names : List String) : FileTree := ⟨nested names, names.reverse⟩

def root (tree : FileTree) : Directory := ⟨[], tree.entries⟩

/-- The node at a place. Only directories have nodes below them. -/
def node? (tree : FileTree) : Place → Option Node
  | [] => some (.directory tree.entries)
  | name :: above =>
    match tree.node? above with
    | some (.directory entries) => OrderedMap.get? ⟨entries⟩ name
    | _ => none

def directory? (tree : FileTree) (place : Place) : Option Directory :=
  match tree.node? place with
  | some (.directory entries) => some ⟨place, entries⟩
  | _ => none

@[simp] theorem directory?_nil (tree : FileTree) : tree.directory? [] = some tree.root := rfl

theorem directory?_eq_some_iff {tree : FileTree} {place : Place} {directory : Directory} :
    tree.directory? place = some directory ↔
      directory.place = place ∧ tree.node? place = some (.directory directory.entries) := by
  obtain ⟨held, entries⟩ := directory
  unfold directory?
  split
  · rename_i found
    rw [found]
    simp [eq_comm]
  · rename_i other
    simp only [reduceCtorEq, false_iff]
    exact fun ⟨_, found⟩ => other _ found

theorem node?_cons {tree : FileTree} {place : Place} {directory : Directory} (found : tree.directory? place = some directory)
    (name : String) : tree.node? (name :: place) = directory.node? name := by
  have entries := (directory?_eq_some_iff.mp found).2
  simp only [node?, entries, Directory.node?]

def parent (tree : FileTree) (directory : Directory) : Directory := (tree.directory? directory.place.tail).getD tree.root

/-- The names of a path; empty names and `.` stand for the directory reached so far. -/
def names (path : String) : List String := (path.toList.splitOn '/').map String.ofList

def linkLimit : Nat := 40

def nameLimit : Nat := 255

def pathLimit : Nat := 4095

/-- Follows names from a directory. Below a file there is nothing, not even itself. A symbolic link is left to
`jump`, with the directory that holds it, its target and the names behind it. -/
def followWith (tree : FileTree) (jump : Directory → String → List String → Except Failure Target) (here : Directory) :
    List String → Except Failure Target
  | [] => .ok (.directory here)
  | name :: rest =>
    if name = "" ∨ name = "." then tree.followWith jump here rest
    else if name = ".." then tree.followWith jump (tree.parent here) rest
    else if nameLimit < name.utf8ByteSize then .error .nameTooLong
    else
      match here.node? name with
      | none => .error .notFound
      | some (.file bytes modified) => if rest = [] then .ok (.file bytes modified) else .error .notDirectory
      | some (.directory entries) => tree.followWith jump ⟨name :: here.place, entries⟩ rest
      | some (.link target) => jump here target rest

def follow (tree : FileTree) : Nat → Directory → List String → Except Failure Target
  | 0 => tree.followWith fun _ _ _ => .error .tooManyLinks
  | links + 1 => tree.followWith fun here target rest =>
    if target = "" then .error .notFound
    else tree.follow links (if Path.isAbsolute target then tree.root else here) (names target ++ rest)

def followFrom (tree : FileTree) (place : Place) (names : List String) : Except Failure Target :=
  match tree.directory? place with
  | none => .error .notFound
  | some here => tree.follow linkLimit here names

def base (tree : FileTree) (path : String) : Place := if Path.isAbsolute path then [] else tree.working

def hasNull (path : String) : Bool := path.toList.contains (Char.ofNat 0)

def resolve (tree : FileTree) (path : String) : Except Failure Target :=
  if path = "" ∨ hasNull path = true then .error .notFound
  else if pathLimit < path.utf8ByteSize then .error .nameTooLong
  else tree.followFrom (tree.base path) (names path)

def Target.asDirectory : Target → Except Failure Directory
  | directory found => .ok found
  | file _ _ => .error .notDirectory

def directoryAt (tree : FileTree) (path : String) : Except Failure Directory := tree.resolve path >>= Target.asDirectory

def isDirectory (tree : FileTree) (path : String) : Bool := (tree.directoryAt path).isOk

/-- The contents of a file and its time of modification in seconds. A directory cannot be read as a file. -/
def read (tree : FileTree) (path : String) : Except Failure (List UInt8 × Binary64) :=
  match tree.resolve path with
  | .error failure => .error failure
  | .ok (.file bytes modified) => .ok (bytes, modified.seconds)
  | .ok (.directory _) => .error .notFound

end FileTree

end KernelAtlas
