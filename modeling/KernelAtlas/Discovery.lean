import KernelAtlas.Config
import KernelAtlas.FileTree.Walk
import KernelAtlas.Kernel

/-! Discovery of assembly files and their kernels in the build directories of a workspace.

A directory that is missing and a file that cannot be read are reported and passed over. -/

set_option autoImplicit false

namespace KernelAtlas

open Numeral (Oversize)

namespace Discovery

inductive Finding where
  | listing (listing : Listing)
  | entry (entry : Journal.Entry)

def Finding.listing? : Finding → Option Listing
  | listing found => some found
  | entry _ => none

def Finding.entry? : Finding → Option Journal.Entry
  | listing _ => none
  | entry found => some found

def fileFinding (tree : FileTree) (buildTag path : String) : Finding :=
  match tree.read path with
  | .ok (bytes, modified) => .listing ⟨path, buildTag, modified, Listing.linesOfBytes bytes⟩
  | .error failure =>
    .entry (.diagnostic ⟨.unreadableFile, s!"Failed to read assembly file {path}: {failure.message path}", some path, none⟩)

def visitFindings (tree : FileTree) (config : Config) (buildTag : String) : FileTree.Visit → List Finding
  | .refused path failure =>
    [.entry (.diagnostic ⟨.unreadableFile, s!"Cannot list directory: {failure.reason}", some path, none⟩)]
  | .repeated path => [.entry (.progress (.revisited path))]
  | .entered path directory =>
    ((tree.plainEntries path directory).filter fun name => config.isAssemblyFile name).map fun name =>
      fileFinding tree buildTag (Path.join path name)

def findings (tree : FileTree) (config : Config) (path buildTag : String) : List Finding :=
  (tree.walk path).flatMap (visitFindings tree config buildTag)

def scanDirectory {ε : Type} (tree : FileTree) (config : Config) (path buildTag : String) : Recorded ε (List Listing) :=
  let found := findings tree config path buildTag
  ⟨found.filterMap Finding.entry?, .ok (found.filterMap Finding.listing?)⟩

inductive Failure where
  | nullInPath
  deriving DecidableEq, Repr

def Failure.message : Failure → String
  | nullInPath => "embedded null byte"

/-- The assembly files below a directory that need not be there. -/
def scanPath (tree : FileTree) (config : Config) (path buildTag : String) : Recorded Failure (List Listing) :=
  if FileTree.hasNull path then .fail .nullInPath else scanDirectory tree config path buildTag

/-- The name of a configured build directory, if it is there. No directory has a name in which a surrogate
stands alone. -/
def presentBuild? (tree : FileTree) (workspace : String) (directory : Text.Points) : Option String :=
  (Text.ofPoints? directory).filter fun buildTag => tree.isDirectory (Path.join workspace buildTag)

def scanBuild (tree : FileTree) (config : Config) (workspace : String) (directory : Text.Points) :
    Recorded Oversize (List Listing) :=
  match presentBuild? tree workspace directory with
  | some buildTag => do
    let path := Path.join workspace buildTag
    Recorded.note (.scanning path)
    let found ← scanDirectory tree config path buildTag
    Recorded.note (.scanned found.length buildTag)
    return found
  | none => do
    let path := Path.joinPoints workspace directory
    Recorded.report ⟨.missingBuildDirectory, "Build directory not found", some path, none⟩
    return []

/-- The assembly files of all build directories, in the order of the configuration. -/
def scan (tree : FileTree) (config : Config) (workspace : String) : Recorded Oversize (List Listing) := do
  let found ← config.buildDirectories.mapM (scanBuild tree config workspace)
  let listings := found.flatten
  Recorded.note (.scannedAll listings.length config.buildDirectories.length)
  return listings

def dumps (tree : FileTree) (config : Config) (workspace : String) : Recorded Oversize (List Dump) := do
  let listings ← scan tree config workspace
  let dumps ← listings.mapM Dump.ofListing
  Recorded.note (.discovered (kernelsOf dumps).length)
  return dumps

end Discovery

end KernelAtlas
