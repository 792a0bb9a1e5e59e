import KernelAtlas.Command
import KernelAtlas.FileTree.Edit

/-! The program. It takes a picture of the files that a command may look at, runs the command on the
picture, and prints what comes of it. No demangler is run, so symbols are shown as they are. -/

set_option autoImplicit false

namespace KernelAtlas

/-- What a command sees besides the files: it has no demangler, and limits of its own. -/
def surroundings (tree : FileTree) (environment : String) : Command.World where
  tree := tree
  environment := environment
  demangler := fun _ => .missing
  nesting := 989
  denied := none
  room := Nat.pow 2 30

structure Picture where
  tree : FileTree
  listed : List String

namespace Picture

def entryAt (directory name : String) : IO.FS.DirEntry := { root := directory, fileName := name }

def time (seen : IO.FS.SystemTime) : Timestamp := ⟨seen.sec * Timestamp.perSecond + seen.nsec.toNat⟩

def real? (path : String) : IO (Option String) := do
  try
    return some (← IO.FS.realPath path).toString
  catch _ =>
    return none

def addFile (wanted : String → Bool) (picture : Picture) (directory name : String) : IO Picture := do
  let entry := entryAt directory name
  if (picture.tree.read entry.path.toString).isOk then return picture
  let bytes ← if wanted name then IO.FS.readBinFile entry.path else pure ByteArray.empty
  let modified := time (← entry.path.metadata).modified
  return { picture with tree := picture.tree.write entry.path.toString (.file bytes.toList modified) }

mutual

partial def addDirectory (wanted : String → Bool) (picture : Picture) (path : String) : IO Picture := do
  if picture.listed.contains path then return picture
  let start : Picture := ⟨picture.tree.makeDirectory path, path :: picture.listed⟩
  (← (entryAt path "").root.readDir).foldlM (fun picture entry => addEntry wanted picture path entry.fileName) start

partial def addEntry (wanted : String → Bool) (picture : Picture) (directory name : String) : IO Picture := do
  let entry := entryAt directory name
  match (← entry.path.symlinkMetadata).type with
  | .dir => addDirectory wanted picture entry.path.toString
  | .file => addFile wanted picture directory name
  | .symlink =>
    let target := (← real? entry.path.toString).getD ""
    let picture := { picture with tree := picture.tree.write entry.path.toString (.link target) }
    if target = "" then return picture else addReal wanted picture target
  | .other => return picture

partial def addReal (wanted : String → Bool) (picture : Picture) (path : String) : IO Picture := do
  match (← (entryAt path "").root.metadata).type with
  | .dir => addDirectory wanted picture path
  | _ => addFile wanted picture (String.ofList (path.toList.take (path.length - (Path.baseName path).length))) (Path.baseName path)

end

def add (wanted : String → Bool) (working : String) (picture : Picture) (path : String) : IO Picture := do
  match ← real? path with
  | none => return picture
  | some target =>
    let written := Path.normalize (Path.join working path)
    let tree := if written = target then picture.tree else picture.tree.write written (.link target)
    addReal wanted { picture with tree := tree } target

/-- The settings file of a workspace, then all that its build directories hold. -/
def take (working environment : String) (scope : Command.Scope) : IO FileTree := do
  let start : Picture := ⟨.ofWorking ((FileTree.names working).filter (· ≠ "")), []⟩
  let picture ← add (fun _ => true) working start (Config.settingsPath scope.workspace)
  match ((surroundings picture.tree environment).config scope).result with
  | .error _ => return picture.tree
  | .ok config =>
    let paths := (config.buildDirectories.filterMap Text.ofPoints?).map (Path.join scope.workspace)
    return (← paths.foldlM (add config.isAssemblyFile working) picture).tree

end Picture

end KernelAtlas

def main (arguments : List String) : IO UInt32 := do
  let environment := (← IO.getEnv "HIPSTER_BUILD_DIRECTORIES").getD ""
  let working := (← IO.currentDir).toString
  let tree ← match KernelAtlas.Command.Invocation.ofArguments arguments with
    | .error _ => pure (KernelAtlas.FileTree.ofWorking [])
    | .ok invocation => KernelAtlas.Picture.take working environment invocation.scope
  match KernelAtlas.Command.run (KernelAtlas.surroundings tree environment) arguments with
  | .ok answer =>
    IO.eprint (KernelAtlas.Text.printed answer.errors)
    IO.print answer.output
    return answer.status.toUInt32
  | .error failure =>
    IO.eprintln failure.message
    return 1
