import KernelAtlas.FileTree
import KernelAtlas.Journal
import KernelAtlas.Json.Reader
import KernelAtlas.Text.Lines
import KernelAtlas.Text.Utf8

/-! The settings of a workspace: where to look for assembly files, how they are named, and how symbols
are demangled.

The build directories come from the first of these that gives any: an explicit list, the environment,
the settings file of the workspace's editor, the default. The settings file is read in any case, and a
malformed one is an error also if its list would not be used. -/

set_option autoImplicit false

namespace KernelAtlas

structure Config where
  buildDirectories : List Text.Points
  /-- The text that the name of an assembly file holds. -/
  targetMark : String
  /-- The text that the name of an assembly file ends in. -/
  assemblySuffix : String
  demangler : List String
  demangleTimeout : Timeout
  deriving DecidableEq

namespace Config

open Text (Points codePoints)

def defaultDirectories : List Points := [codePoints "build"]

def default : Config where
  buildDirectories := defaultDirectories
  targetMark := "-hip-amdgcn-amd-amdhsa-"
  assemblySuffix := ".s"
  demangler := ["c++filt", "-n"]
  demangleTimeout := .whole 5

def filled (config : Config) : Config :=
  if config.buildDirectories = [] then { config with buildDirectories := defaultDirectories } else config

theorem buildDirectories_filled_ne_nil (config : Config) : config.filled.buildDirectories ≠ [] := by
  unfold filled
  split
  · simp [defaultDirectories]
  · assumption

def occursIn (mark : List Char) : List Char → Bool
  | [] => mark.isEmpty
  | c :: rest => mark.isPrefixOf (c :: rest) || occursIn mark rest

def isAssemblyFile (config : Config) (name : String) : Bool :=
  occursIn config.targetMark.toList name.toList && config.assemblySuffix.toList.isSuffixOf name.toList

/-- The settings file below a workspace. Empty and `.` components of the workspace are not written. -/
def settingsPath (workspace : String) : String :=
  let path := workspace.toList
  let names := (Path.components path).filter fun name => name ≠ [] ∧ name ≠ ['.']
  let root := List.replicate (Path.rootSlashes path) '/'
  String.ofList (root ++ ['/'].intercalate (names ++ [".vscode".toList, "settings.json".toList]))

def settingsKey : String := "hipster.buildDirectories"

inductive Failure where
  | nameTooLong (path : String)
  | undecodable (failure : Text.Utf8.Failure)
  | malformed (path place : String)
  | oversize (refused : Numeral.Oversize)
  | tooDeep (nest : Json.Nest)
  | notStrings (path : String)
  | denied (path reason : String)
  deriving DecidableEq, Repr

def Failure.message : Failure → String
  | nameTooLong path => FileTree.Failure.nameTooLong.message path
  | undecodable failure => failure.message
  | malformed path place => s!"Invalid JSON in {path}: {place}"
  | oversize refused => refused.message
  | tooDeep nest => s!"maximum recursion depth exceeded while decoding a JSON {nest.name} from a unicode string"
  | notStrings path => s!"{settingsKey} in {path} must be a list of strings"
  | denied path reason => s!"Cannot read {path}: {reason}"

/-- The directories that are set in a file whose lists and objects may lie `nesting` deep in one another. -/
def directoriesIn (nesting : Nat) (path : String) (bytes : List UInt8) : Except Failure (Option (List Points)) :=
  match Text.Utf8.decode bytes with
  | .error failure => .error (.undecodable failure)
  | .ok decoded =>
    let text := Text.unifyNewlines decoded
    match Json.parse nesting text with
    | .error (.fault cause left) => .error (.malformed path (Json.faultText text cause left))
    | .error (.oversize refused) => .error (.oversize refused)
    | .error (.tooDeep nest) => .error (.tooDeep nest)
    | .ok (.object fields) =>
      match Json.field? settingsKey fields with
      | none => .ok none
      | some value =>
        match value.texts? with
        | none => .error (.notStrings path)
        | some directories => .ok (some directories)
    | .ok _ => .ok none

/-- The build directories that the workspace's settings file gives, if there is such a file. A path with a name
that no file can have is refused. A file that is there may be `denied` to its reader, for some reason. -/
def fromSettings (nesting : Nat) (denied : Option String) (tree : FileTree) (workspace : String) :
    Recorded Failure (Option (List Points)) :=
  let path := settingsPath workspace
  match tree.read path with
  | .error .nameTooLong => .fail (.nameTooLong path)
  | .error _ => return none
  | .ok (bytes, _) =>
    match denied with
    | some reason => .fail (.denied path reason)
    | none => do
      let directories ← Recorded.ofExcept (directoriesIn nesting path bytes)
      match directories with
      | none => return none
      | some directories =>
        Recorded.note (.settingsRead path directories)
        return some directories

def fromEnvironment (value : String) : List String :=
  ((value.toList.splitOn ':').filter (· ≠ [])).map String.ofList

/-- The directories that the layers give, the strongest layer first. The environment counts if it is not
empty, also when it names no directory. -/
def layered (explicit : List String) (environment : String) (settings : Option (List Points)) : List Points :=
  if explicit ≠ [] then explicit.map codePoints
  else if environment ≠ "" then (fromEnvironment environment).map codePoints
  else settings.getD defaultDirectories

def load (nesting : Nat) (denied : Option String) (tree : FileTree) (workspace environment : String)
    (explicit : List String) : Recorded Failure Config := do
  let settings ← fromSettings nesting denied tree workspace
  return { default with buildDirectories := layered explicit environment settings }.filled

end Config

end KernelAtlas
