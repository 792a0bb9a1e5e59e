import KernelAtlas.Command.Invocation
import KernelAtlas.Json.Printer
import KernelAtlas.Report.Diff
import KernelAtlas.Report.Kernels
import KernelAtlas.Report.Matches
import KernelAtlas.Session

/-! The commands, from arguments to what is printed.

Each command first makes its report, which depends on the files, the settings and the demangler, and
then prints it as text or in a structured form. -/

set_option autoImplicit false

namespace KernelAtlas.Command

open Text (Points codePoints)

/-- What a command sees of its surroundings. -/
structure World where
  tree : FileTree
  /-- Build directories from the environment, separated by colons; empty if not set. -/
  environment : String
  demangler : Demangler
  /-- How deep lists and objects of the settings file may lie in one another. -/
  nesting : Nat
  /-- Why the settings file cannot be read although it is there, if so. -/
  denied : Option String
  /-- The number of characters for which there is room in a column. -/
  room : Nat

inductive Absent where
  | directory
  | source
  | line
  | assemblyLine
  | version
  | width
  deriving DecidableEq, Repr

def Absent.message : Absent → String
  | directory => "join() argument must be str, bytes, or os.PathLike object, not 'list'"
  | source => "expected str, bytes or os.PathLike object, not list"
  | line => "'<' not supported between instances of 'list' and 'int'"
  | assemblyLine => "unsupported operand type(s) for -: 'list' and 'int'"
  | version => "'<=' not supported between instances of 'int' and 'list'"
  | width => "slice indices must be integers or None or have an __index__ method"

inductive Failure where
  | config (failure : Config.Failure)
  | session (failure : Session.Failure)
  | demangler (failure : Demangler.Failure)
  | report (failure : Report.Failure)
  | oversize (refused : Numeral.Oversize)
  | absent (use : Absent)
  | negativeLine
  | noAssembly (source : String)
  | noVersion (position : Int) (count : Nat)
  deriving DecidableEq, Repr

namespace Failure

def message : Failure → String
  | config failure => failure.message
  | session failure => failure.message
  | demangler failure => failure.message
  | report failure => failure.message
  | oversize refused => refused.message
  | absent use => use.message
  | negativeLine => "--line must not be negative"
  | noAssembly source => s!"No assembly found for {source}"
  | noVersion position count => s!"Version {position} does not exist ({count} version(s) found)"

/-- Failures that no command knows how to report: they end the program itself. -/
def escapes : Failure → Bool
  | config (.nameTooLong _) | config (.undecodable _) | config (.oversize _) | config (.tooDeep _) => true
  | session (.oversize _) | session (.unknownSide _) | session (.nothingCompared _) => true
  | demangler _ | report _ | oversize _ | absent _ => true
  | _ => false

end Failure

abbrev Run := Recorded Failure

def given {α : Type} (use : Absent) : Option α → Run α
  | some value => return value
  | none => .fail (.absent use)

namespace World

/-- The settings in effect. A directory without a value is noticed once the settings have been read. -/
def config (world : World) (scope : Scope) : Run Config := do
  let directories := scope.directories.filterMap id
  let config ← (Config.load world.nesting world.denied world.tree scope.workspace world.environment
    directories).mapError .config
  if scope.directories.contains none then .fail (.absent .directory) else return config

def dumps (world : World) (config : Config) (scope : Scope) : Run (List Dump) :=
  (Discovery.dumps world.tree config scope.workspace).mapError .oversize

def search (world : World) (config : Config) (scope : Scope) (query : Query) : Run (List Match) := do
  let dumps ← world.dumps config scope
  let found ← (query.resolve dumps).mapError .oversize
  return orderMatches found

/-- A source file without a value is noticed once the listings have been read. -/
def withoutSource {α : Type} (world : World) (scope : Scope) : Run α := do
  let config ← world.config scope
  let _ ← world.dumps config scope
  .fail (.absent .source)

def names (world : World) (config : Config) (kernels : List Kernel) : Run (List String) := do
  let asked := kernels.map (·.request config.demangler config.demangleTimeout)
  let (names, _) ← (Demangler.demangleAll world.demangler .empty asked).mapError .demangler
  return names

end World

def kernelsReport (world : World) (scope : Scope) : Run Report.Kernels := do
  let config ← world.config scope
  let dumps ← world.dumps config scope
  let names ← world.names config (kernelsOf dumps)
  return .ofNames (kernelsOf dumps) names

def searchReport (world : World) (scope : Scope) (query : Query) : Run Report.Matches :=
  if query.line < 0 then .fail .negativeLine
  else do
    let config ← world.config scope
    let found ← world.search config scope query
    let names ← world.names config (found.map Match.kernel)
    return .ofNames query found names

def pick (versions : List Placed) (position : Int) : Run Placed :=
  match position.toNat?.bind (versions[·]?) with
  | none => .fail (.noVersion position versions.length)
  | some version => return version

structure DiffReport where
  report : Report.Diff
  leftOutdated : Bool
  rightOutdated : Bool

/-- Without a symbol there is no version of it. -/
def diffReport (world : World) (scope : Scope) (source : String) (symbol : Option String)
    (left right width : Option Int) : Run DiffReport := do
  let config ← world.config scope
  let found ← world.search config scope ⟨source, 0⟩
  let items := Placed.list found
  let versions := items.filter fun item => some item.found.symbol = symbol
  let left ← given .version left
  let left ← pick versions left
  let right ← given .version right
  let right ← pick versions right
  let alignment := Alignment.ofKernels left.found.kernel right.found.kernel
  Recorded.record alignment.announce
  let width ← given .width width
  let names ← world.names config [left.found.kernel, right.found.kernel]
  return ⟨.ofNames alignment width (names.headD "") (names.getLastD ""), (Staleness.check left items).outdated,
    (Staleness.check right items).outdated⟩

def DiffReport.toJson (diff : DiffReport) : Json :=
  diff.report.toJsonWith [("outdated", .bool diff.leftOutdated)] [("outdated", .bool diff.rightOutdated)]

structure LookupReport where
  selected : Match
  assemblyLine : Int
  location : Option Location

def lookupReport (world : World) (scope : Scope) (source : String) (assemblyLine : Option Int) (position : Int) :
    Run LookupReport := do
  let config ← world.config scope
  let refreshed := (Session.new scope.workspace config).refresh world.tree ⟨source, 0⟩
  let view ← refreshed.answer.mapError .session
  match view.found with
  | [] => .fail (.noAssembly source)
  | first :: _ =>
    let chosen := if position = 0 then { refreshed with answer := return view } else refreshed.session.select position
    let view ← chosen.answer.mapError .session
    let assemblyLine ← given .assemblyLine assemblyLine
    let location ← (chosen.session.locationOf (assemblyLine - 1)).mapError .session
    return ⟨(view.selection?.map Placed.found).getD first, assemblyLine, location⟩

namespace LookupReport

def toJson (lookup : LookupReport) (location : Location) : Json :=
  .object [("symbol", .string lookup.selected.symbol), ("assembly_file", .string lookup.selected.kernel.listing.path),
    ("asm_line", .ofInt lookup.assemblyLine), ("file", .string location.file), ("line", .ofInt (location.line + 1))]

end LookupReport

structure Output where
  status : Nat
  text : String

def Output.ofReport {α : Type} (json : Bool) (toJson : α → Json) (text : α → Except Report.Failure String) (report : α) :
    Run Output :=
  if json then return ⟨0, (toJson report).render ++ "\n"⟩
  else do
    let text ← Recorded.ofExcept ((text report).mapError .report)
    return ⟨0, text⟩

/-- An assembly line without a source location has an exit status of its own. -/
def LookupReport.output (json : Bool) (lookup : LookupReport) : Output :=
  match lookup.location with
  | none => ⟨2, s!"Assembly line {lookup.assemblyLine} has no source mapping\n"⟩
  | some location =>
    ⟨0, if json then (lookup.toJson location).render ++ "\n" else s!"{location.file}:{location.line + 1}\n"⟩

def perform (world : World) (scope : Scope) : Action → Run Output
  | .kernels => do
    let report ← kernelsReport world scope
    Output.ofReport scope.json Report.Kernels.toJson Report.Kernels.text report
  | .search source line => do
    let line ← given .line line
    match source with
    | none => if line < 0 then .fail .negativeLine else world.withoutSource scope
    | some source =>
      let report ← searchReport world scope ⟨source, line⟩
      Output.ofReport scope.json Report.Matches.toJson Report.Matches.text report
  | .lookup none _ _ => world.withoutSource scope
  | .lookup (some source) assemblyLine position => do
    let report ← lookupReport world scope source assemblyLine position
    return report.output scope.json
  | .diff none _ _ _ _ => world.withoutSource scope
  | .diff (some source) symbol left right width => do
    let diff ← diffReport world scope source symbol left right width
    Output.ofReport scope.json DiffReport.toJson (fun diff => diff.report.text world.room) diff

structure Answer where
  status : Nat
  output : String
  errors : Points
  requests : List Demangler.Request

def logText (verbose : Bool) (entry : Journal.Entry) : Points :=
  match entry.logLine? with
  | none => []
  | some (level, text) =>
    if verbose || level == .warning then codePoints s!"{level.name}: " ++ text ++ codePoints "\n" else []

/-- Runs the program. A failure that no command reports is left to the caller. -/
def run (world : World) (arguments : List String) : Except Failure Answer :=
  match Invocation.ofArguments arguments with
  | .error (.printed text) => .ok ⟨0, text, [], []⟩
  | .error (.refused usage program cause) => .ok ⟨2, "", codePoints (usage ++ s!"{program}: error: {cause.message}\n"), []⟩
  | .ok invocation =>
    let performed := perform world invocation.scope invocation.action
    let log := performed.entries.flatMap (logText invocation.verbose)
    let requests := Journal.requests performed.entries
    match performed.result with
    | .ok output => .ok ⟨output.status, output.text, log, requests⟩
    | .error failure =>
      if failure.escapes then .error failure
      else .ok ⟨1, "", log ++ codePoints s!"ERROR: {failure.message}\n", requests⟩

end KernelAtlas.Command
