import KernelAtlas.Arguments
import KernelAtlas.Command.Help

/-! What the program is asked to do: its commands with their arguments. -/

set_option autoImplicit false

namespace KernelAtlas.Command

open Arguments

inductive Verb where
  | kernels
  | search
  | lookup
  | diff
  deriving DecidableEq, Repr

namespace Verb

def name : Verb → String
  | kernels => "kernels"
  | search => "match"
  | lookup => "lookup"
  | diff => "diff"

def all : List Verb := [kernels, search, lookup, diff]

def ofName? (text : String) : Option Verb := all.find? fun verb => verb.name = text

@[simp] theorem ofName?_name (verb : Verb) : ofName? verb.name = some verb := by
  cases verb <;> decide

end Verb

/-- The workspace of a command, the build directories given for it, and the form of the output. A directory
may be given without a value. -/
structure Scope where
  workspace : String
  directories : List (Option String)
  json : Bool
  deriving DecidableEq, Repr

/-- What is to be done. Arguments without a value are kept as such. -/
inductive Action where
  | kernels
  | search (source : Option String) (line : Option Int)
  | lookup (source : Option String) (assemblyLine : Option Int) (position : Int)
  | diff (source symbol : Option String) (left right width : Option Int)
  deriving DecidableEq, Repr

structure Invocation where
  verbose : Bool
  scope : Scope
  action : Action
  deriving DecidableEq, Repr

namespace Invocation

def helpFlag : Flag := ⟨["-h", "--help"], .printHelp, false⟩

def integerFlag (name : String) : Flag := ⟨[name], .integer, false⟩

def grammar (program : String) (usage body : List String) (flags : List Flag) (positionals : List String) : Grammar where
  program := program
  usage := Help.paragraph usage
  help := Help.paragraph (usage ++ body)
  version := Help.version
  flags := helpFlag :: flags
  positionals := positionals
  command := none

def commandGrammar (verb : Verb) (usage body : List String) (flags : List Flag) (positionals : List String) : Grammar :=
  grammar s!"hipster {verb.name}" usage body
    (⟨["--build-dir"], .text, false⟩ :: flags ++ [⟨["--json"], .switch, false⟩]) ("workspace" :: positionals)

def grammarOf : Verb → Grammar
  | .kernels => commandGrammar .kernels Help.kernelsUsage Help.kernelsBody [] []
  | .search => commandGrammar .search Help.searchUsage Help.searchBody [integerFlag "--line"] ["source"]
  | .lookup =>
    commandGrammar .lookup Help.lookupUsage Help.lookupBody
      [{ integerFlag "--asm-line" with required := true }, integerFlag "--index"] ["source"]
  | .diff =>
    commandGrammar .diff Help.diffUsage Help.diffBody
      [integerFlag "--left", integerFlag "--right", integerFlag "--width"] ["source", "symbol"]

def commandTitle : String := "COMMAND"

def program : Grammar :=
  { grammar "hipster" Help.programUsage Help.programBody
      [⟨["--version"], .printVersion, false⟩, ⟨["-v", "--verbose"], .switch, false⟩] [] with
    command := some (commandTitle, Verb.all.map Verb.name) }

def scopeOf (reading : Reading) : Scope :=
  ⟨(reading.text "workspace").getD "", reading.texts "--build-dir", reading.has "--json"⟩

def actionOf (reading : Reading) : Verb → Action
  | .kernels => .kernels
  | .search => .search (reading.text "source") (reading.integer "--line" 0)
  | .lookup => .lookup (reading.text "source") (reading.integer "--asm-line" 0) ((reading.integer "--index" 0).getD 0)
  | .diff =>
    .diff (reading.text "source") (reading.text "symbol") (reading.integer "--left" 0) (reading.integer "--right" 1)
      (reading.integer "--width" 60)

/-- Reads the arguments of the program. Arguments that neither the program nor the command has a use for are
refused together, in the name of the program. -/
def ofArguments (arguments : List String) : Except Stop Invocation := do
  let outer ← program.read arguments
  match outer.command.bind fun command => (Verb.ofName? command.1).map (·, command.2) with
  | none => program.refuse (.missing [commandTitle])
  | some (verb, rest) =>
    let inner ← (grammarOf verb).read rest
    match outer.extras ++ inner.extras with
    | [] => return ⟨outer.has "--verbose", scopeOf inner, actionOf inner verb⟩
    | extras => program.refuse (.unrecognized extras)

end Invocation

end KernelAtlas.Command
