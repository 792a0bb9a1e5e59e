import KernelAtlas.Session

/-! What callers ask of a session, one call after the other.

A caller may come with a context of its own. Once a location has been revealed for a context, highlighting is
suppressed there; the session itself knows nothing of contexts. -/

set_option autoImplicit false

namespace KernelAtlas.Session

/-- A session and the contexts of its callers, each of which may have highlighting suppressed. -/
structure Conversation where
  session : Session
  contexts : Nat → Bool

namespace Conversation

def new (workspace : String) (config : Config) (contexts : Nat → Bool) : Conversation :=
  ⟨.new workspace config, contexts⟩

def suppressed (conversation : Conversation) (context : Option Nat) : Bool := context.any conversation.contexts

def suppress (conversation : Conversation) (context : Option Nat) (value : Bool) : Conversation :=
  { conversation with contexts := fun other => if context = some other then value else conversation.contexts other }

end Conversation

/-- What a caller may ask of a session. The file tree is the one that a refresh comes upon. -/
inductive Call where
  | refresh (tree : FileTree) (query : Query)
  | select (position : Int)
  | linesFor (file : String) (line : Int)
  | highlight (context : Option Nat) (file : String) (line : Int)
  | locate (context : Option Nat) (position : Int)
  | staleness
  | compare (position : Int)
  | locateCompared (context : Option Nat) (comparison : Option Comparison) (side : String) (position : Int)

inductive Answer where
  | view (view : ActiveView)
  | lines (lines : List Nat)
  | location (location : Option Location)
  | staleness (staleness : Staleness)
  | comparison (comparison : Comparison)

structure Outcome where
  after : Conversation
  displays : List Display
  answer : Except Failure Answer
  reported : List Diagnostic

namespace Outcome

def ofReply (before : Conversation) (reply : Reply ActiveView) : Outcome :=
  ⟨{ before with session := reply.session }, reply.displays, reply.answer.result.map .view, reply.answer.diagnostics⟩

def ofLocation (before : Conversation) (context : Option Nat) (answer : Recorded Failure (Option Location)) : Outcome :=
  ⟨before.suppress context (suppressedAfter (before.suppressed context) answer), revealed answer,
    answer.result.map .location, answer.diagnostics⟩

def ofComparison (before : Conversation) (answer : Except Failure Comparison) : Outcome :=
  match answer with
  | .error failure => ⟨before, [], .error failure, []⟩
  | .ok comparison => ⟨before, [.showDiff comparison.alignment.length], .ok (.comparison comparison), []⟩

end Outcome

def Call.perform (before : Conversation) : Call → Outcome
  | refresh tree query => .ofReply before (before.session.refresh tree query)
  | select position => .ofReply before (before.session.select position)
  | linesFor file line => ⟨before, [], .ok (.lines (before.session.linesFor file line)), []⟩
  | highlight context file line =>
    let (lines, displays) := before.session.highlight (before.suppressed context) file line
    ⟨before, displays, .ok (.lines lines), []⟩
  | locate context position => .ofLocation before context (before.session.locationOf position)
  | staleness => ⟨before, [], before.session.staleness.map .staleness, []⟩
  | compare position => .ofComparison before (before.session.compare position)
  | locateCompared context comparison side position =>
    .ofLocation before context (comparedLocation comparison side position)

def Conversation.run (start : Conversation) (calls : List Call) : Conversation :=
  calls.foldl (fun conversation call => (call.perform conversation).after) start

end KernelAtlas.Session
