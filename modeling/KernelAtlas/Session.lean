import KernelAtlas.Alignment
import KernelAtlas.Discovery
import KernelAtlas.Version

/-! A viewing session: the matches of the source file being viewed, the selected kernel, and the line
index of its listing.

Everything that belongs together is replaced together, by one value. Requests are numbered when they
begin; a request that finishes after a later one has begun changes nothing. -/

set_option autoImplicit false

namespace KernelAtlas

open Numeral (Oversize)

/-- What a session shows: the matches, the latest first, and the place of the selected one. -/
structure ActiveView where
  source : String
  found : List Match
  selected : Option Nat
  index : LineIndex
  generation : Int
  deriving DecidableEq

namespace ActiveView

def nothing (source : String) (generation : Int) : ActiveView := ⟨source, [], none, .empty, generation⟩

def selection? (view : ActiveView) : Option Placed := do
  let place ← view.selected
  let found ← view.found[place]?
  return ⟨place, found⟩

end ActiveView

namespace Session

inductive Failure where
  | noMatchAt (position : Int)
  | nothingSelected
  | unknownSide (unknown : UnknownSide)
  | nothingCompared (side : Side)
  | oversize (refused : Oversize)
  deriving DecidableEq, Repr

def Failure.message : Failure → String
  | noMatchAt position => s!"No match at position {position}"
  | nothingSelected => "No kernel is selected"
  | unknownSide unknown => unknown.message
  | nothingCompared side => s!"'NoneType' object has no attribute '{side.name}'"
  | oversize refused => refused.message

inductive Display where
  | showMatches (selected : Option Nat)
  | showEmpty (source : String)
  | highlight (lines : List Nat)
  | reveal (location : Location)
  | showDiff (length : Nat)
  deriving DecidableEq, Repr

structure Comparison where
  left : Placed
  right : Placed
  leftStaleness : Staleness
  rightStaleness : Staleness
  alignment : Alignment
  deriving DecidableEq

def Comparison.side (comparison : Comparison) : Side → Placed
  | .left => comparison.left
  | .right => comparison.right

end Session

structure Session where
  workspace : String
  config : Config
  active : Option ActiveView
  /-- The number of requests that have begun. -/
  issued : Nat

namespace Session

def new (workspace : String) (config : Config) : Session := ⟨workspace, config, none, 0⟩

def begin (session : Session) : Session := { session with issued := session.issued + 1 }

/-- Installs a view, unless a later request has begun since its own. -/
def commit (session : Session) (view : ActiveView) : Session :=
  if view.generation = session.issued then { session with active := some view } else session

def accepts (session : Session) (view : ActiveView) : Bool := view.generation == session.issued

@[simp] theorem issued_commit (session : Session) (view : ActiveView) : (session.commit view).issued = session.issued := by
  unfold commit
  split <;> rfl

theorem active_commit (session : Session) (view : ActiveView) :
    (session.commit view).active = if session.accepts view then some view else session.active := by
  unfold commit accepts
  by_cases current : view.generation = session.issued <;> simp [current]

def viewAt (source : String) (found : List Match) (place : Nat) (selected : Match) (generation : Int) :
    Recorded Failure ActiveView := do
  let index ← selected.index.mapError .oversize
  return ⟨source, found, some place, index, generation⟩

def lookUp (session : Session) (tree : FileTree) (query : Query) (generation : Int) : Recorded Failure ActiveView := do
  let dumps ← (Discovery.dumps tree session.config session.workspace).mapError .oversize
  let discovered ← (query.resolve dumps).mapError .oversize
  match orderMatches discovered with
  | [] => return .nothing query.source generation
  | first :: rest => viewAt query.source (first :: rest) 0 first generation

def refreshDisplays (view : ActiveView) : List Display :=
  match view.found with
  | [] => [.showEmpty view.source]
  | first :: _ => .showMatches view.selected :: (if first.hits = [] then [] else [.highlight first.hits])

structure Reply (α : Type) where
  session : Session
  displays : List Display
  answer : Recorded Failure α

/-- Ends a request that began as the one numbered `generation`. -/
def finish (session : Session) (displays : ActiveView → List Display) (answer : Recorded Failure ActiveView) :
    Reply ActiveView :=
  match answer.result with
  | .error _ => ⟨session, [], answer⟩
  | .ok view => ⟨session.commit view, if session.accepts view then displays view else [], answer⟩

def refresh (session : Session) (tree : FileTree) (query : Query) : Reply ActiveView :=
  let begun := session.begin
  begun.finish refreshDisplays (begun.lookUp tree query begun.issued)

/-- Selects another of the matches. A position without a match begins no request. -/
def select (session : Session) (position : Int) : Reply ActiveView :=
  match session.active with
  | none => ⟨session, [], .fail (.noMatchAt position)⟩
  | some view =>
    match position.toNat?.bind fun place => view.found[place]?.map (place, ·) with
    | none => ⟨session, [], .fail (.noMatchAt position)⟩
    | some (place, selected) =>
      let begun := session.begin
      begun.finish (fun view => [.showMatches view.selected])
        (viewAt view.source view.found place selected begun.issued)

def linesFor (session : Session) (file : String) (line : Int) : List Nat :=
  match session.active with
  | none => []
  | some view => view.index.forward file line

/-- Highlights the instructions of a source line, unless highlighting is suppressed. -/
def highlight (session : Session) (suppressed : Bool) (file : String) (line : Int) : List Nat × List Display :=
  if suppressed then ([], [])
  else
    match session.linesFor file line with
    | [] => ([], [])
    | lines => (lines, [.highlight lines])

def lookUpLine (index : LineIndex) (position : Int) : Recorded Failure (Option Location) :=
  match index.reverse? position with
  | none => ⟨[.progress (.lineUnmapped position)], .ok none⟩
  | some location => ⟨[.progress (.lineMapped position location.file location.line)], .ok (some location)⟩

def locationOf (session : Session) (position : Int) : Recorded Failure (Option Location) :=
  match session.active with
  | none => return none
  | some view => if view.selected = none then return none else lookUpLine view.index position

/-- A location that was found is revealed, and highlighting is suppressed from then on. -/
def revealed (answer : Recorded Failure (Option Location)) : List Display :=
  match answer.result with
  | .ok (some location) => [.reveal location]
  | _ => []

def suppressedAfter (suppressed : Bool) (answer : Recorded Failure (Option Location)) : Bool :=
  suppressed || !(revealed answer).isEmpty

def selection (session : Session) : Except Failure (ActiveView × Placed) :=
  match session.active.bind fun view => view.selection?.map (view, ·) with
  | none => .error .nothingSelected
  | some found => .ok found

def staleness (session : Session) : Except Failure Staleness := do
  let (view, selected) ← session.selection
  return .check selected (Placed.list view.found)

def compare (session : Session) (position : Int) : Except Failure Comparison := do
  let (view, left) ← session.selection
  match position.toNat?.bind fun place => view.found[place]?.map (Placed.mk place) with
  | none => .error (.noMatchAt position)
  | some right =>
    let items := Placed.list view.found
    return ⟨left, right, .check left items, .check right items, .ofKernels left.found.kernel right.found.kernel⟩

/-- The source location of a line shown on one side of a comparison. The side is looked at before it is
asked whether there is a comparison. -/
def comparedLocation (comparison : Option Comparison) (side : String) (position : Int) :
    Recorded Failure (Option Location) := do
  let side ← Recorded.ofExcept ((Side.ofName side).mapError .unknownSide)
  match comparison with
  | none => .fail (.nothingCompared side)
  | some comparison =>
    let index ← (comparison.side side).found.index.mapError .oversize
    lookUpLine index position

end Session

end KernelAtlas
