import KernelAtlas.Line
import KernelAtlas.SourceTable

/-! The two-way index between source lines and assembly lines.

The location directive that was seen last is in force at a line. A line at which a location is in
force maps back to it; a source line maps forward to the instructions among those lines only, so that
labels and directives are never selected. -/

set_option autoImplicit false

namespace KernelAtlas

open Numeral (Oversize)

/-- A line of a source file, counted from zero. -/
structure Location where
  file : String
  line : Nat
  deriving DecidableEq, Repr

structure Mark where
  file : Int
  line : Nat
  deriving DecidableEq, Repr

namespace Directive.Loc

/-- The mark that a location directive sets; line 0 stands for no source line and clears it. -/
def mark (loc : Directive.Loc) : Except Oversize (Option Mark) := do
  let file ← Numeral.read loc.file
  let line ← Numeral.read loc.line
  return if line = 0 then none else some ⟨file, line - 1⟩

end Directive.Loc

/-- Assembly lines by source location, and source locations by assembly line, both in the order of the
listing. -/
structure LineIndex where
  forwardMap : OrderedMap Location (List Nat)
  reverseMap : OrderedMap Nat Location
  deriving DecidableEq

namespace LineIndex

def empty : LineIndex := ⟨.empty, .empty⟩

def advance (current : Option Mark) (line : String) : Except Oversize (Option Mark) :=
  match Directive.loc? line.toList with
  | none => .ok current
  | some loc => loc.mark

def marksFrom (current : Option Mark) : List String → Except Oversize (List (Option Mark))
  | [] => .ok []
  | line :: rest => do
    let next ← advance current line
    let later ← marksFrom next rest
    return next :: later

theorem length_of_marksFrom {current : Option Mark} {lines : List String} {marks : List (Option Mark)}
    (read : marksFrom current lines = .ok marks) : marks.length = lines.length := by
  induction lines generalizing current marks with
  | nil =>
    cases read
    rfl
  | cons line rest ih =>
    simp only [marksFrom] at read
    cases next : advance current line with
    | error failure => simp [next, Bind.bind, Except.bind] at read
    | ok mark =>
      cases later : marksFrom mark rest with
      | error failure => simp [next, later, Bind.bind, Except.bind] at read
      | ok marks =>
        simp only [next, later, Bind.bind, Except.bind, Pure.pure, Except.pure] at read
        cases read
        simp [ih later]

/-- The location of a mark: its file must be wanted and have a path that is not empty. -/
def locate (table : SourceTable) (wanted : Int → Bool) (mark : Mark) : Option Location :=
  if wanted mark.file then
    match table.get? mark.file with
    | none | some "" => none
    | some path => some ⟨path, mark.line⟩
  else none

def located (table : SourceTable) (wanted : Int → Bool) (lines : List String) (marks : List (Option Mark)) :
    List (Nat × String × Location) :=
  (lines.zip marks).zipIdx.filterMap fun entry =>
    (entry.1.2.bind (locate table wanted)).map fun location => (entry.2, entry.1.1, location)

def collect (entries : List (Nat × String × Location)) : LineIndex where
  forwardMap := (entries.filter fun entry => Line.isInstruction entry.2.1).foldl
    (fun map entry => map.alter entry.2.2 fun old => old.getD [] ++ [entry.1]) .empty
  reverseMap := ⟨entries.map fun entry => (entry.1, entry.2.2)⟩

def buildWanted (lines : List String) (table : SourceTable) (wanted : Int → Bool) : Except Oversize LineIndex := do
  let marks ← marksFrom none lines
  return collect (located table wanted lines marks)

def build (lines : List String) (table : SourceTable) : Except Oversize LineIndex :=
  buildWanted lines table fun _ => true

def forward (index : LineIndex) (file : String) (line : Int) : List Nat :=
  match line.toNat? with
  | none => []
  | some line => (index.forwardMap.get? ⟨Path.normalize file, line⟩).getD []

def reverse? (index : LineIndex) (position : Int) : Option Location :=
  position.toNat?.bind index.reverseMap.get?

def sourceLines (index : LineIndex) (file : String) : List Nat :=
  let path := Path.normalize file
  (index.forwardMap.keys.filterMap fun location =>
    if location.file = path then some location.line else none).mergeSort fun left right => left ≤ right

end LineIndex

end KernelAtlas
