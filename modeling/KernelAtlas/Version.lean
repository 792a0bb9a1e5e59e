import KernelAtlas.Match

/-! Versions of a kernel: the matches that share its symbol, found in different builds.

Matches are told apart by their places in a list, since two of them may have the same contents. -/

set_option autoImplicit false

namespace KernelAtlas

/-- Sorts by time, the latest first; items of the same time keep their order. -/
def latestFirst {α : Type} (time : α → Rat) (items : List α) : List α :=
  items.mergeSort fun left right => time right ≤ time left

theorem latestFirst_perm {α : Type} (time : α → Rat) (items : List α) : (latestFirst time items).Perm items :=
  List.mergeSort_perm _ _

def latestOf {α : Type} (time : α → Rat) (first : α) (rest : List α) : α :=
  rest.foldl (fun best item => if time best < time item then item else best) first

theorem latestOf_mem {α : Type} (time : α → Rat) (first : α) (rest : List α) :
    latestOf time first rest ∈ first :: rest := by
  unfold latestOf
  induction rest generalizing first with
  | nil => simp
  | cons item rest ih =>
    simp only [List.foldl_cons]
    split
    · exact List.mem_cons_of_mem _ (ih item)
    · rcases List.mem_cons.mp (ih first) with same | later
      · rw [same]; exact List.mem_cons_self
      · exact List.mem_cons_of_mem _ (List.mem_cons_of_mem _ later)

def orderMatches (found : List Match) : List Match := latestFirst Match.time found

structure Placed where
  place : Nat
  found : Match
  deriving DecidableEq

namespace Placed

def list (found : List Match) : List Placed := found.zipIdx.map fun entry => ⟨entry.2, entry.1⟩

@[simp] theorem length_list (found : List Match) : (list found).length = found.length := by simp [list]

theorem getElem?_list (found : List Match) (place : Nat) :
    (list found)[place]? = found[place]?.map (Placed.mk place) := by
  simp only [list, List.getElem?_map, List.getElem?_zipIdx, Option.map_map]
  cases found[place]? <;> simp

def time (item : Placed) : Rat := item.found.time

def sameFile (left right : Placed) : Bool :=
  Path.normalize left.found.kernel.listing.path == Path.normalize right.found.kernel.listing.path

def versions (selected : Placed) (items : List Placed) : List Placed :=
  items.filter fun item => item.found.symbol = selected.found.symbol

def comparable (selected : Placed) (items : List Placed) : List Placed :=
  latestFirst time ((selected.versions items).filter fun item => item.place ≠ selected.place)

end Placed

structure Staleness where
  outdated : Bool
  latest : Placed
  versions : Nat
  deriving DecidableEq

namespace Staleness

/-- A match is outdated if the latest of its versions is in another file. A match that is the only one
of its symbol, or not even among the candidates, is the latest of one version. -/
def check (selected : Placed) (candidates : List Placed) : Staleness :=
  match selected.versions candidates with
  | [] | [_] => ⟨false, selected, 1⟩
  | first :: rest =>
    let latest := latestOf Placed.time first rest
    ⟨!selected.sameFile latest, latest, rest.length + 1⟩

def latestBuildTag (staleness : Staleness) : String := staleness.latest.found.buildTag

end Staleness

/-- Groups matches by the names of their source files, in the order of first occurrence. -/
def groupBySource (items : List Placed) : OrderedMap String (List Placed) :=
  items.foldl (fun groups item =>
    groups.alter (Path.baseName item.found.sourceFile) fun old => old.getD [] ++ [item]) .empty

end KernelAtlas
