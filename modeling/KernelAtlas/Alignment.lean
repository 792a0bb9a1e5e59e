import KernelAtlas.Kernel

/-! Two kernels side by side.

Line `i` of one kernel stands beside line `i` of the other, and the shorter one is filled up with empty
cells, so an inserted line shifts all that follows. -/

set_option autoImplicit false

namespace KernelAtlas

inductive Side where
  | left
  | right
  deriving DecidableEq, Repr

structure UnknownSide where
  name : String
  deriving DecidableEq, Repr

def UnknownSide.message (unknown : UnknownSide) : String := s!"Invalid diff side: {unknown.name}"

def Side.name : Side → String
  | left => "left"
  | right => "right"

def Side.ofName (name : String) : Except UnknownSide Side :=
  if name = left.name then .ok left else if name = right.name then .ok right else .error ⟨name⟩

@[simp] theorem Side.ofName_name (side : Side) : ofName side.name = .ok side := by
  cases side <;> rfl

namespace Alignment

/-- A line of a listing, or the filling beside a longer kernel. -/
structure Cell where
  text : String
  index : Option Int
  deriving DecidableEq, Repr

def Cell.filling : Cell := ⟨"", none⟩

structure Row where
  left : Cell
  right : Cell
  deriving DecidableEq, Repr

/-- Texts are compared as they are, blanks included. -/
def Row.changed (row : Row) : Bool := row.left.text != row.right.text

def Row.cell (row : Row) : Side → Cell
  | .left => row.left
  | .right => row.right

def cells (kernel : Kernel) : List Cell :=
  kernel.lines.zipIdx.map fun entry => ⟨entry.1, some (kernel.start + entry.2)⟩

@[simp] theorem length_cells (kernel : Kernel) : (cells kernel).length = kernel.lines.length := by simp [cells]

def pair : List Cell → List Cell → List Row
  | [], [] => []
  | left :: lefts, [] => ⟨left, .filling⟩ :: pair lefts []
  | [], right :: rights => ⟨.filling, right⟩ :: pair [] rights
  | left :: lefts, right :: rights => ⟨left, right⟩ :: pair lefts rights

theorem length_pair (lefts rights : List Cell) : (pair lefts rights).length = max lefts.length rights.length := by
  fun_induction pair lefts rights with
  | case1 => rfl
  | case2 left lefts ih => simpa using ih
  | case3 right rights ih => simpa using ih
  | case4 left lefts right rights ih => simp [ih]

end Alignment

structure Alignment where
  left : Kernel
  right : Kernel
  rows : List Alignment.Row
  deriving DecidableEq

namespace Alignment

def ofKernels (left right : Kernel) : Alignment := ⟨left, right, pair (cells left) (cells right)⟩

def length (alignment : Alignment) : Nat := alignment.rows.length

theorem length_ofKernels (left right : Kernel) :
    (ofKernels left right).length = max left.lines.length right.lines.length := by
  simp [ofKernels, length, length_pair]

def changedCount (alignment : Alignment) : Nat := alignment.rows.countP Row.changed

/-- The line of the listing behind a position of one side; none for filling and outside. -/
def locate? (alignment : Alignment) (side : Side) (position : Int) : Option Int := do
  let position ← position.toNat?
  let row ← alignment.rows[position]?
  (row.cell side).index

def announce (alignment : Alignment) : Journal.Entry :=
  .progress (.compared alignment.left.symbol alignment.left.listing.buildTag alignment.right.listing.buildTag
    alignment.changedCount alignment.length)

end Alignment

end KernelAtlas
