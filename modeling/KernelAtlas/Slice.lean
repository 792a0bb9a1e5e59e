/-! Slices of a list between two bounds. A negative bound counts from the end of the list, and a bound beyond
an end of the list stops there. -/

set_option autoImplicit false

namespace KernelAtlas

namespace Slice

def bound (length : Nat) (given : Int) : Nat :=
  if given < 0 then (given + length).toNat else min given.toNat length

theorem bound_le (length : Nat) (given : Int) : bound length given ≤ length := by
  unfold bound
  split <;> omega

theorem bound_of_le {length position : Nat} (inside : position ≤ length) : bound length position = position := by
  unfold bound
  split <;> omega

end Slice

/-- The items from one bound up to and without another. -/
def slice {α : Type} (start stop : Int) (items : List α) : List α :=
  (items.take (Slice.bound items.length stop)).drop (Slice.bound items.length start)

theorem slice_of_le {α : Type} {start stop : Nat} {items : List α} (ordered : start ≤ stop)
    (inside : stop ≤ items.length) : slice start stop items = (items.take stop).drop start := by
  rw [slice, Slice.bound_of_le inside, Slice.bound_of_le (Nat.le_trans ordered inside)]

end KernelAtlas
