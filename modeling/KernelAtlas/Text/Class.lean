/-! Character classes given by the code-point ranges of a standard property. -/

set_option autoImplicit false

namespace KernelAtlas.Text

/-- A set of characters, written as ranges of code points with both ends included. -/
structure CharClass where
  ranges : List (Nat × Nat)

namespace CharClass

def contains (members : CharClass) (c : Char) : Bool :=
  members.ranges.any fun range => range.1 ≤ c.toNat && c.toNat ≤ range.2

theorem contains_iff (members : CharClass) (c : Char) :
    members.contains c = true ↔ ∃ range ∈ members.ranges, range.1 ≤ c.toNat ∧ c.toNat ≤ range.2 := by
  simp [contains]

def apart (left right : CharClass) : Bool :=
  left.ranges.all fun a => right.ranges.all fun b => a.2 < b.1 || b.2 < a.1

theorem not_contains_of_apart {left right : CharClass} (separate : left.apart right = true)
    {c : Char} (inside : left.contains c = true) : right.contains c = false := by
  rw [contains_iff] at inside
  obtain ⟨a, member, low, high⟩ := inside
  rw [Bool.eq_false_iff, ne_eq, contains_iff]
  rintro ⟨b, other, lowB, highB⟩
  have gap := List.all_eq_true.mp (List.all_eq_true.mp separate a member) b other
  simp only [Bool.or_eq_true, decide_eq_true_eq] at gap
  omega

end CharClass

end KernelAtlas.Text
