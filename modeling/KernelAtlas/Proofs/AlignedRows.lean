import KernelAtlas.Proofs.ComparedLines
import Mathlib.Data.List.DropRight
import Mathlib.Data.List.GetD

/-! What stands beside what in an alignment.

Each column of an alignment is its kernel line by line, followed by filling up to the length of the longer kernel. So
nothing of a kernel is lost, the numbers beside its lines are those of its listing, and the two columns can be
exchanged. Filling looks like an empty line, which is why empty lines at the end of a kernel are no difference. -/

set_option autoImplicit false

namespace KernelAtlas

/-- A slice that starts at a line from the front keeps the numbers of its lines, wherever it ends. -/
theorem getElem?_of_slice {α : Type} {start stop : Int} (front : 0 ≤ start) {items : List α} {place : Nat} {item : α}
    (there : (slice start stop items)[place]? = some item) : items[start.toNat + place]? = some item := by
  rw [slice, List.getElem?_drop, List.getElem?_take] at there
  split at there
  · -- A start beyond the list would leave nothing, so the bound is the start itself.
    have inside := (List.getElem?_eq_some_iff.mp there).1
    have bound : Slice.bound items.length start = start.toNat := by
      unfold Slice.bound at inside ⊢
      split at inside <;> split <;> omega
    rwa [bound] at there
  · cases there

namespace Side

def other : Side → Side
  | left => right
  | right => left

end Side

def withoutEmptyEnd (lines : List String) : List String := lines.rdropWhile (· = "")

theorem getD_withoutEmptyEnd (lines : List String) (place : Nat) :
    (withoutEmptyEnd lines).getD place "" = lines.getD place "" := by
  induction lines using List.reverseRecOn with
  | nil => rfl
  | append_singleton lines line ih =>
    by_cases empty : line = ""
    · have dropped : withoutEmptyEnd (lines ++ [line]) = withoutEmptyEnd lines :=
        List.rdropWhile_concat_pos _ _ _ (by simpa using empty)
      rw [dropped, ih, empty]
      rcases Nat.lt_trichotomy place lines.length with inside | rfl | beyond
      · rw [List.getD_append _ _ _ _ inside]
      · simp
      · rw [List.getD_eq_default _ _ (by omega), List.getD_eq_default _ _ (by rw [List.length_append]; exact beyond)]
    · rw [withoutEmptyEnd, List.rdropWhile_concat_neg _ _ _ (by simpa using empty)]

theorem length_withoutEmptyEnd_le {lefts rights : List String}
    (alike : ∀ place, (withoutEmptyEnd lefts).getD place "" = rights.getD place "") :
    (withoutEmptyEnd lefts).length ≤ rights.length := by
  by_contra longer
  have nonempty : withoutEmptyEnd lefts ≠ [] := fun none => by simp [none] at longer
  have last := List.rdropWhile_last_not (· = "") lefts nonempty
  have read := alike ((withoutEmptyEnd lefts).length - 1)
  rw [List.getD_eq_default rights _ (by omega), List.getD_eq_getElem _ _ (by omega), ← List.getLast_eq_getElem nonempty] at read
  exact last (decide_eq_true read)

/-- Lines read alike at every position, filling included, if they differ at most in empty lines at their end. -/
theorem withoutEmptyEnd_eq_iff (lefts rights : List String) :
    withoutEmptyEnd lefts = withoutEmptyEnd rights ↔ ∀ place, lefts.getD place "" = rights.getD place "" := by
  constructor
  · intro same place
    rw [← getD_withoutEmptyEnd lefts, same, getD_withoutEmptyEnd]
  · intro alike
    have trimmed : ∀ place, (withoutEmptyEnd lefts).getD place "" = (withoutEmptyEnd rights).getD place "" := by
      intro place
      rw [getD_withoutEmptyEnd, getD_withoutEmptyEnd, alike]
    have length := Nat.le_antisymm (length_withoutEmptyEnd_le trimmed)
      (length_withoutEmptyEnd_le fun place => (trimmed place).symm)
    refine List.ext_getElem length fun place inLefts inRights => ?_
    have read := trimmed place
    rwa [List.getD_eq_getElem _ _ inLefts, List.getD_eq_getElem _ _ inRights] at read

namespace Alignment

def column (alignment : Alignment) (side : Side) : List Cell := alignment.rows.map (·.cell side)

def Row.swap (row : Row) : Row := ⟨row.right, row.left⟩

theorem Row.cell_swap (row : Row) (side : Side) : row.swap.cell side = row.cell side.other := by
  cases side <;> rfl

theorem Row.changed_swap (row : Row) : row.swap.changed = row.changed := by
  simp only [changed, swap, bne, Bool.beq_comm]

theorem pair_comm (lefts rights : List Cell) : pair rights lefts = (pair lefts rights).map Row.swap := by
  fun_induction pair lefts rights with
  | case1 => simp [pair]
  | case2 left lefts ih => simp [pair, Row.swap, ih]
  | case3 right rights ih => simp [pair, Row.swap, ih]
  | case4 left lefts right rights ih => simp [pair, Row.swap, ih]

section
variable (left right : Kernel)

theorem rows_comm : (ofKernels right left).rows = (ofKernels left right).rows.map Row.swap :=
  pair_comm (cells left) (cells right)

theorem length_column (side : Side) :
    ((ofKernels left right).column side).length = max left.lines.length right.lines.length := by
  rw [column, List.length_map]
  exact length_ofKernels left right

theorem length_lines_le (side : Side) :
    ((ofKernels left right).kernel side).lines.length ≤ max left.lines.length right.lines.length := by
  cases side with
  | left => exact Nat.le_max_left _ _
  | right => exact Nat.le_max_right _ _

theorem getElem?_column (side : Side) {place : Nat} (inside : place < max left.lines.length right.lines.length) :
    ((ofKernels left right).column side)[place]? =
      some ((cells ((ofKernels left right).kernel side))[place]?.getD .filling) := by
  obtain ⟨row, there⟩ : ∃ row, (ofKernels left right).rows[place]? = some row := by
    rw [← length_ofKernels] at inside
    exact ⟨_, List.getElem?_eq_getElem inside⟩
  rw [column, List.getElem?_map, there, Option.map_some, cell_of_getElem?_rows there]

theorem text_cell {place : Nat} {row : Row} (there : (ofKernels left right).rows[place]? = some row) (side : Side) :
    (row.cell side).text = ((ofKernels left right).kernel side).lines.getD place "" := by
  rw [cell_of_getElem?_rows there, getElem?_cells, List.getD_eq_getElem?_getD]
  cases ((ofKernels left right).kernel side).lines[place]? <;> rfl

theorem changed_iff {place : Nat} {row : Row} (there : (ofKernels left right).rows[place]? = some row) :
    row.changed = true ↔ left.lines.getD place "" ≠ right.lines.getD place "" := by
  have leftText := text_cell left right there .left
  have rightText := text_cell left right there .right
  rw [Row.changed, bne_iff_ne]
  exact not_congr (Eq.congr leftText rightText)

theorem changedCount_eq_zero_iff :
    (ofKernels left right).changedCount = 0 ↔ withoutEmptyEnd left.lines = withoutEmptyEnd right.lines := by
  rw [changedCount, List.countP_eq_zero, withoutEmptyEnd_eq_iff]
  constructor
  · intro unchanged place
    by_cases inside : place < (ofKernels left right).rows.length
    · have there := List.getElem?_eq_getElem inside
      by_contra differ
      exact unchanged _ (List.mem_of_getElem? there) ((changed_iff left right there).mpr differ)
    · -- Below the last row there is nothing on either side.
      have beyond : max left.lines.length right.lines.length ≤ place := by
        rw [← length_ofKernels]
        exact Nat.not_lt.mp inside
      rw [List.getD_eq_default _ _ (by omega), List.getD_eq_default _ _ (by omega)]
  · intro alike row member changed
    obtain ⟨place, there⟩ := List.getElem?_of_mem member
    exact (changed_iff left right there).mp changed (alike place)

theorem locate?_eq (side : Side) (position : Int) :
    (ofKernels left right).locate? side position =
      if 0 ≤ position ∧ position < ((ofKernels left right).kernel side).lines.length then
        some (((ofKernels left right).kernel side).start + position)
      else none := by
  split
  · rename_i inside
    obtain ⟨place, rfl⟩ := Int.eq_ofNat_of_zero_le inside.1
    exact locate?_of_getElem?_lines (List.getElem?_eq_getElem (Int.ofNat_lt.mp inside.2))
  · rename_i outside
    rw [Option.eq_none_iff_forall_ne_some]
    intro line located
    simp only [locate?, Option.bind_eq_bind, Option.bind_eq_some_iff] at located
    obtain ⟨place, counted, row, there, index⟩ := located
    have count := Int.mem_toNat?.mp counted
    rw [cell_of_getElem?_rows there, getElem?_cells, List.getElem?_eq_none (by omega)] at index
    cases index

/-- How an alignment shows two kernels whose starts count from the front of their listings. -/
structure Faithful (alignment : Alignment) : Prop where
  length_column : ∀ side, (alignment.column side).length = max alignment.left.lines.length alignment.right.lines.length
  line : ∀ side (place : Nat) text, (alignment.kernel side).lines[place]? = some text →
    ∃ index : Nat, index = (alignment.kernel side).start + place ∧
      (alignment.kernel side).listing.lines[index]? = some text ∧
        (alignment.column side)[place]? = some ⟨text, some index⟩
  filling : ∀ side (place : Nat), (alignment.kernel side).lines.length ≤ place →
    place < max alignment.left.lines.length alignment.right.lines.length →
      (alignment.column side)[place]? = some ⟨"", none⟩
  changed : ∀ row ∈ alignment.rows, row.changed = true ↔ (row.cell .left).text ≠ (row.cell .right).text
  located : ∀ side (position : Int), alignment.locate? side position =
    if 0 ≤ position ∧ position < (alignment.kernel side).lines.length then
      some ((alignment.kernel side).start + position)
    else none
  unchanged : alignment.changedCount = 0 ↔
    withoutEmptyEnd alignment.left.lines = withoutEmptyEnd alignment.right.lines

structure Mirrors (alignment mirrored : Alignment) : Prop where
  kernel : ∀ side, mirrored.kernel side = alignment.kernel side.other
  column : ∀ side, mirrored.column side = alignment.column side.other
  changed : mirrored.rows.map Row.changed = alignment.rows.map Row.changed

theorem getElem?_column_of_line {side : Side} {place : Nat} {text : String}
    (there : ((ofKernels left right).kernel side).lines[place]? = some text) :
    ((ofKernels left right).column side)[place]? =
      some ⟨text, some (((ofKernels left right).kernel side).start + place)⟩ := by
  have inside := (List.getElem?_eq_some_iff.mp there).1
  rw [getElem?_column left right side (Nat.lt_of_lt_of_le inside (length_lines_le left right side)), getElem?_cells,
    there]
  rfl

theorem mirrors_ofKernels : Mirrors (ofKernels left right) (ofKernels right left) := by
  refine ⟨fun side => by cases side <;> rfl, fun side => ?_, ?_⟩
  · rw [column, column, rows_comm, List.map_map]
    exact List.map_congr_left fun row _ => row.cell_swap side
  · rw [rows_comm, List.map_map]
    exact List.map_congr_left fun row _ => row.changed_swap

/-- An alignment loses nothing of its kernels and treats them alike, wherever they end. -/
theorem ofKernels_faithful (leftFront : 0 ≤ left.start) (rightFront : 0 ≤ right.start) :
    (ofKernels left right).Faithful ∧ Mirrors (ofKernels left right) (ofKernels right left) := by
  refine ⟨⟨length_column left right, ?_, ?_, fun row _ => bne_iff_ne, locate?_eq left right,
    changedCount_eq_zero_iff left right⟩, mirrors_ofKernels left right⟩
  · intro side place text there
    have front : 0 ≤ ((ofKernels left right).kernel side).start := by
      cases side with
      | left => exact leftFront
      | right => exact rightFront
    have counted : ((((ofKernels left right).kernel side).start.toNat + place : Nat) : Int) =
        ((ofKernels left right).kernel side).start + place := by omega
    refine ⟨_, counted, getElem?_of_slice front there, ?_⟩
    rw [counted]
    exact getElem?_column_of_line left right there
  · intro side place beyond inside
    rw [getElem?_column left right side inside, getElem?_cells, List.getElem?_eq_none beyond]
    rfl

end

/-- A listing in which two kernels overlap: one runs past the end, the other ends before it starts. -/
def overrun : Listing where
  path := "b/k-hip-amdgcn-amd-amdhsa-gfx90a.s"
  buildTag := "b"
  modified := .finite false 0
  lines := ["s_nop 0", "s_endpgm", ""]

theorem ofKernels_faithful_overrun :
    let long : Kernel := ⟨"kernel_one", 1, 9, overrun, .empty⟩
    let empty : Kernel := ⟨"kernel_one", 2, 1, overrun, .empty⟩
    (0 ≤ long.start ∧ 0 ≤ empty.start) ∧ long.lines = ["s_endpgm", ""] ∧ empty.lines = [] ∧
      (ofKernels long empty).Faithful ∧ Mirrors (ofKernels long empty) (ofKernels empty long) :=
  ⟨by decide, by decide, by decide, ofKernels_faithful _ _ (by decide) (by decide)⟩

end Alignment

end KernelAtlas
