import KernelAtlas.Proofs.AlignedRows
import KernelAtlas.Proofs.NamedKernels
import Mathlib.Algebra.Group.Int.Defs
import Mathlib.Algebra.Group.Nat.Defs

/-! Two kernels side by side, as they are written out.

Every position of an alignment is one line of the text, and the columns stand under each other as long as line numbers
have at most six digits. There is no text for a width that no column can have. -/

set_option autoImplicit false

namespace KernelAtlas

theorem Kernel.length_lines_le (kernel : Kernel) : kernel.lines.length ≤ kernel.listing.lines.length := by
  rw [Kernel.lines, slice, List.length_drop, List.length_take]
  omega

namespace Alignment

/-- A cell that shows a kernel at a position: a line of its listing, or filling below its last line. -/
inductive Cell.Shows (kernel : Kernel) (place : Nat) : Cell → Prop where
  | filling (beyond : kernel.lines.length ≤ place) : Cell.Shows kernel place .filling
  | line (index : Nat) (text : String) (inside : place < kernel.lines.length) (counted : kernel.start + place = index)
      (there : kernel.listing.lines[index]? = some text) : Cell.Shows kernel place ⟨text, some index⟩

theorem Cell.shows_of_getElem?_rows {left right : Kernel} (side : Side)
    (within : ((ofKernels left right).kernel side).Within) {place : Nat} {row : Row}
    (there : (ofKernels left right).rows[place]? = some row) :
    Cell.Shows ((ofKernels left right).kernel side) place (row.cell side) := by
  rw [cell_of_getElem?_rows there, getElem?_cells]
  cases found : ((ofKernels left right).kernel side).lines[place]? with
  | none => exact .filling (List.getElem?_eq_none_iff.mp found)
  | some text =>
    obtain ⟨index, counted, here⟩ := within.getElem?_lines found
    rw [Option.map_some, Option.getD_some, counted]
    exact .line index text (List.getElem?_eq_some_iff.mp found).1 counted here

end Alignment

namespace Numeral

/-- A number with so few digits that it can be written. -/
structure Writable (number : Nat) : Prop where
  digits : (Nat.toDigits 10 number).length ≤ digitLimit

theorem length_toDigits_le {lower upper : Nat} (ordered : lower ≤ upper) :
    (Nat.toDigits 10 lower).length ≤ (Nat.toDigits 10 upper).length := by
  have filled : 0 < (Nat.toDigits 10 upper).length := Nat.length_toDigits_pos
  rw [Nat.length_toDigits_le_iff (by decide) filled]
  exact Nat.lt_of_le_of_lt ordered ((Nat.length_toDigits_le_iff (by decide) filled).mp (Nat.le_refl _))

theorem Writable.of_le {lower upper : Nat} (ordered : lower ≤ upper) (writable : Writable upper) : Writable lower :=
  ⟨Nat.le_trans (length_toDigits_le ordered) writable.digits⟩

theorem write_of_writable {number : Nat} (writable : Writable number) : write number = .ok (toString number) := by
  have short : number < 10 ^ digitLimit := (Nat.length_toDigits_le_iff (by decide) (by decide)).mp writable.digits
  rw [← Nat.pow_eq] at short
  rw [write, Int.natAbs_natCast, if_pos short]
  rfl

end Numeral

namespace Report

open Text (trimEnd)
open Numeral (Writable)

structure Columns where
  mark : Char
  leftNumber : List Char
  left : List Char
  rightNumber : List Char
  right : List Char

namespace Columns

def chars (shown : Columns) : List Char :=
  shown.mark :: ' ' :: (shown.leftNumber ++ ' ' :: (shown.left ++ [' ', '|', ' '] ++
    (shown.rightNumber ++ ' ' :: shown.right)))

/-- The columns on the left decide where the bar stands. -/
theorem bar (shown : Columns) {width : Nat} (six : shown.leftNumber.length = 6) (wide : shown.left.length = width) :
    (shown.chars.drop (width + 9)).take 3 = [' ', '|', ' '] := by
  have split : shown.chars = (shown.mark :: ' ' :: (shown.leftNumber ++ ' ' :: shown.left)) ++
      ([' ', '|', ' '] ++ (shown.rightNumber ++ ' ' :: shown.right)) := by
    simp [chars]
  have before : (shown.mark :: ' ' :: (shown.leftNumber ++ ' ' :: shown.left)).length = width + 9 := by
    simp only [List.length_cons, List.length_append]
    omega
  rw [split, List.drop_left' before]
  rfl

end Columns

def fitted (width : Nat) (text : String) : List Char := (trimEnd text.toList).take width

def padded (width : Nat) (text : List Char) : List Char := text ++ List.replicate (width - text.length) ' '

theorem length_padded_fitted (width : Nat) (text : String) : (padded width (fitted width text)).length = width := by
  have bound : (fitted width text).length ≤ width := List.length_take_le _ _
  rw [padded, List.length_append, List.length_replicate]
  omega

theorem toList_fit (width : Nat) (text : String) : (DiffRow.fit width text).toList = fitted width text := by
  have start (length : Nat) : Slice.bound length 0 = 0 := Slice.bound_of_le (Nat.zero_le length)
  rw [DiffRow.fit, String.toList_ofList, cut, slice, start, List.drop_zero, fitted]
  by_cases inside : width ≤ (trimEnd text.toList).length
  · rw [Slice.bound_of_le inside]
  · have all : Slice.bound (trimEnd text.toList).length width = (trimEnd text.toList).length := by
      unfold Slice.bound
      split <;> omega
    rw [all, List.take_length, List.take_of_length_le (by omega)]

theorem toList_alignLeft (width : Nat) (text : String) : (alignLeft width text).toList = padded width text.toList := by
  rw [alignLeft, String.toList_append, String.toList_ofList, padded, String.length_toList]

def numberColumn : Option Int → List Char
  | none => List.replicate 6 ' '
  | some index => (alignRight 6 (toString (index + 1))).toList

def columnsOf (width : Nat) (row : Alignment.Row) : Columns where
  mark := if row.changed then '!' else ' '
  leftNumber := numberColumn row.left.index
  left := padded width (fitted width row.left.text)
  rightNumber := numberColumn row.right.index
  right := fitted width row.right.text

theorem leastWidth_eq : leastWidth = -9223372036854775808 := by decide

section
variable {room width : Nat} (text : String)

theorem column_of_le (counted : width < 2 ^ 63) (fits : width ≤ room) :
    column room width text = .ok (alignLeft width text) := by
  rw [column, leastWidth_eq, if_neg (by omega), if_neg (by omega), Int.natAbs_natCast, if_neg (by omega)]

theorem column_of_uncounted (uncounted : 2 ^ 63 ≤ width) : column room width text = .error .widthOutOfRange := by
  rw [column, leastWidth_eq, if_pos (by omega)]

theorem column_of_gt (counted : width < 2 ^ 63) (wide : room < width) :
    column room width text = .error .columnTooWide := by
  rw [column, leastWidth_eq, if_neg (by omega), if_neg (by omega), Int.natAbs_natCast, if_pos wide]

end

theorem numeral_of_writable {number : Nat} (writable : Writable number) :
    numeral number = .ok (toString number) := by
  rw [numeral, Numeral.write_of_writable writable]
  rfl

theorem numberText_of_ne_zero {number : Int} (counted : number ≠ 0) :
    DiffRow.numberText (some number) = (numeral number).map (alignRight 6) := by
  unfold DiffRow.numberText
  split
  · next absurd => cases absurd
  · next zero =>
    exact absurd (Option.some.inj zero) counted
  · next same =>
    cases same
    rfl

section
variable {kernel : Kernel} (short : Writable kernel.listing.lines.length) {place : Nat} {cell : Alignment.Cell}
  (shown : cell.Shows kernel place)
include short shown

theorem numberText_of_cell :
    DiffRow.numberText (cell.index.map (· + 1)) = .ok (String.ofList (numberColumn cell.index)) := by
  cases shown with
  | filling =>
    have empty : alignRight 6 "" = String.ofList (List.replicate 6 ' ') := by decide
    exact congrArg Except.ok empty
  | line index text _ _ there =>
    have bound : index < kernel.listing.lines.length := (List.getElem?_eq_some_iff.mp there).1
    have written : numeral (index + 1 : Nat) = .ok (toString (index + 1)) := numeral_of_writable (short.of_le bound)
    have counted : ((index + 1 : Nat) : Int) ≠ 0 := by omega
    have shown := (numberText_of_ne_zero counted).trans (congrArg (Except.map (alignRight 6)) written)
    exact shown.trans (congrArg Except.ok String.ofList_toList.symm)

end

section
variable {left right : Kernel} (leftShort : Writable left.listing.lines.length)
  (rightShort : Writable right.listing.lines.length) {place : Nat} {row : Alignment.Row}
  (leftShown : row.left.Shows left place) (rightShown : row.right.Shows right place) {room width : Nat}
include leftShort leftShown

theorem text_ofRow_of_refused {failure : Failure} (refused : ∀ text, column room width text = .error failure) :
    (DiffRow.ofRow width row).text room width = .error failure := by
  have leftNumber := numberText_of_cell leftShort leftShown
  simp only [DiffRow.text, DiffRow.ofRow, leftNumber, refused, Bind.bind, Except.bind]

include rightShort rightShown

theorem text_ofRow (counted : width < 2 ^ 63) (fits : width ≤ room) :
    (DiffRow.ofRow width row).text room width = .ok (String.ofList ((columnsOf width row).chars ++ ['\n'])) := by
  have leftNumber := numberText_of_cell leftShort leftShown
  have rightNumber := numberText_of_cell rightShort rightShown
  have leftColumn := column_of_le (DiffRow.fit width row.left.text) counted fits
  simp only [DiffRow.text, DiffRow.ofRow, leftNumber, rightNumber, leftColumn, Bind.bind, Except.bind, Pure.pure,
    Except.pure]
  refine congrArg Except.ok (String.toList_inj.mp ?_)
  have plain (text : String) : toString text = text := rfl
  by_cases changed : row.changed = true
  · simp [columnsOf, Columns.chars, changed, toList_alignLeft, toList_fit, plain]
  · simp [columnsOf, Columns.chars, changed, toList_alignLeft, toList_fit, plain]

end

/-- What stands above the rows: the name, the two listings and the number of differences. -/
def heading (alignment : Alignment) (name : String) : String :=
  s!"{name}\n  left:  [{alignment.left.listing.buildTag}] {alignment.left.listing.path}\n"
    ++ s!"  right: [{alignment.right.listing.buildTag}] {alignment.right.listing.path}\n"
    ++ s!"  {alignment.changedCount} of {alignment.length} lines differ\n\n"

/-- A kernel that can be written out: its listing has not too many lines, and none of them holds a line feed. -/
structure Printable (kernel : Kernel) : Prop where
  within : kernel.Within
  filled : kernel.lines ≠ []
  unbroken : ∀ line ∈ kernel.listing.lines, '\n' ∉ line.toList
  short : Writable kernel.listing.lines.length

section
variable {left right : Kernel} {place : Nat} {row : Alignment.Row}
  (there : (Alignment.ofKernels left right).rows[place]? = some row)
include there

theorem Printable.shows_left (printable : Printable left) : row.left.Shows left place :=
  Alignment.Cell.shows_of_getElem?_rows .left printable.within there

theorem Printable.shows_right (printable : Printable right) : row.right.Shows right place :=
  Alignment.Cell.shows_of_getElem?_rows .right printable.within there

end

section
variable {left right : Kernel} (leftPrintable : Printable left) (rightPrintable : Printable right)
  (leftName rightName : String) {room width : Nat}
include leftPrintable rightPrintable

theorem writable_length : Writable (Alignment.ofKernels left right).length := by
  have leftInside := left.length_lines_le
  have rightInside := right.length_lines_le
  rw [Alignment.length_ofKernels]
  rcases Nat.le_total left.lines.length right.lines.length with ordered | ordered
  · rw [Nat.max_eq_right ordered]
    exact rightPrintable.short.of_le rightInside
  · rw [Nat.max_eq_left ordered]
    exact leftPrintable.short.of_le leftInside

theorem text_ofNames_eq :
    (Diff.ofNames (.ofKernels left right) width leftName rightName).text room =
      (((Alignment.ofKernels left right).rows.map (DiffRow.ofRow width)).mapM (DiffRow.text room width)).map fun rows =>
        heading (.ofKernels left right) leftName ++ String.join rows := by
  have fewer : (Alignment.ofKernels left right).changedCount ≤ (Alignment.ofKernels left right).length :=
    List.countP_le_length
  have total := numeral_of_writable (writable_length leftPrintable rightPrintable)
  have changed := numeral_of_writable ((writable_length leftPrintable rightPrintable).of_le fewer)
  simp only [Diff.text, Diff.ofNames, changed, total, Bind.bind, Except.bind]
  cases ((Alignment.ofKernels left right).rows.map (DiffRow.ofRow width)).mapM (DiffRow.text room width) <;> rfl

theorem text_ofNames (counted : width < 2 ^ 63) (fits : width ≤ room) :
    (Diff.ofNames (.ofKernels left right) width leftName rightName).text room =
      .ok (heading (.ofKernels left right) leftName ++ String.join ((Alignment.ofKernels left right).rows.map fun row =>
        String.ofList ((columnsOf width row).chars ++ ['\n']))) := by
  have rows : ((Alignment.ofKernels left right).rows.map (DiffRow.ofRow width)).mapM (DiffRow.text room width) =
      .ok ((Alignment.ofKernels left right).rows.map fun row =>
        String.ofList ((columnsOf width row).chars ++ ['\n'])) := by
    rw [mapM_eq_ok_iff, List.forall₂_map_left_iff, List.forall₂_map_right_iff, List.forall₂_same]
    intro row member
    obtain ⟨place, there⟩ := List.getElem?_of_mem member
    exact text_ofRow leftPrintable.short rightPrintable.short (leftPrintable.shows_left there)
      (rightPrintable.shows_right there) counted fits
  rw [text_ofNames_eq leftPrintable rightPrintable, rows]
  rfl

/-- The first row fails already. -/
theorem text_ofNames_of_refused {failure : Failure} (refused : ∀ text, column room width text = .error failure) :
    (Diff.ofNames (.ofKernels left right) width leftName rightName).text room = .error failure := by
  have filled : 0 < (Alignment.ofKernels left right).rows.length := by
    have lines := List.length_pos_iff.mpr leftPrintable.filled
    have length := Alignment.length_ofKernels left right
    rw [Alignment.length] at length
    omega
  rw [text_ofNames_eq leftPrintable rightPrintable]
  cases split : (Alignment.ofKernels left right).rows with
  | nil => simp [split] at filled
  | cons row rest =>
    have first : (Alignment.ofKernels left right).rows[0]? = some row := by rw [split, List.getElem?_cons_zero]
    rw [List.map_cons, List.mapM_cons, text_ofRow_of_refused leftPrintable.short (leftPrintable.shows_left first) refused]
    rfl

end

/-- How a position is numbered: with the line of the listing, counted from one, or not at all below the last line. -/
structure ShowsNumber (kernel : Kernel) (place : Nat) (text : String) (number : List Char) : Prop where
  line : place < kernel.lines.length → ∃ line : Nat, kernel.start + place = line ∧
    kernel.listing.lines[line]? = some text ∧ number = (alignRight 6 (toString (line + 1))).toList
  filling : kernel.lines.length ≤ place → text = "" ∧ number = List.replicate 6 ' '
  blank : (∀ c ∈ number, c = ' ') ↔ kernel.lines.length ≤ place

/-- How the columns of a line show a position of an alignment. -/
structure ShowsRow (alignment : Alignment) (width place : Nat) (row : Alignment.Row) (shown : Columns) : Prop where
  unbroken : '\n' ∉ shown.chars
  mark : shown.mark = if row.changed then '!' else ' '
  leftNumber : ShowsNumber alignment.left place row.left.text shown.leftNumber
  left : shown.left = padded width (fitted width row.left.text)
  wide : shown.left.length = width
  bar : (place < alignment.left.lines.length → alignment.left.start + place + 1 < 10 ^ 6) →
    (shown.chars.drop (width + 9)).take 3 = [' ', '|', ' ']
  rightNumber : ShowsNumber alignment.right place row.right.text shown.rightNumber
  right : shown.right = fitted width row.right.text
  same : shown.mark = ' ' → shown.left = padded width shown.right

/-- A text that is a heading and one line for each position of an alignment. -/
structure Rendered (alignment : Alignment) (width : Nat) (name : String) (rows : List Columns) (text : String) :
    Prop where
  lines : text.toList = (heading alignment name).toList ++ rows.flatMap fun shown => shown.chars ++ ['\n']
  total : rows.length = alignment.length
  changed : rows.countP (·.mark = '!') = alignment.changedCount
  row : ∀ (place : Nat) (shown : Columns), rows[place]? = some shown →
    ∃ row, alignment.rows[place]? = some row ∧ ShowsRow alignment width place row shown

theorem numberColumn_of_line (index : Nat) :
    numberColumn (some index) =
      List.replicate (6 - (Nat.toDigits 10 (index + 1)).length) ' ' ++ Nat.toDigits 10 (index + 1) := by
  have digits : (toString (index + 1)).toList = Nat.toDigits 10 (index + 1) := String.toList_ofList
  change (alignRight 6 (toString (index + 1))).toList = _
  rw [alignRight, String.toList_append, String.toList_ofList, digits, ← String.length_toList, digits]

theorem mem_of_mem_fitted {width : Nat} {text : String} {c : Char} (member : c ∈ fitted width text) :
    c ∈ text.toList := by
  obtain ⟨back, split, -⟩ := Text.exists_trimEnd_append text.toList
  rw [split]
  exact List.mem_append_left _ (List.mem_of_mem_take member)

section
variable {kernel : Kernel} {place : Nat} {cell : Alignment.Cell} (shown : cell.Shows kernel place)
include shown

theorem lineFeed_notMem_numberColumn : '\n' ∉ numberColumn cell.index := by
  cases shown with
  | filling => decide
  | line index text =>
    rw [numberColumn_of_line, List.mem_append, not_or]
    refine ⟨fun member => absurd (List.eq_of_mem_replicate member) (by decide), fun member => ?_⟩
    cases Nat.isDigit_of_mem_toDigits (by decide) (by decide) member

theorem lineFeed_notMem_fitted (unbroken : ∀ line ∈ kernel.listing.lines, '\n' ∉ line.toList) (width : Nat) :
    '\n' ∉ fitted width cell.text := by
  intro member
  have inside := mem_of_mem_fitted member
  cases shown with
  | filling => cases inside
  | line index text _ _ there => exact unbroken text (List.mem_of_getElem? there) inside

theorem length_numberColumn (small : place < kernel.lines.length → kernel.start + place + 1 < 10 ^ 6) :
    (numberColumn cell.index).length = 6 := by
  cases shown with
  | filling => rfl
  | line index text inside counted there =>
    have bound : index + 1 < 10 ^ 6 := by
      have below := small inside
      omega
    have digits : (Nat.toDigits 10 (index + 1)).length ≤ 6 :=
      (Nat.length_toDigits_le_iff (by decide) (by decide)).mpr bound
    rw [numberColumn_of_line, List.length_append, List.length_replicate]
    omega

theorem showsNumber_numberColumn : ShowsNumber kernel place cell.text (numberColumn cell.index) := by
  cases shown with
  | filling beyond =>
    exact ⟨fun inside => absurd inside (Nat.not_lt.mpr beyond), fun _ => ⟨rfl, rfl⟩, fun _ => beyond,
      fun _ c member => List.eq_of_mem_replicate member⟩
  | line index text inside counted there =>
    refine ⟨fun _ => ⟨index, counted, there, rfl⟩, fun beyond => absurd inside (Nat.not_lt.mpr beyond), fun blank => ?_,
      fun beyond => absurd inside (Nat.not_lt.mpr beyond)⟩
    -- A number has a digit, and no digit is a space.
    have filled : 0 < (Nat.toDigits 10 (index + 1)).length := Nat.length_toDigits_pos
    obtain ⟨c, member⟩ := List.exists_mem_of_length_pos filled
    have digit := Nat.isDigit_of_mem_toDigits (by decide) (by decide) member
    rw [blank c (numberColumn_of_line index ▸ List.mem_append_right _ member)] at digit
    cases digit

end

section
variable {left right : Kernel} (leftPrintable : Printable left) (rightPrintable : Printable right) {room width : Nat}
include leftPrintable rightPrintable

theorem showsRow_columnsOf {place : Nat} {row : Alignment.Row}
    (there : (Alignment.ofKernels left right).rows[place]? = some row) :
    ShowsRow (.ofKernels left right) width place row (columnsOf width row) where
  unbroken := by
    have mark : '\n' ≠ if row.changed then '!' else ' ' := by split <;> decide
    have leftText := lineFeed_notMem_fitted (leftPrintable.shows_left there) leftPrintable.unbroken width
    have rightText := lineFeed_notMem_fitted (rightPrintable.shows_right there) rightPrintable.unbroken width
    have leftNumber := lineFeed_notMem_numberColumn (leftPrintable.shows_left there)
    have rightNumber := lineFeed_notMem_numberColumn (rightPrintable.shows_right there)
    simp [columnsOf, Columns.chars, padded, mark, leftText, rightText, leftNumber, rightNumber]
  mark := rfl
  leftNumber := showsNumber_numberColumn (leftPrintable.shows_left there)
  left := rfl
  wide := length_padded_fitted width row.left.text
  bar small :=
    Columns.bar _ (length_numberColumn (leftPrintable.shows_left there) small) (length_padded_fitted width row.left.text)
  rightNumber := showsNumber_numberColumn (rightPrintable.shows_right there)
  right := rfl
  same := by
    intro unmarked
    have unchanged : row.left.text = row.right.text := by
      by_contra differ
      have changed : row.changed = true := bne_iff_ne.mpr differ
      rw [columnsOf, if_pos changed] at unmarked
      cases unmarked
    rw [columnsOf, unchanged]

theorem rendered_ofNames (leftName rightName : String) (counted : width < 2 ^ 63) (fits : width ≤ room) :
    ∃ text rows, (Diff.ofNames (.ofKernels left right) width leftName rightName).text room = .ok text ∧
      Rendered (.ofKernels left right) width leftName rows text := by
  refine ⟨_, (Alignment.ofKernels left right).rows.map (columnsOf width),
    text_ofNames leftPrintable rightPrintable leftName rightName counted fits, ?_, ?_, ?_, ?_⟩
  · rw [String.toList_append, String.toList_join, List.flatMap_map, List.flatMap_map]
    simp only [String.toList_ofList]
  · rw [List.length_map, Alignment.length]
  · rw [List.countP_map, Alignment.changedCount]
    congr 1
    funext row
    cases changed : row.changed <;> simp [columnsOf, changed]
  · intro place shown there
    rw [List.getElem?_map, Option.map_eq_some_iff] at there
    obtain ⟨row, found, rfl⟩ := there
    exact ⟨row, found, showsRow_columnsOf leftPrintable rightPrintable found⟩

end

section
variable {listings : List Listing} {dumps : List Dump} (read : (listings.mapM Dump.ofListing).result = .ok dumps)
  (divided : ∀ listing ∈ listings, ∃ content, listing.lines = Listing.linesOf content)
  (short : ∀ listing ∈ listings, Writable listing.lines.length)
include read divided short

theorem printable_of_mem_kernelsOf {kernel : Kernel} (member : kernel ∈ kernelsOf dumps) : Printable kernel := by
  obtain ⟨dump, among, inside⟩ := List.mem_flatMap.mp member
  obtain ⟨listing, given, made⟩ := Recorded.exists_of_mem_result_mapM read among
  have same : kernel.listing = listing :=
    (Dump.kernel_of_ofListing made inside).1.trans (Dump.listing_of_ofListing made)
  refine ⟨Dump.within_of_ofListing made inside, ?_, ?_, same ▸ short listing given⟩
  · obtain ⟨start, stop, first, last, ordered, bound⟩ := Dump.bounds_of_ofListing made inside
    rw [← List.length_pos_iff, Kernel.lines, first, last, slice_of_le (Nat.le_of_lt ordered) bound, List.length_drop,
      List.length_take]
    omega
  · obtain ⟨content, lines⟩ := divided listing given
    intro line inLines
    rw [same, lines] at inLines
    obtain ⟨piece, cut, rfl⟩ := List.mem_map.mp inLines
    rw [String.toList_ofList]
    exact Text.separator_notMem_of_mem_splitOn cut

/-- Two kernels that were read are written out row by row, with whatever names they were given, for every width that
a column can have where there is room for it. Otherwise there is no text. They are given names if the demangler does
not end the calls for them. -/
theorem diff_shows_alignment {left right : Kernel} (inLeft : left ∈ kernelsOf dumps) (inRight : right ∈ kernelsOf dumps)
    (room width : Nat) :
    (width < 2 ^ 63 → width ≤ room → ∀ leftName rightName, ∃ text rows,
        (Diff.ofNames (.ofKernels left right) width leftName rightName).text room = .ok text ∧
          Rendered (.ofKernels left right) width leftName rows text) ∧
      (2 ^ 63 ≤ width → ∀ leftName rightName,
        (Diff.ofNames (.ofKernels left right) width leftName rightName).text room = .error .widthOutOfRange) ∧
      (width < 2 ^ 63 → room < width → ∀ leftName rightName,
        (Diff.ofNames (.ofKernels left right) width leftName rightName).text room = .error .columnTooWide) ∧
      ∀ (demangler : Demangler) (memo : Demangler.Memo) (command : List String) (timeout : Timeout),
        (∀ kernel ∈ [left, right], ∀ failure, ¬Demangler.Raises demangler (kernel.request command timeout) failure) →
          ∃ leftName rightName after, (Demangler.demangleAll demangler memo
            [left.request command timeout, right.request command timeout]).result = .ok ([leftName, rightName], after) := by
  have leftPrintable := printable_of_mem_kernelsOf read divided short inLeft
  have rightPrintable := printable_of_mem_kernelsOf read divided short inRight
  refine ⟨?_, ?_, ?_, ?_⟩
  · intro counted fits leftName rightName
    exact rendered_ofNames leftPrintable rightPrintable leftName rightName counted fits
  · intro uncounted leftName rightName
    exact text_ofNames_of_refused leftPrintable rightPrintable leftName rightName fun text =>
      column_of_uncounted text uncounted
  · intro counted wide leftName rightName
    exact text_ofNames_of_refused leftPrintable rightPrintable leftName rightName fun text => column_of_gt text counted wide
  · intro demangler memo command timeout stays
    have staysToo : ∀ request ∈ [left, right].map (·.request command timeout), ∀ failure,
        ¬Demangler.Raises demangler request failure := List.forall_mem_map.mpr stays
    obtain ⟨names, after, done⟩ := Demangler.exists_demangleAll staysToo memo
    obtain ⟨leftName, rightName, rfl⟩ := List.length_eq_two.mp (Demangler.length_of_demangleAll done)
    exact ⟨leftName, rightName, after, done⟩

end

def shortened : Listing where
  path := "new/k-hip-amdgcn-amd-amdhsa-gfx90a.s"
  buildTag := "new"
  modified := .finite false 2
  lines := Listing.linesOf ".globl kernel_one\ns_nop 1".toList

def original : Listing where
  path := "old/k-hip-amdgcn-amd-amdhsa-gfx90a.s"
  buildTag := "old"
  modified := .finite false 1
  lines := Listing.linesOf ".globl kernel_one\ns_nop 0  \ns_endpgm".toList

def originalKernel : Kernel := ⟨"kernel_one", 0, 3, original, .empty⟩

def shortenedKernel : Kernel := ⟨"kernel_one", 0, 2, shortened, .empty⟩

def bothDumps : List Dump := [⟨original, .empty, [originalKernel]⟩, ⟨shortened, .empty, [shortenedKernel]⟩]

theorem read_both : ([original, shortened].mapM Dump.ofListing).result = .ok bothDumps := by
  rw [Recorded.result_mapM_eq_ok_iff]
  exact .cons (by decide +kernel) (.cons (by decide +kernel) .nil)

theorem divided_both : ∀ listing ∈ [original, shortened], ∃ content, listing.lines = Listing.linesOf content := by
  intro listing member
  rcases List.mem_pair.mp member with rfl | rfl <;> exact ⟨_, rfl⟩

theorem short_both : ∀ listing ∈ [original, shortened], Writable listing.lines.length := by
  intro listing member
  rcases List.mem_pair.mp member with rfl | rfl <;> exact ⟨by decide +kernel⟩

def bothRows : List Alignment.Row :=
  [⟨⟨".globl kernel_one", some 0⟩, ⟨".globl kernel_one", some 0⟩⟩, ⟨⟨"s_nop 0  ", some 1⟩, ⟨"s_nop 1", some 1⟩⟩,
    ⟨⟨"s_endpgm", some 2⟩, .filling⟩]

theorem ofKernels_both :
    Alignment.ofKernels originalKernel shortenedKernel = ⟨originalKernel, shortenedKernel, bothRows⟩ := by
  have left : Alignment.cells originalKernel =
      [⟨".globl kernel_one", some 0⟩, ⟨"s_nop 0  ", some 1⟩, ⟨"s_endpgm", some 2⟩] := by decide +kernel
  have right : Alignment.cells shortenedKernel =
      [⟨".globl kernel_one", some 0⟩, ⟨"s_nop 1", some 1⟩] := by decide +kernel
  rw [Alignment.ofKernels, left, right]
  simp [Alignment.pair, bothRows]

theorem diff_shows_alignment_narrow :
    let text := "kernel_one\n  left:  [old] old/k-hip-amdgcn-amd-amdhsa-gfx90a.s\n"
      ++ "  right: [new] new/k-hip-amdgcn-amd-amdhsa-gfx90a.s\n  2 of 3 lines differ\n\n"
      ++ "       1 .globl k |      1 .globl k\n!      2 s_nop 0  |      2 s_nop 1\n!      3 s_endpgm |        \n"
    (Diff.ofNames (.ofKernels originalKernel shortenedKernel) 8 "kernel_one" "kernel_one").text 200 = .ok text ∧
      ∃ rows, Rendered (.ofKernels originalKernel shortenedKernel) 8 "kernel_one" rows text := by
  intro text
  have inOriginal : originalKernel ∈ kernelsOf bothDumps := by decide +kernel
  have inShortened : shortenedKernel ∈ kernelsOf bothDumps := by decide +kernel
  obtain ⟨written, -⟩ := diff_shows_alignment read_both divided_both short_both inOriginal inShortened 200 8
  obtain ⟨found, rows, same, rendered⟩ := written (by decide) (by decide) "kernel_one" "kernel_one"
  have shown :
      (Diff.ofNames (.ofKernels originalKernel shortenedKernel) 8 "kernel_one" "kernel_one").text 200 = .ok text := by
    rw [ofKernels_both]
    decide +kernel
  exact ⟨shown, rows, Except.ok.inj (same.symm.trans shown) ▸ rendered⟩

/-- Kernels that were read, a width of zero or more for which there is no text, and a demangler that leaves them without
names. -/
theorem diff_refused_for_large_width :
    ([original, shortened].mapM Dump.ofListing).result = .ok bothDumps ∧
      originalKernel ∈ kernelsOf bothDumps ∧ shortenedKernel ∈ kernelsOf bothDumps ∧
        (∀ room, (Diff.ofNames (.ofKernels originalKernel shortenedKernel) (2 ^ 63) "kernel_one" "kernel_one").text room =
          .error .widthOutOfRange) ∧
        (Demangler.demangleAll (.ofProcess 2147483 Demangler.knowsOne) .empty
          [originalKernel.request ["c++filt"] (.whole 5), shortenedKernel.request ["c++filt"] (.whole 5)]).result =
            .error (.undecodable ⟨0, 1, .badStart, 0xFF⟩) := by
  have inOriginal : originalKernel ∈ kernelsOf bothDumps := by decide +kernel
  have inShortened : shortenedKernel ∈ kernelsOf bothDumps := by decide +kernel
  have leftPrintable := printable_of_mem_kernelsOf read_both divided_both short_both inOriginal
  have rightPrintable := printable_of_mem_kernelsOf read_both divided_both short_both inShortened
  refine ⟨read_both, inOriginal, inShortened, fun room => ?_, by decide +kernel⟩
  exact text_ofNames_of_refused leftPrintable rightPrintable _ _ fun text => column_of_uncounted text (Nat.le_refl (2 ^ 63))

end Report

end KernelAtlas
