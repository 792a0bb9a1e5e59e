import KernelAtlas.Alignment
import KernelAtlas.Report.Summary

/-! The report of two kernels side by side. -/

set_option autoImplicit false

namespace KernelAtlas.Report

/-- A row of the comparison; lines count from one, and filling has none. -/
structure DiffRow where
  changed : Bool
  leftNumber : Option Int
  rightNumber : Option Int
  left : String
  right : String

namespace DiffRow

def fit (width : Int) (text : String) : String := String.ofList (cut width (Text.trimEnd text.toList))

def ofRow (width : Int) (row : Alignment.Row) : DiffRow where
  changed := row.changed
  leftNumber := row.left.index.map (· + 1)
  rightNumber := row.right.index.map (· + 1)
  left := fit width row.left.text
  right := fit width row.right.text

def numberJson : Option Int → Json
  | none => .null
  | some number => .ofInt number

def toJson (row : DiffRow) : Json :=
  .object [("changed", .bool row.changed), ("left_number", numberJson row.leftNumber),
    ("right_number", numberJson row.rightNumber), ("left", .string row.left), ("right", .string row.right)]

/-- Line numbers have six columns; zero is no line. -/
def numberText : Option Int → Except Failure String
  | none | some 0 => return alignRight 6 ""
  | some number => (numeral number).map (alignRight 6)

def text (room : Nat) (width : Int) (row : DiffRow) : Except Failure String := do
  let mark := if row.changed then "!" else " "
  let leftNumber ← numberText row.leftNumber
  let left ← column room width row.left
  let rightNumber ← numberText row.rightNumber
  return s!"{mark} {leftNumber} {left} | {rightNumber} {row.right}\n"

end DiffRow

structure Diff where
  left : Summary
  right : Summary
  rows : List DiffRow
  width : Int
  changedCount : Int
  total : Int

namespace Diff

def ofNames (alignment : Alignment) (width : Int) (leftName rightName : String) : Diff where
  left := .ofKernel leftName alignment.left
  right := .ofKernel rightName alignment.right
  rows := alignment.rows.map (DiffRow.ofRow width)
  width := width
  changedCount := alignment.changedCount
  total := alignment.length

def toJsonWith (report : Diff) (left right : List (String × Json)) : Json :=
  .object [("left", .object (report.left.fields ++ left)), ("right", .object (report.right.fields ++ right)),
    ("rows", .array (report.rows.map DiffRow.toJson)), ("width", .ofInt report.width),
    ("changed_count", .ofInt report.changedCount), ("total", .ofInt report.total)]

def toJson (report : Diff) : Json := report.toJsonWith [] []

def text (room : Nat) (report : Diff) : Except Failure String := do
  let changed ← numeral report.changedCount
  let total ← numeral report.total
  let rows ← report.rows.mapM (DiffRow.text room report.width)
  return s!"{report.left.name}\n  left:  [{report.left.buildDirectory}] {report.left.assemblyFile}\n"
    ++ s!"  right: [{report.right.buildDirectory}] {report.right.assemblyFile}\n"
    ++ s!"  {changed} of {total} lines differ\n\n" ++ String.join rows

end Diff

end KernelAtlas.Report
