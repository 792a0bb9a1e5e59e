import KernelAtlas.Report.Summary

/-! The report of all kernels. -/

set_option autoImplicit false

namespace KernelAtlas.Report

structure Kernels where
  kernels : List Summary
  sources : List String

namespace Kernels

def ofNames (kernels : List Kernel) (names : List String) : Kernels where
  kernels := (names.zip kernels).map fun entry => .ofKernel entry.1 entry.2
  sources := sourceNames kernels

def toJson (report : Kernels) : Json :=
  .object [("kernels", .array (report.kernels.map fun summary => .object summary.fields)),
    ("source_files", .array (report.sources.map .string))]

def kernelText (summary : Summary) : Except Failure String := do
  let span ← summary.span
  return s!"  {summary.name}\n    symbol: {summary.symbol}\n    build:  {summary.buildDirectory}\n    file:   {span}\n"

def text (report : Kernels) : Except Failure String :=
  if report.kernels.isEmpty then
    return "No kernels found. Build with debug info and retained temporaries (-g -save-temps).\n"
  else do
    let kernels ← report.kernels.mapM kernelText
    return s!"Kernels ({report.kernels.length}):\n" ++ String.join kernels
      ++ s!"\nSource files ({report.sources.length}):\n"
      ++ String.join (report.sources.map fun name => s!"  {name}\n")

end Kernels

end KernelAtlas.Report
