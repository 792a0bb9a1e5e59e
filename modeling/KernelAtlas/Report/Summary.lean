import KernelAtlas.Demangler.Memo
import KernelAtlas.Json.Number
import KernelAtlas.Kernel
import KernelAtlas.Report.Column

/-! What is shown of a kernel, in every report. -/

set_option autoImplicit false

namespace KernelAtlas

namespace Report

structure Summary where
  symbol : String
  name : String
  buildDirectory : String
  assemblyFile : String
  assemblyName : String
  startLine : Int
  endLine : Int
  lineCount : Int
  modified : Binary64

namespace Summary

def ofKernel (name : String) (kernel : Kernel) : Summary where
  symbol := kernel.symbol
  name := name
  buildDirectory := kernel.listing.buildTag
  assemblyFile := kernel.listing.path
  assemblyName := kernel.listing.name
  startLine := kernel.start
  endLine := kernel.last
  lineCount := kernel.size
  modified := kernel.listing.modified

def fields (summary : Summary) : List (String × Json) :=
  [("symbol", .string summary.symbol), ("name", .string summary.name),
    ("build_directory", .string summary.buildDirectory), ("assembly_file", .string summary.assemblyFile),
    ("assembly_name", .string summary.assemblyName), ("start_line", .ofInt summary.startLine),
    ("end_line", .ofInt summary.endLine), ("line_count", .ofInt summary.lineCount),
    ("mtime", .ofBinary64 summary.modified)]

/-- The file and the lines of a kernel, counted from one. -/
def span (summary : Summary) : Except Failure String := do
  let first ← numeral (summary.startLine + 1)
  let last ← numeral (summary.endLine + 1)
  return s!"{summary.assemblyFile} (lines {first}-{last})"

end Summary

end Report

def Kernel.request (kernel : Kernel) (command : List String) (timeout : Timeout) : Demangler.Request :=
  ⟨command, kernel.symbol, timeout⟩

end KernelAtlas
