import KernelAtlas.Report.Summary
import KernelAtlas.Version

/-! The report of the matches of a source file. -/

set_option autoImplicit false

namespace KernelAtlas.Report

structure MatchEntry where
  kernel : Summary
  position : Int
  sourcePath : String
  fileId : Int
  outdated : Bool
  latestBuildDirectory : String
  versions : Int
  /-- Assembly lines for the queried source line, with their trimmed texts. -/
  hits : List (Int × String)
  instructions : List (String × Nat)

namespace MatchEntry

def ofPlaced (items : List Placed) (name : String) (item : Placed) : MatchEntry :=
  let kernel := item.found.kernel
  let staleness := Staleness.check item items
  { kernel := .ofKernel name kernel
    position := item.place
    sourcePath := item.found.sourceFile
    fileId := item.found.fileId
    outdated := staleness.outdated
    latestBuildDirectory := staleness.latestBuildTag
    versions := staleness.versions
    hits := item.found.hits.map fun (hit : Nat) => ((hit : Int), Text.stripped (kernel.listing.lines[hit]?.getD ""))
    instructions := Line.histogram kernel.lines }

def toJson (entry : MatchEntry) : Json :=
  .object (entry.kernel.fields ++
    [("position", .ofInt entry.position), ("source_path", .string entry.sourcePath), ("file_id", .ofInt entry.fileId),
      ("outdated", .bool entry.outdated), ("latest_build_directory", .string entry.latestBuildDirectory),
      ("versions", .ofInt entry.versions),
      ("asm_lines", .array (entry.hits.map fun hit => .object [("index", .ofInt hit.1), ("text", .string hit.2)])),
      ("instructions", .object (entry.instructions.map fun count => (count.1, .ofInt count.2)))])

def hitText (hit : Int × String) : Except Failure String := do
  let number ← numeral (hit.1 + 1)
  return s!"    {alignRight 6 number}  {hit.2}\n"

def hitsText (entry : MatchEntry) (line : Int) : Except Failure String :=
  if line = 0 then return ""
  else if entry.hits.isEmpty then do
    let number ← numeral line
    return s!"    no instructions for line {number}\n"
  else do
    let hits ← entry.hits.mapM hitText
    return String.join hits

def text (entry : MatchEntry) (line : Int) : Except Failure String := do
  let stale := if entry.outdated then s!" (outdated, latest in {entry.latestBuildDirectory})" else ""
  let position ← numeral entry.position
  let span ← entry.kernel.span
  let fileId ← numeral entry.fileId
  let hits ← entry.hitsText line
  return s!"\n[{position}] {entry.kernel.name} [{entry.kernel.buildDirectory}]{stale}\n"
    ++ s!"    file:  {span}\n    source: {entry.sourcePath} (file id {fileId})\n" ++ hits

end MatchEntry

structure Matches where
  source : String
  line : Int
  entries : List MatchEntry
  found : Bool

namespace Matches

def ofNames (query : Query) (found : List Match) (names : List String) : Matches :=
  let items := Placed.list found
  let entries := (names.zip items).map fun entry => MatchEntry.ofPlaced items entry.1 entry.2
  ⟨query.name, query.line, entries, !entries.isEmpty⟩

def toJson (report : Matches) : Json :=
  .object [("source_file", .string report.source), ("source_line", .ofInt report.line),
    ("matches", .array (report.entries.map MatchEntry.toJson)), ("has_matches", .bool report.found)]

/-- The line that was asked for, behind the name of the source file. -/
def lineText (report : Matches) : Except Failure String :=
  if report.line = 0 then return ""
  else do
    let number ← numeral report.line
    return s!":{number}"

def text (report : Matches) : Except Failure String :=
  if report.found then do
    let line ← report.lineText
    let entries ← report.entries.mapM (·.text report.line)
    return s!"{report.source}{line} - {report.entries.length} kernel(s)\n" ++ String.join entries
  else
    return s!"No assembly found for {report.source}. "
      ++ "Make sure the project is built with debug info (-g) and -save-temps.\n"

end Matches

end KernelAtlas.Report
