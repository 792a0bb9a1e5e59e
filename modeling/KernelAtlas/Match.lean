import KernelAtlas.Kernel
import KernelAtlas.LineIndex

/-! Matches: the kernels that were compiled from a source file.

Source files are compared by the last component of their paths, so that kernels of several checkouts
match alike. Of two files of one name the first declared wins. Within one resolution an index is built once
for each listing and file. -/

set_option autoImplicit false

namespace KernelAtlas

open Numeral (Oversize)

/-- A kernel that refers to the source file asked for. -/
structure Match where
  kernel : Kernel
  sourceFile : String
  fileId : Int
  /-- The instructions of the kernel for the source line asked for. -/
  hits : List Nat
  deriving DecidableEq

namespace Match

def symbol (found : Match) : String := found.kernel.symbol

def buildTag (found : Match) : String := found.kernel.listing.buildTag

def modified (found : Match) : Binary64 := found.kernel.listing.modified

def time (found : Match) : Rat := found.modified.rank

def index (found : Match) : Recorded Oversize LineIndex := do
  let index ← Recorded.ofExcept (LineIndex.build found.kernel.listing.lines found.kernel.table)
  Recorded.note (.indexed index.forwardMap.size index.reverseMap.size)
  return index

end Match

/-- A question for the code of a source file: its path, and a line counted from one, or zero for the
kernels alone. -/
structure Query where
  source : String
  line : Int

namespace Query

def name (query : Query) : String := Path.baseName query.source

def mismatch (query : Query) (kernel : Kernel) : Diagnostic :=
  ⟨.noSourceFileMatch, s!"Kernel {kernel.symbol} does not reference {query.name}", some kernel.listing.path,
    some kernel.start⟩

def announce (query : Query) (found : Match) : Journal.Entry :=
  .progress (.matched found.symbol found.buildTag found.hits.length query.line found.kernel.start found.kernel.last)

/-- The indexes built so far in one resolution, by the place of the listing and the number of the file. -/
abbrev Indexes := OrderedMap (Nat × Int) LineIndex

/-- The index of a kernel's listing for one file. It is built when it is first needed and then kept. -/
def indexFor (kept : Indexes) (place : Nat) (kernel : Kernel) (fileId : Int) : Recorded Oversize (LineIndex × Indexes) :=
  match kept.get? (place, fileId) with
  | some index => return (index, kept)
  | none => do
    let index ← Recorded.ofExcept (LineIndex.buildWanted kernel.listing.lines kernel.table (· == fileId))
    Recorded.note (.indexed index.forwardMap.size index.reverseMap.size)
    return (index, kept.insert (place, fileId) index)

def hitsFor (query : Query) (kept : Indexes) (place : Nat) (kernel : Kernel) (fileId : Int) (path : String) :
    Recorded Oversize (List Nat × Indexes) :=
  if 0 < query.line then do
    let (index, kept) ← indexFor kept place kernel fileId
    return ((index.forward path (query.line - 1)).filter fun hit => kernel.contains hit, kept)
  else
    return ([], kept)

def matchFor (query : Query) (kept : Indexes) (place : Nat) (kernel : Kernel) :
    Recorded Oversize (Option Match × Indexes) :=
  match kernel.table.findBaseName? query.name with
  | none => do
    Recorded.report (query.mismatch kernel)
    return (none, kept)
  | some (fileId, path) => do
    let (hits, kept) ← query.hitsFor kept place kernel fileId path
    let found : Match := ⟨kernel, path, fileId, hits⟩
    Recorded.record (query.announce found)
    return (some found, kept)

def resolveFrom (query : Query) (kept : Indexes) : List (Nat × Kernel) → Recorded Oversize (List Match)
  | [] => return []
  | (place, kernel) :: rest => do
    let (found, kept) ← query.matchFor kept place kernel
    let later ← query.resolveFrom kept rest
    return found.toList ++ later

def placedKernels (dumps : List Dump) : List (Nat × Kernel) :=
  dumps.zipIdx.flatMap fun entry => entry.1.kernels.map fun kernel => (entry.2, kernel)

def resolve (query : Query) (dumps : List Dump) : Recorded Oversize (List Match) := do
  Recorded.note (.searching query.name query.line (kernelsOf dumps).length)
  query.resolveFrom .empty (placedKernels dumps)

end Query

end KernelAtlas
