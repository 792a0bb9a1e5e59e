import KernelAtlas.Journal
import KernelAtlas.Listing
import KernelAtlas.Slice
import KernelAtlas.SourceTable

/-! Kernels: the named regions of an assembly listing.

A listing is cut at the lines that open a text section of their own or, if there is none, at the lines
that export a kernel symbol. Each region runs up to the next cut. It is a kernel if one of its first
lines exports a kernel symbol; otherwise it is reported and dropped. -/

set_option autoImplicit false

namespace KernelAtlas

open Numeral (Oversize)

/-- A region of a listing, from line `start` up to and without line `stop`. The regions that a listing is cut
into have bounds within it. -/
structure Kernel where
  symbol : String
  start : Int
  stop : Int
  listing : Listing
  /-- The source files of the whole listing. -/
  table : SourceTable
  deriving DecidableEq

namespace Kernel

/-- The last line of the region; it precedes `start` if the region is empty. -/
def last (kernel : Kernel) : Int := kernel.stop - 1

def size (kernel : Kernel) : Int := kernel.stop - kernel.start

def lines (kernel : Kernel) : List String := slice kernel.start kernel.stop kernel.listing.lines

def contains (kernel : Kernel) (index : Int) : Bool := kernel.start ≤ index && index < kernel.stop

/-- Exported names this short belong to metadata. -/
def shortestSymbol : Nat := 6

def isSymbol (name : List Char) : Bool := !name.contains '.' && shortestSymbol ≤ name.length

def symbolOn? (line : String) : Option String :=
  match Directive.globl? line.toList with
  | none => none
  | some name => if isSymbol name then some (String.ofList name) else none

end Kernel

namespace Listing

def positions (test : String → Bool) (lines : List String) : List Nat :=
  lines.zipIdx.filterMap fun entry => if test entry.1 then some entry.2 else none

theorem mem_positions_iff (test : String → Bool) (lines : List String) (index : Nat) :
    index ∈ positions test lines ↔ ∃ line, lines[index]? = some line ∧ test line = true := by
  simp only [positions, List.mem_filterMap]
  constructor
  · rintro ⟨⟨line, place⟩, member, kept⟩
    split at kept
    · rename_i passed
      cases Option.some.inj kept
      exact ⟨line, List.mem_zipIdx_iff_getElem?.mp member, passed⟩
    · exact absurd kept (by simp)
  · rintro ⟨line, found, passed⟩
    exact ⟨(line, index), List.mem_zipIdx_iff_getElem?.mpr found, by simp [passed]⟩

def textSections (lines : List String) : List Nat :=
  positions (fun line => Directive.opensTextSection line.toList) lines

def exportedSymbols (lines : List String) : List Nat :=
  positions (fun line => (Kernel.symbolOn? line).isSome) lines

def regionStarts (lines : List String) : List Nat :=
  match textSections lines with
  | [] => exportedSymbols lines
  | starts => starts

def spans (total : Nat) : List Nat → List (Nat × Nat)
  | [] => []
  | [start] => [(start, total)]
  | start :: next :: rest => (start, next) :: spans total (next :: rest)

theorem map_fst_spans (total : Nat) (starts : List Nat) : (spans total starts).map Prod.fst = starts := by
  fun_induction spans total starts with
  | case1 => rfl
  | case2 start => rfl
  | case3 start next rest ih => simpa using ih

/-- The number of lines behind the start of a region in which its symbol is looked for. -/
def symbolWindow : Nat := 20

/-- The first kernel symbol exported near the start of a region, with its line. -/
def symbolIn? (lines : List String) (start stop : Nat) : Option (String × Nat) :=
  ((lines.drop start).take (min (stop - start) (symbolWindow + 1))).zipIdx start |>.findSome? fun entry =>
    (Kernel.symbolOn? entry.1).map (·, entry.2)

structure Region where
  start : Nat
  stop : Nat
  /-- The symbol and the line that exports it. -/
  symbol : Option (String × Nat)
  deriving DecidableEq, Repr

def regions (lines : List String) : List Region :=
  (spans lines.length (regionStarts lines)).map fun span => ⟨span.1, span.2, symbolIn? lines span.1 span.2⟩

def Region.kernel? (listing : Listing) (table : SourceTable) (region : Region) : Option Kernel :=
  region.symbol.map fun found => ⟨found.1, region.start, region.stop, listing, table⟩

/-- A region is either named or reported. -/
def Region.entry (listing : Listing) (region : Region) : Journal.Entry :=
  match region.symbol with
  | some (symbol, line) => .progress (.symbolFound symbol line region.start)
  | none =>
    .diagnostic ⟨.noKernelSymbol, "Section has no kernel .globl directive, skipping", some listing.path,
      some region.start⟩

def kernels (listing : Listing) (table : SourceTable) : Recorded Oversize (List Kernel) :=
  let found := regions listing.lines
  let fallback := if textSections listing.lines = [] then [Journal.Entry.progress .noTextSections] else []
  ⟨fallback ++ found.map (Region.entry listing), .ok (found.filterMap (Region.kernel? listing table))⟩

end Listing

structure Dump where
  listing : Listing
  table : SourceTable
  kernels : List Kernel
  deriving DecidableEq

namespace Dump

def ofTable (listing : Listing) (table : SourceTable) : Recorded Oversize Dump := do
  let kernels ← listing.kernels table
  return ⟨listing, table, kernels⟩

def announce (kernel : Kernel) : Journal.Entry :=
  .progress (.kernelFound kernel.symbol kernel.listing.name kernel.listing.buildTag kernel.start kernel.last)

def ofListing (listing : Listing) : Recorded Oversize Dump := do
  let table ← Recorded.ofExcept (SourceTable.ofLines listing.lines)
  let dump ← ofTable listing table
  ⟨dump.kernels.map announce, .ok dump⟩

end Dump

def kernelsOf (dumps : List Dump) : List Kernel := dumps.flatMap Dump.kernels

def sourceNames (kernels : List Kernel) : List String :=
  let names := kernels.flatMap fun kernel => kernel.table.values.map Path.baseName
  names.eraseDups.mergeSort fun left right => left ≤ right

end KernelAtlas
