import KernelAtlas.Demangler.Process
import KernelAtlas.Diagnostic
import KernelAtlas.Text.Quoted

/-! The journal of a request: everything that it makes known besides its result, in order.

Journal entries are diagnostics, notes on progress, and runs of the demangler. A recorded computation
carries the entries that it wrote; they are kept also when it fails. -/

set_option autoImplicit false

namespace KernelAtlas

namespace Journal

/-- Steps of the work that are told to a reader who asks for them. -/
inductive Progress where
  | settingsRead (path : String) (directories : List Text.Points)
  | scanning (path : String)
  | scanned (count : Nat) (directory : String)
  | scannedAll (count directories : Nat)
  | revisited (path : String)
  | noTextSections
  | symbolFound (symbol : String) (line start : Nat)
  | kernelFound (symbol name buildTag : String) (start last : Int)
  | discovered (count : Nat)
  | searching (name : String) (line : Int) (count : Nat)
  | indexed (sourceLines assemblyLines : Nat)
  | matched (symbol buildTag : String) (hits : Nat) (line start last : Int)
  | lineMapped (index : Int) (file : String) (line : Nat)
  | lineUnmapped (index : Int)
  | compared (symbol left right : String) (changed length : Nat)

def Progress.text : Progress → String
  | settingsRead path directories => s!"Build directories from {path}: {Text.quotedList directories}"
  | scanning path => s!"Scanning build directory: {path}"
  | scanned count directory => s!"Found {count} assembly files in {directory}"
  | scannedAll count directories => s!"Total: found {count} assembly files across {directories} directories"
  | revisited path => s!"Skipping already scanned directory: {path}"
  | noTextSections => "No .section .text.* directives found, falling back to .globl boundaries"
  | symbolFound symbol line start => s!"Found kernel symbol: {symbol} at line {line} (section starts at {start})"
  | kernelFound symbol name buildTag start last =>
    s!"Found kernel: {symbol} in {name} [{buildTag}] (lines {start}-{last})"
  | discovered count => s!"Discovered {count} kernels"
  | searching name line count => s!"Looking for matches of {name} (line {line}) in {count} kernels"
  | indexed sourceLines assemblyLines =>
    s!"Built line mapping: {sourceLines} source lines, {assemblyLines} assembly lines"
  | matched symbol buildTag hits line start last =>
    s!"Added match: {symbol} [{buildTag}] ({hits} asm lines for line {line}, kernel at lines {start}-{last})"
  | lineMapped index file line => s!"Assembly line {index} -> {file}:{line}"
  | lineUnmapped index => s!"Assembly line {index} has no mapping"
  | compared symbol left right changed length =>
    s!"Compared {symbol} [{left}] vs [{right}]: {changed} of {length} positions changed"

inductive Entry where
  | progress (step : Progress)
  | diagnostic (diagnostic : Diagnostic)
  | started (request : Demangler.Request)

inductive Level where
  | debug
  | warning
  deriving DecidableEq, Repr

def Level.name : Level → String
  | debug => "DEBUG"
  | warning => "WARNING"

/-- Diagnostics that only explain why a result is smaller are not warnings. -/
def level : Diagnostic.Kind → Level
  | .missingBuildDirectory | .unreadableFile | .noKernelSymbol => .warning
  | .noSourceFileMatch | .demangleUnavailable => .debug

def Entry.logLine? : Entry → Option (Level × Text.Points)
  | progress step => some (.debug, step.text)
  | diagnostic found => some (level found.kind, found.text)
  | started _ => none

def Entry.diagnostic? : Entry → Option Diagnostic
  | diagnostic found => some found
  | _ => none

def Entry.request? : Entry → Option Demangler.Request
  | started request => some request
  | _ => none

def diagnostics (entries : List Entry) : List Diagnostic := entries.filterMap Entry.diagnostic?

def requests (entries : List Entry) : List Demangler.Request := entries.filterMap Entry.request?

end Journal

open Journal

/-- A computation that may fail, with the journal entries that it wrote. -/
structure Recorded (ε α : Type) where
  entries : List Entry
  result : Except ε α

namespace Recorded

variable {ε α β : Type}

def pure (value : α) : Recorded ε α := ⟨[], .ok value⟩

/-- The second computation runs, and writes, only if the first succeeds. -/
def bind (first : Recorded ε α) (second : α → Recorded ε β) : Recorded ε β :=
  match first.result with
  | .error failure => ⟨first.entries, .error failure⟩
  | .ok value =>
    let next := second value
    ⟨first.entries ++ next.entries, next.result⟩

instance : Monad (Recorded ε) where
  pure := pure
  bind := bind

def record (entry : Entry) : Recorded ε Unit := ⟨[entry], .ok ()⟩

def note (step : Progress) : Recorded ε Unit := record (.progress step)

def report (diagnostic : Diagnostic) : Recorded ε Unit := record (.diagnostic diagnostic)

def ofExcept (result : Except ε α) : Recorded ε α := ⟨[], result⟩

def fail (failure : ε) : Recorded ε α := ⟨[], .error failure⟩

def mapError {ε' : Type} (convert : ε → ε') (computation : Recorded ε α) : Recorded ε' α :=
  ⟨computation.entries, computation.result.mapError convert⟩

def diagnostics (computation : Recorded ε α) : List Diagnostic := Journal.diagnostics computation.entries

theorem result_bind (first : Recorded ε α) (second : α → Recorded ε β) :
    (first >>= second).result = first.result >>= fun value => (second value).result := by
  obtain ⟨entries, result⟩ := first
  cases result <;> rfl

theorem entries_bind_of_ok {first : Recorded ε α} {value : α} (done : first.result = .ok value)
    (second : α → Recorded ε β) : (first >>= second).entries = first.entries ++ (second value).entries := by
  simp only [Bind.bind, bind, done]

theorem entries_bind_of_error {first : Recorded ε α} {failure : ε} (failed : first.result = .error failure)
    (second : α → Recorded ε β) : (first >>= second).entries = first.entries := by
  simp only [Bind.bind, bind, failed]

instance : LawfulMonad (Recorded ε) :=
  LawfulMonad.mk' _
    (by
      rintro α ⟨entries, result⟩
      cases result <;> simp [Functor.map, bind, pure])
    (by
      intro α β value second
      simp [Bind.bind, Pure.pure, bind, pure])
    (by
      rintro α β γ ⟨entries, result⟩ second third
      cases result with
      | error failure => rfl
      | ok value =>
        simp only [Bind.bind, bind]
        cases (second value).result with
        | error failure => rfl
        | ok next => simp)

end Recorded

end KernelAtlas
