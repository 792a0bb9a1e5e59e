import KernelAtlas.Journal
import KernelAtlas.Text.Blank

/-! Demangled names, and the memory of those that were found last.

Demangling is for display: if the demangler fails, the name is shown as it is. Only names that were found
are remembered, by the command, the name and the length of the wait; of these the most recently used are
kept. Some failures are not expected of a demangler: they leave the call and are not reported. -/

set_option autoImplicit false

namespace KernelAtlas.Demangler

inductive Failure where
  | missing (command : String)
  | noCommand
  | exited (status : Int)
  | timedOut (timeout : Timeout)
  | failed (reason : String)
  | silent
  | undecodable (failure : Text.Utf8.Failure)
  | refused (refusal : Refusal)
  deriving DecidableEq, Repr

def Failure.message : Failure → String
  | missing command => s!"Demangler not found: {command}"
  | noCommand => "list index out of range"
  | exited status => s!"Demangler exited with status {status}"
  | timedOut timeout => s!"Demangler timed out after {timeout.text} seconds"
  | failed reason => s!"Failed to run demangler: {reason}"
  | silent => "Demangler produced no output"
  | undecodable failure => failure.message
  | refused refusal => refusal.message

def Failure.escapes : Failure → Bool
  | noCommand | undecodable _ | refused _ => true
  | missing _ | exited _ | timedOut _ | failed _ | silent => false

def notFound : List String → Failure
  | [] => .noCommand
  | program :: _ => .missing program

/-- What an outcome says about the name: the output without the blanks around it, unless it is blank. -/
def Outcome.name (request : Request) : Outcome → Except Failure String
  | .printed output =>
    match Text.trim output.toList with
    | [] => .error .silent
    | name => .ok (String.ofList name)
  | .exited status => .error (.exited status)
  | .timedOut => .error (.timedOut request.timeout)
  | .missing => .error (notFound request.command)
  | .failed reason => .error (.failed reason)
  | .undecodable failure => .error (.undecodable failure)
  | .refused refusal => .error (.refused refusal)

def run (demangler : Demangler) (request : Request) : Recorded Failure String :=
  ⟨[.started request], (demangler request).name request⟩

/-- What a remembered name is found by; waits of the same length are the same. -/
structure Key where
  name : String
  command : List String
  wait : Timeout.Length
  deriving DecidableEq

def Request.key (request : Request) : Key := ⟨request.name, request.command, request.timeout.length⟩

/-- Remembered names, the most recently used first. -/
structure Memo where
  entries : List (Key × String)
  deriving DecidableEq

namespace Memo

def empty : Memo := ⟨[]⟩

def capacity : Nat := 4096

def size (memo : Memo) : Nat := memo.entries.length

def get? (memo : Memo) (key : Key) : Option String :=
  (memo.entries.find? fun entry => entry.1 = key).map Prod.snd

/-- Makes a name the most recently used; the least recently used one is forgotten if there are too
many. -/
def use (memo : Memo) (key : Key) (name : String) : Memo :=
  ⟨((key, name) :: memo.entries.filter fun entry => entry.1 ≠ key).take capacity⟩

theorem size_use_le (memo : Memo) (key : Key) (name : String) : (memo.use key name).size ≤ capacity :=
  List.length_take_le _ _

theorem get?_use_self (memo : Memo) (key : Key) (name : String) : (memo.use key name).get? key = some name := by
  simp [use, get?, capacity]

theorem nodup_use {memo : Memo} (distinct : (memo.entries.map Prod.fst).Nodup) (key : Key) (name : String) :
    ((memo.use key name).entries.map Prod.fst).Nodup := by
  have kept : ((memo.entries.filter fun entry => entry.1 ≠ key).map Prod.fst).Nodup :=
    List.Nodup.sublist (List.filter_sublist.map Prod.fst) distinct
  simp only [use, List.map_take]
  refine List.Nodup.sublist (List.take_sublist _ _) (List.nodup_cons.mpr ⟨?_, kept⟩)
  simp

end Memo

def unavailable (name : String) (failure : Failure) : Diagnostic :=
  ⟨.demangleUnavailable, s!"Failed to demangle {name}: {failure.message}", none, none⟩

structure Shown where
  name : String
  memo : Memo

def fresh (demangler : Demangler) (memo : Memo) (request : Request) : Recorded Failure Shown :=
  let attempt := run demangler request
  match attempt.result with
  | .ok name => ⟨attempt.entries, .ok ⟨name, memo.use request.key name⟩⟩
  | .error failure =>
    if failure.escapes then ⟨attempt.entries, .error failure⟩
    else ⟨attempt.entries ++ [.diagnostic (unavailable request.name failure)], .ok ⟨request.name, memo⟩⟩

def demangle (demangler : Demangler) (memo : Memo) (request : Request) : Recorded Failure Shown :=
  if request.name = "" then return ⟨"", memo⟩
  else
    match memo.get? request.key with
    | some name => return ⟨name, memo.use request.key name⟩
    | none => fresh demangler memo request

def demangleAll (demangler : Demangler) (memo : Memo) : List Request → Recorded Failure (List String × Memo)
  | [] => return ([], memo)
  | request :: rest => do
    let shown ← demangle demangler memo request
    let (names, memo) ← demangleAll demangler shown.memo rest
    return (shown.name :: names, memo)

theorem length_of_demangleAll {demangler : Demangler} {memo : Memo} {asked : List Request} {names : List String}
    {after : Memo} (done : (demangleAll demangler memo asked).result = .ok (names, after)) :
    names.length = asked.length := by
  induction asked generalizing memo names after with
  | nil =>
    cases done
    rfl
  | cons request rest ih =>
    simp only [demangleAll, Recorded.result_bind] at done
    cases first : (demangle demangler memo request).result with
    | error failure => simp [first, Bind.bind, Except.bind] at done
    | ok shown =>
      cases later : (demangleAll demangler shown.memo rest).result with
      | error failure => simp [first, later, Bind.bind, Except.bind] at done
      | ok found =>
        simp only [first, later, Bind.bind, Except.bind] at done
        cases done
        simp [ih later]

end KernelAtlas.Demangler
