import KernelAtlas.Number.Shortest
import KernelAtlas.Text.Lines
import KernelAtlas.Text.Utf8

/-! The external demangler, as far as the library sees it: what it is asked and how a run can end.

A demangler is any function from requests to outcomes. One that is a process prints bytes; a run of it comes to nothing
if they are not text, or if the system cannot wait for as long as it is told to. -/

set_option autoImplicit false

namespace KernelAtlas

/-- Seconds to wait, kept as they were given: a whole number, a fraction, something that is no number, or no limit. -/
inductive Timeout where
  | whole (seconds : Int)
  | fraction (seconds : Binary64)
  | undefined
  | unlimited
  deriving DecidableEq, Repr

namespace Timeout

def text : Timeout → String
  | .whole seconds => toString seconds
  | .fraction seconds => seconds.text
  | .undefined => "nan"
  | .unlimited => "None"

inductive Length where
  | exactly (seconds : Rat)
  | endless (negative : Bool)
  | undefined
  | unlimited
  deriving DecidableEq

def length : Timeout → Length
  | .whole seconds => .exactly seconds
  | .fraction (.finite negative magnitude) => .exactly (if negative then -magnitude else magnitude)
  | .fraction (.infinite negative) => .endless negative
  | .undefined => .undefined
  | .unlimited => .unlimited

end Timeout

namespace Demangler

structure Request where
  command : List String
  name : String
  timeout : Timeout
  deriving DecidableEq

def Request.input (request : Request) : String := request.name ++ "\n"

inductive Refusal where
  | nullInCommand
  | outOfRange
  | endless
  | tooLong
  | undefined
  deriving DecidableEq, Repr

def Refusal.message : Refusal → String
  | nullInCommand => "embedded null byte"
  | outOfRange => "int too large to convert to float"
  | endless => "cannot convert float infinity to integer"
  | tooLong => "timeout is too large"
  | undefined => "cannot convert float NaN to integer"

inductive Outcome where
  | printed (output : String)
  | exited (status : Int)
  | timedOut
  | missing
  | failed (reason : String)
  | undecodable (failure : Text.Utf8.Failure)
  | refused (refusal : Refusal)
  deriving DecidableEq, Repr

end Demangler

abbrev Demangler := Demangler.Request → Demangler.Outcome

namespace Demangler

inductive Ending where
  | missing
  | failed (reason : String)
  | late
  | ended (status : Int) (output errors : List UInt8)
  deriving DecidableEq

abbrev Process := Request → Ending

def Ending.started : Ending → Bool
  | missing | failed _ => false
  | late | ended _ _ _ => true

/-- Both streams are decoded before the status is looked at. -/
def Outcome.ofEnding : Ending → Outcome
  | .missing => .missing
  | .failed reason => .failed reason
  | .late => .timedOut
  | .ended status output errors =>
    match Text.Utf8.decode output, Text.Utf8.decode errors with
    | .error failure, _ => .undecodable failure
    | .ok _, .error failure => .undecodable failure
    | .ok text, .ok _ => if status = 0 then .printed (String.ofList (Text.unifyNewlines text)) else .exited status

/-- Why a wait cannot be begun, if `longest` is the longest one that the system knows. Seconds are counted in binary
fractions and handed on as milliseconds. -/
def refusal? (longest : Rat) : Timeout.Length → Option Refusal
  | .exactly seconds =>
    match Binary64.ofRat seconds, Binary64.ofRat (1000 * seconds) with
    | .infinite _, _ => some .outOfRange
    | .finite _ _, .infinite false => some .endless
    | .finite _ _, _ => if longest < seconds then some .tooLong else none
  | .endless negative => if negative then none else some .endless
  | .undefined => some .undefined
  | .unlimited => none

/-- The demangler that is a process. A command without any word is missing; a wait is refused once the process runs. -/
def ofProcess (longest : Rat) (process : Process) : Demangler := fun request =>
  let ending := process request
  if request.command = [] then .missing
  else if request.command.any (·.toList.contains (Char.ofNat 0)) then .refused .nullInCommand
  else
    match refusal? longest request.timeout.length with
    | some refusal => if ending.started then .refused refusal else .ofEnding ending
    | none => .ofEnding ending

end Demangler

end KernelAtlas
