import KernelAtlas.Number.Binary64

/-! Times of modification, as a file system keeps them: whole nanoseconds.

A time is set from a number of seconds and read back as one. Seconds are binary fractions, so both ways
round, and what is read back may differ from what was set. -/

set_option autoImplicit false

namespace KernelAtlas

structure Timestamp where
  nanoseconds : Int
  deriving DecidableEq, Repr

namespace Timestamp

def perSecond : Nat := 1000000000

/-- The time of a number of seconds. The whole seconds are exact; the fraction is rounded to a binary
fraction of nanoseconds, and that down to a whole one. -/
def ofSeconds (seconds : Rat) : Timestamp :=
  let whole : Int := if seconds < 0 then -(-seconds).floor else seconds.floor
  ⟨whole * perSecond + (Binary64.round ((seconds - whole) * perSecond)).floor⟩

def wholeSeconds (time : Timestamp) : Int := time.nanoseconds.fdiv perSecond

def rest (time : Timestamp) : Int := time.nanoseconds.fmod perSecond

/-- The time in seconds. The length of a nanosecond, the product and the sum are each rounded. -/
def seconds (time : Timestamp) : Binary64 :=
  let unit := Binary64.round (1 / (perSecond : Rat))
  .ofRat (time.wholeSeconds + Binary64.round (unit * time.rest))

end Timestamp

end KernelAtlas
