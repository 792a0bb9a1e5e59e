import KernelAtlas.Text.Quoted

/-! Decoding of UTF-8, with an account of every byte that is not part of a character.

The decoder is a machine over single bytes. It stands between characters or inside one; a byte that
cannot continue the character it stands in ends a flawed piece, the longest run that could have begun
a character, and is then read afresh. An ASCII byte therefore always stands for itself, whatever is
in front of it. -/

set_option autoImplicit false

namespace KernelAtlas.Text.Utf8

inductive Flaw where
  | badStart
  | badContinuation
  | truncated
  deriving DecidableEq, Repr

inductive Piece where
  | scalar (c : Char)
  | flawed (width : Nat) (flaw : Flaw)
  deriving DecidableEq, Repr

/-- The inside of a character: `missing + 1` bytes are still to come, the next of them between `low`
and `high`; `width` bytes were read and give `value`. -/
structure Partial where
  missing : Nat
  low : Nat
  high : Nat
  value : Nat
  width : Nat
  ascii_lt : 0x80 ≤ low := by decide
  deriving DecidableEq, Repr

inductive State where
  | between
  | inside (part : Partial)
  deriving DecidableEq, Repr

/-- What the first byte of a longer character promises. Surrogates, overlong forms and values past
the last code point are excluded by the bounds on the second byte. -/
def lead? (byte : Nat) : Option Partial :=
  if 0xC2 ≤ byte ∧ byte ≤ 0xDF then some ⟨0, 0x80, 0xBF, byte - 0xC0, 1, by decide⟩
  else if byte = 0xE0 then some ⟨1, 0xA0, 0xBF, 0, 1, by decide⟩
  else if byte = 0xED then some ⟨1, 0x80, 0x9F, 0xD, 1, by decide⟩
  else if 0xE1 ≤ byte ∧ byte ≤ 0xEF then some ⟨1, 0x80, 0xBF, byte - 0xE0, 1, by decide⟩
  else if byte = 0xF0 then some ⟨2, 0x90, 0xBF, 0, 1, by decide⟩
  else if 0xF1 ≤ byte ∧ byte ≤ 0xF3 then some ⟨2, 0x80, 0xBF, byte - 0xF0, 1, by decide⟩
  else if byte = 0xF4 then some ⟨2, 0x80, 0x8F, 4, 1, by decide⟩
  else none

def start (byte : Nat) : List Piece × State :=
  if byte < 0x80 then ([.scalar (Char.ofNat byte)], .between)
  else match lead? byte with
    | some part => ([], .inside part)
    | none => ([.flawed 1 .badStart], .between)

def interrupt : State → List Piece
  | .between => []
  | .inside part => [.flawed part.width .badContinuation]

/-- The inside of a character after one more byte. -/
def Partial.after (part : Partial) (missing byte : Nat) : Partial :=
  ⟨missing, 0x80, 0xBF, part.value * 64 + (byte - 0x80), part.width + 1, by decide⟩

def step : State → Nat → List Piece × State
  | .between, byte => start byte
  | .inside part, byte =>
    if part.low ≤ byte ∧ byte ≤ part.high then
      match part.missing with
      | 0 => ([.scalar (Char.ofNat (part.value * 64 + (byte - 0x80)))], .between)
      | missing + 1 => ([], .inside (part.after missing byte))
    else
      let (pieces, next) := start byte
      (interrupt (.inside part) ++ pieces, next)

def finish : State → List Piece
  | .between => []
  | .inside part => [.flawed part.width .truncated]

def piecesFrom (state : State) : List UInt8 → List Piece
  | [] => finish state
  | byte :: rest =>
    let (pieces, next) := step state byte.toNat
    pieces ++ piecesFrom next rest

def pieces (bytes : List UInt8) : List Piece := piecesFrom .between bytes

/-- An ASCII byte stands for itself in every state. -/
theorem step_ascii {byte : Nat} (ascii : byte < 0x80) (state : State) :
    step state byte = (interrupt state ++ [.scalar (Char.ofNat byte)], .between) := by
  cases state with
  | between => simp [step, start, ascii, interrupt]
  | inside part =>
    have low := part.ascii_lt
    have outside : ¬(part.low ≤ byte ∧ byte ≤ part.high) := by omega
    simp [step, start, ascii, outside]

def Piece.char : Piece → Char
  | .scalar c => c
  | .flawed _ _ => Char.ofNat 0xFFFD

/-- Every input decodes; what is not a character reads as U+FFFD, once for each flawed piece. -/
def decodeLossy (bytes : List UInt8) : List Char := (pieces bytes).map Piece.char

structure Failure where
  position : Nat
  width : Nat
  flaw : Flaw
  /-- The byte at `position`. -/
  byte : Nat
  deriving DecidableEq, Repr

def firstFlaw? (position : Nat) : List Piece → Option (Nat × Nat × Flaw)
  | [] => none
  | .flawed width flaw :: _ => some (position, width, flaw)
  | .scalar c :: rest => firstFlaw? (position + c.utf8Size) rest

def decode (bytes : List UInt8) : Except Failure (List Char) :=
  match firstFlaw? 0 (pieces bytes) with
  | none => .ok (decodeLossy bytes)
  | some (position, width, flaw) =>
    .error ⟨position, width, flaw, ((bytes.drop position).headD 0).toNat⟩

def Flaw.reason : Flaw → String
  | .badStart => "invalid start byte"
  | .badContinuation => "invalid continuation byte"
  | .truncated => "unexpected end of data"

/-- Where and why decoding fails; a flawed piece of one byte is shown. -/
def Failure.message (failure : Failure) : String :=
  let bytes :=
    if failure.width = 1 then
      s!"byte 0x{String.ofList (Quoted.hex 2 failure.byte)} in position {failure.position}"
    else s!"bytes in position {failure.position}-{failure.position + failure.width - 1}"
  s!"'utf-8' codec can't decode {bytes}: {failure.flaw.reason}"

end KernelAtlas.Text.Utf8
