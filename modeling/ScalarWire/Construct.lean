import ScalarWire.Value
import ScalarWire.Zone.Offset

/-!
# Values from fields and ticks

Dates and times from their fields, and from ticks, which are seconds since the start of 1970 in
UTC. Ticks give the fields that a local clock shows at that instant.
-/

namespace ScalarWire

structure Ticks where
  seconds : Int64
  deriving DecidableEq, Repr

namespace Ticks

-- Powers are those of the core library, also beside Mathlib.
attribute [local instance (high)] instPowNat

/-- The whole part of a number, cut toward zero. -/
def wholePart (negative : Bool) (mantissa : Nat) (exponent : Int) : Int :=
  Numeral.negateIf negative (mantissa * 2 ^ exponent.toNat / 2 ^ (-exponent).toNat)

/-- Fractional seconds lose their fraction; what does not fit a 64-bit word is out of range. -/
def ofDouble (x : Double) : Except CodecError Ticks :=
  let reject := CodecError.outOfRange .timestamp (String.ofList x.display)
  match x.value with
  | .finite negative mantissa exponent =>
    let whole := wholePart negative mantissa exponent
    if -0x8000000000000000 ≤ whole ∧ whole < 0x8000000000000000 then pure ⟨Int64.ofInt whole⟩
    else throw reject
  | _ => throw reject

end Ticks

/-- Fields joined by a mark. -/
def joined (mark : Char) (fields : List Int) : List Char :=
  List.intercalate [mark] (fields.map Numeral.signed)

def orOutOfRange {α : Type} (type : WireType) (text : List Char) :
    Option α → Except CodecError α
  | some a => pure a
  | none => throw (.outOfRange type (String.ofList text))

def Date.ofFields (year : Int) (month day : Nat) : Except CodecError Date :=
  orOutOfRange .date (joined '-' [year, month, day]) (ofFields? year month day)

def TimeOfDay.ofFields (hour minute second : Nat) : Except CodecError TimeOfDay :=
  orOutOfRange .time (joined ':' [hour, minute, second]) (ofFields? hour minute second)

def Timestamp.ofFields (year : Int) (month day hour minute second : Nat) :
    Except CodecError Timestamp :=
  orOutOfRange .timestamp
    (joined '-' [year, month, day] ++ ' ' :: joined ':' [hour, minute, second])
    (do return ⟨← Date.ofFields? year month day, ← TimeOfDay.ofFields? hour minute second⟩)

namespace Ticks

/-- What a clock ahead of UTC by an offset shows. An instant outside the calendar is out of
range; local fields outside it cannot be had at all. -/
def wallClock (type : WireType) (offset : Offset) (t : Ticks) : Except Failure Timestamp :=
  match Timestamp.ofUnixSeconds? t.seconds.toInt with
  | none => throw (.rejected (.outOfRange type (Numeral.ofInt t.seconds.toInt)))
  | some utc =>
    match utc.addSeconds? offset.east with
    | some wall => pure wall
    | none => throw .aborted

def toDate (offset : Offset) (t : Ticks) : Except Failure Date := do
  let wall ← t.wallClock .date offset
  Date.ofFields wall.date.year wall.date.month wall.date.day

def toTime (offset : Offset) (t : Ticks) : Except Failure TimeOfDay := do
  let wall ← t.wallClock .time offset
  TimeOfDay.ofFields wall.time.hour wall.time.minute wall.time.second

def toTimestamp (offset : Offset) (t : Ticks) : Except Failure Timestamp := do
  let wall ← t.wallClock .timestamp offset
  Timestamp.ofFields wall.date.year wall.date.month wall.date.day wall.time.hour wall.time.minute
    wall.time.second

end Ticks

end ScalarWire
