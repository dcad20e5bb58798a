import ScalarWire.Calendar.Count
import ScalarWire.Number.BigEndian
import ScalarWire.Number.Numeral
import ScalarWire.Payload

/-!
# Dates and times in binary

Dates and timestamps travel as counts from the start of 2000, times as microseconds since
midnight, in big-endian words. A zoned time has its displacement behind it, in seconds west of
UTC, and is brought to UTC.
-/

namespace ScalarWire

/-- The number in bytes of this width. -/
def wordOf (width : Nat) (type : WireType) (bytes : List UInt8) : Except CodecError Int :=
  if bytes.length = width then pure (BigEndian.signed bytes)
  else throw (.malformedBytes type bytes)

/-- What a count stands for, unless that leaves the range of its type. -/
def inRange {α : Type} (type : WireType) (count : Int) : Option α → Except CodecError α
  | some a => pure a
  | none => throw (.outOfRange type (Numeral.ofInt count))

namespace Date

def ofBytes (type : WireType) (bytes : List UInt8) : Except CodecError Date := do
  let count ← wordOf 4 type bytes
  inRange type count (ofCount? count)

def toBytes (d : Date) : List UInt8 :=
  BigEndian.encode 4 d.count

end Date

namespace TimeOfDay

/-- The time that lies this many microseconds after midnight; the end of the day is midnight. -/
def ofWholeDay? (micros : Int) : Option TimeOfDay :=
  if 0 ≤ micros ∧ micros ≤ microsPerDay then some (wrapMicros micros) else none

def ofBytes (type : WireType) (bytes : List UInt8) : Except CodecError TimeOfDay := do
  let micros ← wordOf 8 type bytes
  inRange type micros (ofWholeDay? micros)

def toBytes (t : TimeOfDay) : List UInt8 :=
  BigEndian.encode 8 t.micros

def ofZonedBytes (type : WireType) (bytes : List UInt8) : Except CodecError TimeOfDay :=
  if bytes.length = 12 then
    let micros := BigEndian.signed (bytes.take 8)
    let west := BigEndian.signed (bytes.drop 8)
    inRange type micros
      ((ofWholeDay? micros).map fun _ => wrapMicros (micros + west * 1000000))
  else throw (.malformedBytes type bytes)

/-- A time already brought to UTC, with no displacement. -/
def toZonedBytes (t : TimeOfDay) : List UInt8 :=
  BigEndian.encode 8 t.micros ++ BigEndian.encode 4 0

end TimeOfDay

namespace Timestamp

def ofBytes (type : WireType) (bytes : List UInt8) : Except CodecError Timestamp := do
  let count ← wordOf 8 type bytes
  inRange type count (ofCount? count)

def toBytes (t : Timestamp) : List UInt8 :=
  BigEndian.encode 8 t.count

end Timestamp

end ScalarWire
