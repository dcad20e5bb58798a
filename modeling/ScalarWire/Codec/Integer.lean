import ScalarWire.Number.BigEndian
import ScalarWire.Number.Numeral
import ScalarWire.Payload
import ScalarWire.Text.Blank

/-!
# Integers on the wire

Integers as decimal text and as big-endian words. The bounds of the column type hold in both
directions; nothing is widened.
-/

namespace ScalarWire.IntegerCodec

/-- A number within the bounds of its type. -/
def checkBounds (type : WireType) (v : Int64) : Except CodecError Int64 :=
  match type.integerBounds? with
  | some (least, greatest) =>
    if v.toInt < least ∨ greatest < v.toInt then
      throw (.outOfRange type (Numeral.ofInt v.toInt))
    else pure v
  | none => pure v

def ofText (type : WireType) (s : List Char) : Except CodecError Int64 :=
  let t := Text.trim s
  match Numeral.readSigned? t with
  | none => throw (.malformed type (String.ofList s))
  | some n =>
    if n < -0x8000000000000000 ∨ 0x8000000000000000 ≤ n then
      throw (.outOfRange type (String.ofList t))
    else checkBounds type (Int64.ofInt n)

def toText (type : WireType) (v : Int64) : Except CodecError (List Char) :=
  (checkBounds type v).map fun v => Numeral.signed v.toInt

/-- The bytes of an integer type. -/
def width? : WireType → Option Nat
  | .int2 => some 2
  | .int4 => some 4
  | .int8 => some 8
  | _ => none

def ofBytes (type : WireType) (bytes : List UInt8) : Except CodecError Int64 :=
  if width? type = some bytes.length then pure (Int64.ofInt (BigEndian.signed bytes))
  else throw (.malformedBytes type bytes)

def toBytes (type : WireType) (v : Int64) : Except CodecError (List UInt8) :=
  (checkBounds type v).map fun v => BigEndian.encode ((width? type).getD 8) v.toInt

end ScalarWire.IntegerCodec
