import ScalarWire.Calendar.Iso
import ScalarWire.Codec.Boolean
import ScalarWire.Codec.Float
import ScalarWire.Codec.Integer
import ScalarWire.Codec.Temporal
import ScalarWire.Decimal.Wire
import ScalarWire.Literal.Temporal
import ScalarWire.Value

/-!
# Codecs

Reading and writing values of each kind in both formats. The kind of value decides how bytes are
read; the column type gives the precision and the bounds, and is named in errors.
-/

namespace ScalarWire.Codec

/-- Reads text as a value of a kind. -/
def ofText (kind : Kind) (type : WireType) (ctx : Context) (s : List Char) :
    Except Failure Value :=
  match kind with
  | .integer => return .integer (← IntegerCodec.ofText type s)
  | .numeric => return .numeric (← Decimal.ofText s)
  | .float => return .float (← FloatCodec.ofText type s)
  | .boolean => return .boolean (← BooleanCodec.ofText type s)
  | .text => return .text (String.ofList s)
  | .date => return .date (← Date.ofText ctx s)
  | .time => return .time (← TimeOfDay.ofText s)
  | .timeTz => return .timeTz (← TimeOfDay.ofZonedText ctx s)
  | .timestamp => return .timestamp (← Timestamp.ofText ctx s)
  | .timestampTz => return .timestampTz (← Timestamp.ofZonedText ctx s)

/-- A timestamp as a value of a timestamp type. -/
def timestampValue (type : WireType) (t : Timestamp) : Value :=
  if type = .timestamptz then .timestampTz t else .timestamp t

def textOfBytes (type : WireType) (bytes : List UInt8) : Except CodecError String :=
  match Utf8.decode? bytes with
  | some s => pure (String.ofList s)
  | none => throw (.malformedBytes type bytes)

/-- Reads binary data as a value of a kind. The two kinds of timestamp share one layout, and the
type tells them apart. -/
def ofBytes (kind : Kind) (type : WireType) (bytes : List UInt8) : Except CodecError Value :=
  match kind with
  | .integer => return .integer (← IntegerCodec.ofBytes type bytes)
  | .numeric => return .numeric (← Decimal.ofBytes bytes)
  | .float => return .float (← FloatCodec.ofBytes type bytes)
  | .boolean => return .boolean (← BooleanCodec.ofBytes type bytes)
  | .text => return .text (← textOfBytes type bytes)
  | .date => return .date (← Date.ofBytes type bytes)
  | .time => return .time (← TimeOfDay.ofBytes type bytes)
  | .timeTz => return .timeTz (← TimeOfDay.ofZonedBytes type bytes)
  | .timestamp | .timestampTz => return timestampValue type (← Timestamp.ofBytes type bytes)

/-- Writes a value of a kind as text. -/
def toText (kind : Kind) (type : WireType) (v : Value) : Except CodecError (List Char) :=
  match kind, v with
  | .integer, .integer v => IntegerCodec.toText type v
  | .numeric, .numeric v => pure v.toText
  | .float, .float v => FloatCodec.toText type v
  | .boolean, .boolean v => pure (BooleanCodec.toText v)
  | .text, .text v => pure v.toList
  | .date, .date v => pure v.iso
  | .time, .time v => pure v.iso
  | .timeTz, .timeTz v => pure v.isoUtc
  | .timestamp, .timestamp v => pure v.iso
  | .timestampTz, .timestampTz v => pure v.isoUtc
  | _, v => throw (v.mismatch type)

/-- Writes a timestamp in binary; the type has to be that of its kind. -/
def timestampBytes (type : WireType) (v : Value) : Except CodecError (List UInt8) :=
  match type, v with
  | .timestamp, .timestamp t => pure t.toBytes
  | .timestamptz, .timestampTz t => pure t.toBytes
  | _, v => throw (v.mismatch type)

/-- Writes a value of a kind in binary. -/
def toBytes (kind : Kind) (type : WireType) (v : Value) : Except CodecError (List UInt8) :=
  match kind, v with
  | .integer, .integer v => IntegerCodec.toBytes type v
  | .numeric, .numeric v => v.toBytes
  | .float, .float v => FloatCodec.toBytes type v
  | .boolean, .boolean v => pure (BooleanCodec.toBytes v)
  | .text, .text v => pure (Utf8.encode v.toList)
  | .date, .date v => pure v.toBytes
  | .time, .time v => pure v.toBytes
  | .timeTz, .timeTz v => pure v.toZonedBytes
  | .timestamp, v | .timestampTz, v => timestampBytes type v
  | _, v => throw (v.mismatch type)

/-- Reads a payload as a value of a column type. -/
def decode (type : WireType) (ctx : Context) (p : Payload) : Except Failure Value :=
  match p.format with
  | .text => do ofText type.kind type ctx (← p.chars type)
  | .binary => do return ← ofBytes type.kind type p.bytes

/-- Writes a value of a column type. -/
def encode (type : WireType) (v : Value) (format : Format) : Except CodecError Payload :=
  if v.belongsTo type then
    match format with
    | .text => return .ofText (← toText type.kind type v)
    | .binary => return .ofBytes (← toBytes type.kind type v)
  else throw (v.mismatch type)

end ScalarWire.Codec
