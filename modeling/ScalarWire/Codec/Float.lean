import ScalarWire.Number.BigEndian
import ScalarWire.Payload
import ScalarWire.Text.Blank
import ScalarWire.Value

/-!
# Floating-point numbers on the wire

Floating-point numbers as text and as big-endian bits, in the precision of the column type. A
literal whose value is lost to infinity or to zero is out of range, and so is a finite number
that only single precision makes infinite.
-/

namespace ScalarWire.FloatCodec

/-- The format of a type; every type but `float4` is in double precision. -/
def format (type : WireType) : FloatFormat :=
  if type = .float4 then .single else .double

def isFinite (x : FloatValue) : Bool :=
  match x with
  | .finite .. => true
  | _ => false

/-- Whether a literal's number is infinite, or zero where the literal is not. -/
def isLost (l : DecimalLiteral) (x : FloatValue) : Bool :=
  match x with
  | .finite _ mantissa _ => mantissa == 0 && l.magnitude != 0
  | _ => true

def ofText (type : WireType) (s : List Char) : Except CodecError Double :=
  let t := Text.trim s
  match FloatFormat.special? t with
  | some bits => pure (.ofNat bits)
  | none =>
    match DecimalLiteral.read? t with
    | none => throw (.malformed type (String.ofList s))
    | some l =>
      let bits := (format type).ofLiteral l
      if isLost l ((format type).decode bits) then throw (.outOfRange type (String.ofList t))
      else pure (.ofNat ((format type).convert .double bits))

/-- The pattern of a number in the precision of the type. -/
def narrow (type : WireType) (x : Double) : Except CodecError Nat :=
  if type = .float4 then
    if isFinite x.value && !isFinite (FloatFormat.single.decode x.toSingle) then
      throw (.outOfRange type (String.ofList x.display))
    else pure x.toSingle
  else pure x.toNat

def toText (type : WireType) (x : Double) : Except CodecError (List Char) :=
  (narrow type x).map (format type).toText

def ofBytes (type : WireType) (bytes : List UInt8) : Except CodecError Double :=
  match type, bytes.length with
  | .float4, 4 => pure (.ofSingle (BigEndian.unsigned bytes))
  | .float8, 8 => pure (.ofNat (BigEndian.unsigned bytes))
  | _, _ => throw (.malformedBytes type bytes)

def toBytes (type : WireType) (x : Double) : Except CodecError (List UInt8) :=
  (narrow type x).map fun bits => BigEndian.encode (if type = .float4 then 4 else 8) bits

end ScalarWire.FloatCodec
