import ScalarWire.Calendar.Display
import ScalarWire.Decimal.Text
import ScalarWire.Float.Text
import ScalarWire.WireType

/-!
# Values

The values that columns hold. A value has a kind, and belongs to the column types of that kind.
Zoned values are held in UTC.
-/

namespace ScalarWire

/-- A floating-point number, as the bits of a double. -/
structure Double where
  bits : UInt64
  deriving DecidableEq, Repr

namespace Double

def ofNat (bits : Nat) : Double :=
  ⟨UInt64.ofNat bits⟩

def toNat (x : Double) : Nat :=
  x.bits.toNat

def value (x : Double) : FloatValue :=
  FloatFormat.double.decode x.toNat

/-- The number of a pattern in single precision. -/
def ofSingle (bits : Nat) : Double :=
  ofNat (FloatFormat.single.convert .double bits)

/-- The pattern of the nearest number in single precision. -/
def toSingle (x : Double) : Nat :=
  FloatFormat.double.convert .single x.toNat

def display (x : Double) : List Char :=
  FloatFormat.double.display x.toNat

end Double

inductive Value where
  | integer (v : Int64)
  | numeric (v : Decimal)
  | float (v : Double)
  | boolean (v : Bool)
  | text (v : String)
  | date (v : Date)
  | time (v : TimeOfDay)
  | timeTz (v : TimeOfDay)
  | timestamp (v : Timestamp)
  | timestampTz (v : Timestamp)
  deriving DecidableEq

namespace Value

def kind : Value → Kind
  | integer _ => .integer
  | numeric _ => .numeric
  | float _ => .float
  | boolean _ => .boolean
  | text _ => .text
  | date _ => .date
  | time _ => .time
  | timeTz _ => .timeTz
  | timestamp _ => .timestamp
  | timestampTz _ => .timestampTz

def belongsTo (v : Value) (type : WireType) : Bool :=
  v.kind == type.kind

/-- The refusal to write a value as a type that it does not belong to. -/
def mismatch (v : Value) (type : WireType) : CodecError :=
  .mismatch type v.kind

def integer? : Value → Option Int64
  | integer v => some v
  | _ => none

def float? : Value → Option Double
  | float v => some v
  | _ => none

def boolean? : Value → Option Bool
  | boolean v => some v
  | _ => none

def text? : Value → Option String
  | text v => some v
  | _ => none

def decimal? : Value → Option Decimal
  | numeric v => some v
  | _ => none

/-- The form shown to a person. -/
def display : Value → List Char
  | integer v => Numeral.signed v.toInt
  | numeric v => v.display
  | float v => v.display
  | boolean v => if v then "true".toList else "false".toList
  | text v => v.toList
  | date v => v.display
  | time v => v.display
  | timeTz v => v.display ++ "+00".toList
  | timestamp v => v.display
  | timestampTz v => v.display ++ " UTC".toList

end Value

end ScalarWire
