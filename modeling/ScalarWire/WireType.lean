import ScalarWire.Text.Blank
import ScalarWire.Text.Letter

/-!
# Column types

The fourteen scalar column types, the names and object numbers that the server knows them by,
and the kind of value that each of them holds.
-/

namespace ScalarWire

/-- The kind of a value. A column type holds values of exactly one kind. -/
inductive Kind where
  | integer | numeric | float | boolean | text | date | time | timeTz | timestamp | timestampTz
  deriving DecidableEq, Repr

namespace Kind

def name : Kind → String
  | integer => "integer"
  | numeric => "numeric"
  | float => "float"
  | boolean => "boolean"
  | text => "text"
  | date => "date"
  | time => "time"
  | timeTz => "time with time zone"
  | timestamp => "timestamp"
  | timestampTz => "timestamp with time zone"

end Kind

inductive WireType where
  | int2 | int4 | int8 | numeric | float4 | float8 | bool | char | varchar
  | date | timestamp | timestamptz | time | timetz
  deriving DecidableEq, Repr

namespace WireType

/-- All types, in the order in which a registry lists them. -/
def all : List WireType :=
  [int2, int4, int8, numeric, float4, float8, bool, char, varchar, date, timestamp, timestamptz,
    time, timetz]

def name : WireType → String
  | int2 => "int2"
  | int4 => "int4"
  | int8 => "int8"
  | numeric => "numeric"
  | float4 => "float4"
  | float8 => "float8"
  | bool => "bool"
  | char => "char"
  | varchar => "varchar"
  | date => "date"
  | timestamp => "timestamp"
  | timestamptz => "timestamptz"
  | time => "time"
  | timetz => "timetz"

/-- The object number of the type in the server's catalog. -/
def oid : WireType → Int
  | int2 => 21
  | int4 => 23
  | int8 => 20
  | numeric => 1700
  | float4 => 700
  | float8 => 701
  | bool => 16
  | char => 1042
  | varchar => 1043
  | date => 1082
  | timestamp => 1114
  | timestamptz => 1184
  | time => 1083
  | timetz => 1266

def ofOid? (n : Int) : Option WireType :=
  all.find? (·.oid == n)

/-- The position of the type in `all`. -/
def index (t : WireType) : Nat :=
  all.idxOf t

def kind : WireType → Kind
  | int2 | int4 | int8 => .integer
  | numeric => .numeric
  | float4 | float8 => .float
  | bool => .boolean
  | char | varchar => .text
  | date => .date
  | timestamp => .timestamp
  | timestamptz => .timestampTz
  | time => .time
  | timetz => .timeTz

/-- The least and the greatest number that an integer type holds. -/
def integerBounds? : WireType → Option (Int × Int)
  | int2 => some (-0x8000, 0x7FFF)
  | int4 => some (-0x80000000, 0x7FFFFFFF)
  | int8 => some (-0x8000000000000000, 0x7FFFFFFFFFFFFFFF)
  | _ => none

def isTemporal : WireType → Bool
  | date | timestamp | timestamptz | time | timetz => true
  | _ => false

def hasTimeZone : WireType → Bool
  | timestamptz | timetz => true
  | _ => false

/-- The spellings of the type's name, each in lower case with single blanks. -/
def aliases : WireType → List String
  | int2 => ["int2", "smallint"]
  | int4 => ["int4", "int", "integer"]
  | int8 => ["int8", "bigint"]
  | numeric => ["numeric", "decimal"]
  | float4 => ["float4", "real"]
  | float8 => ["float8", "double precision", "float"]
  | bool => ["bool", "boolean"]
  | char => ["char", "character", "bpchar", "nchar"]
  | varchar => ["varchar", "character varying", "nvarchar", "text"]
  | date => ["date"]
  | timestamp => ["timestamp", "timestamp without time zone"]
  | timestamptz => ["timestamptz", "timestamp with time zone"]
  | time => ["time", "time without time zone"]
  | timetz => ["timetz", "time with time zone"]

/-- Drops the first modifier in parentheses together with the blanks before it; one that is
never closed runs to the end. -/
def dropModifier (s : List Char) : List Char :=
  match s.dropWhile (· != '(') with
  | [] => s
  | opened =>
    Text.trimEnd (s.takeWhile (· != '(')) ++ (opened.dropWhile (· != ')')).drop 1

/-- The type of this name. Case, the width of blanks and a modifier such as `(10, 2)` do not
matter. -/
def ofName? (s : List Char) : Option WireType :=
  -- Beyond ASCII only the Kelvin sign is written as an ASCII letter in lower case, and no name
  -- has a `k`.
  let words := Text.words (dropModifier (Text.trim (Text.lower s)))
  let name := String.ofList ([' '].intercalate words)
  all.find? (·.aliases.contains name)

end WireType

end ScalarWire
