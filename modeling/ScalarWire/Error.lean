import ScalarWire.WireType

/-!
# Errors

Why a conversion or a configuration is refused, and the words in which each cause is reported.
-/

namespace ScalarWire

/-- Why a value cannot be read or written. -/
inductive CodecError where
  | malformed (type : WireType) (input : String)
  | outOfRange (type : WireType) (value : String)
  | unknownZone (token : String)
  | mismatch (expected : WireType) (found : Kind)
  deriving DecidableEq, Repr

namespace CodecError

def message : CodecError → String
  | malformed type input => "invalid input syntax for type " ++ type.name ++ ": \"" ++ input ++ "\""
  | outOfRange type value => "value \"" ++ value ++ "\" is out of range for type " ++ type.name
  | unknownZone token => "time zone \"" ++ token ++ "\" not recognized"
  | mismatch expected found =>
    "cannot encode " ++ found.name ++ " value as type " ++ expected.name

/-- The five-character code under which the server reports the same cause. -/
def sqlState : CodecError → String
  | malformed type _ => if type.isTemporal then "22007" else "22P02"
  | outOfRange type _ => if type.isTemporal then "22008" else "22003"
  | unknownZone _ => "22023"
  | mismatch _ _ => "42804"

end CodecError

/-- How a computation ends without a value: with an error for the caller, or for good. -/
inductive Failure where
  | rejected (error : CodecError)
  | aborted
  deriving DecidableEq, Repr

instance : MonadLift (Except CodecError) (Except Failure) where
  monadLift x := x.mapError .rejected

/-- Why a configuration or a zone table is refused. -/
inductive ConfigError where
  | unreadable
  | malformedJson
  | invalidOffset (name offset : String)
  | unknownZone (zone : String)
  | invalidDateOrder (text : String)
  deriving DecidableEq, Repr

/-- The report of a cause that has words of its own. -/
def ConfigError.message? : ConfigError → Option String
  | unreadable | malformedJson => none
  | invalidOffset name offset =>
    some ("Invalid UTC offset \"" ++ offset ++ "\" for time zone " ++ name)
  | unknownZone zone => some ("Unknown session time zone: " ++ zone)
  | invalidDateOrder text => some ("Invalid date order: " ++ text)

end ScalarWire
