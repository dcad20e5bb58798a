import ScalarWire.Calendar.Timestamp
import ScalarWire.Context
import ScalarWire.Literal.Era
import ScalarWire.Literal.Time

/-!
# Dates and times from text

Whole texts of the five temporal types. A text is read from left to right: an era marker is
taken off its end, then comes a date, then a time, and what is left is the zone. Zoned values are
brought to UTC.
-/

namespace ScalarWire

open Literal

namespace Literal

/-- Nothing but blanks may be left over. -/
def requireEnd (type : WireType) (input rest : List Char) : Except CodecError Unit :=
  if Text.isBlankText rest then pure ()
  else throw (.malformed type (String.ofList input))

/-- The zone that a token names; blanks alone leave the session zone. -/
def zoneOf (ctx : Context) (type : WireType) (token : List Char) : Except CodecError Zone :=
  if Text.isBlankText token then pure ctx.sessionZone else ctx.zones.resolve ctx.regions type token

/-- The day of a date literal, or the whole input is out of range. -/
def dayOf (type : WireType) (input : List Char) (bc : Bool) (fields : DateFields) :
    Except CodecError Date :=
  match fields.toDate? bc with
  | some date => pure date
  | none => throw (.outOfRange type (String.ofList input))

def startsWithDigit : List Char → Bool
  | c :: _ => c.isDigit
  | [] => false

/-- Drops what may stand between a date and a time: blanks, and a `T` right before a digit. -/
def dropJoint (s : List Char) : List Char :=
  match Text.trimStart s with
  | c :: time => if (c = 'T' ∨ c = 't') ∧ startsWithDigit time then time else c :: time
  | [] => []

/-- A date with a time behind it; without a time it is midnight. A time of 24 hours is midnight
of the following day. -/
def readTimestamp (ctx : Context) (type : WireType) (input body : List Char) (bc : Bool) :
    Except Failure (Timestamp × List Char) := do
  let (fields, rest) ← readDate type ctx.dateOrder body
  let date ← dayOf type input bc fields
  let rest := dropJoint rest
  let (micros, rest) ← if startsWithDigit rest then readTime type rest else pure (0, rest)
  match (⟨date, .midnight⟩ : Timestamp).addMicros? micros with
  | some t => return (t, rest)
  | none => throw (.rejected (.outOfRange type (String.ofList input)))

end Literal

def Date.ofText (ctx : Context) (s : List Char) : Except CodecError Date :=
  match infinity? s with
  | some .after => pure .last
  | some .before => pure .first
  | none => do
    let (body, bc) := splitEra s
    let (fields, rest) ← readDate .date ctx.dateOrder body
    requireEnd .date s rest
    dayOf .date s bc fields

namespace TimeOfDay

def ofText (s : List Char) : Except Failure TimeOfDay := do
  let (micros, rest) ← readTime .time (Text.trim s)
  requireEnd .time s rest
  return wrapMicros micros

/-- A time with a zone, as the same time of day in UTC. No date is known, so a region counts
with its standard offset. -/
def ofZonedText (ctx : Context) (s : List Char) : Except Failure TimeOfDay := do
  let (micros, rest) ← readTime .timetz (Text.trim s)
  let zone ← zoneOf ctx .timetz rest
  return wrapMicros (micros - zone.standardOffset.east * 1000000)

end TimeOfDay

namespace Timestamp

def ofText (ctx : Context) (s : List Char) : Except Failure Timestamp :=
  match infinity? s with
  | some .after => pure last
  | some .before => pure first
  | none => do
    let (body, bc) := splitEra s
    let (t, rest) ← readTimestamp ctx .timestamp s body bc
    requireEnd .timestamp s rest
    return t

/-- A timestamp with a zone, as the same instant in UTC. -/
def ofZonedText (ctx : Context) (s : List Char) : Except Failure Timestamp :=
  match infinity? s with
  | some .after => pure last
  | some .before => pure first
  | none => do
    let (body, bc) := splitEra s
    let (wall, rest) ← readTimestamp ctx .timestamptz s body bc
    let zone ← zoneOf ctx .timestamptz rest
    match wall.addSeconds? (-(zone.offsetAt wall).east) with
    | some t => return t
    | none => throw (.rejected (.outOfRange .timestamptz (String.ofList s)))

end Timestamp

end ScalarWire
