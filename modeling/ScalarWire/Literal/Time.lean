import ScalarWire.Calendar.TimeOfDay
import ScalarWire.Literal.Date
import ScalarWire.Text.Utf8

/-!
# Time literals

A time of day at the start of a text: hour and minute, perhaps seconds with a fraction, perhaps
a meridiem. The fraction is rounded half up to whole microseconds. The time read lies between
midnight and the midnight that ends the day, which is spelled `24:00:00`.
-/

namespace ScalarWire.Literal

-- Powers are those of the core library, also beside Mathlib.
attribute [local instance (high)] instPowNat

open Text

inductive Meridiem where
  | am | pm
  deriving DecidableEq, Repr

/-- The fields of a time as written, and what follows them. -/
structure TimeText where
  hour : List Char
  minute : List Char
  second? : Option (List Char)
  fraction? : Option (List Char)
  meridiem? : Option Meridiem
  rest : List Char
  deriving DecidableEq, Repr

/-- Seconds behind a colon. -/
def splitSecond? : List Char → Option (List Char × List Char)
  | ':' :: s =>
    let (digits, s) := splitDigits 2 s
    if digits = [] then none else some (digits, s)
  | _ => none

/-- The digits of a fraction behind a point or a comma. -/
def splitFraction? : List Char → Option (List Char × List Char)
  | c :: s =>
    let (digits, s) := splitDigitRun s
    if (c = '.' ∨ c = ',') ∧ digits ≠ [] then some (digits, s) else none
  | [] => none

/-- A meridiem that ends its word, perhaps behind blanks. -/
def splitMeridiem? (s : List Char) : Option (Meridiem × List Char) :=
  let s := trimStart s
  let rest := s.drop 2
  match String.ofList (lower (s.take 2)) with
  | "am" => if endsWord rest then some (.am, rest) else none
  | "pm" => if endsWord rest then some (.pm, rest) else none
  | _ => none

/-- Takes an optional part off the front. -/
def splitOptional {α : Type} (split? : List Char → Option (α × List Char)) (s : List Char) :
    Option α × List Char :=
  match split? s with
  | some (part, rest) => (some part, rest)
  | none => (none, s)

def timeText? (s : List Char) : Option TimeText :=
  let (hour, s) := splitDigits 2 s
  match s with
  | ':' :: s =>
    let (minute, s) := splitDigits 2 s
    if hour = [] ∨ minute = [] then none
    else
      let (second?, s) := splitOptional splitSecond? s
      let (fraction?, s) :=
        if second?.isSome then splitOptional splitFraction? s else (none, s)
      let (meridiem?, s) := splitOptional splitMeridiem? s
      some ⟨hour, minute, second?, fraction?, meridiem?, s⟩
  | _ => none

/-- Microseconds of a fraction. Its first six bytes are the digits that count and the byte after
them rounds; a cut through a digit of several bytes cannot be made. -/
def fractionMicros (outOfRange : CodecError) (digits : List Char) : Except Failure Nat :=
  match Utf8.cut? 6 digits with
  | none => throw .aborted
  | some (kept, dropped) =>
    match Numeral.read? kept with
    | none => throw (.rejected outOfRange)
    | some n =>
      let carry := match dropped with
        | c :: _ => if '5' ≤ c then 1 else 0
        | [] => 0
      pure (n * 10 ^ (6 - kept.length) + carry)

/-- The hour on the clock of twenty-four; a clock of twelve has no hour 0. -/
def clockHour? (hour : Nat) : Option Meridiem → Option Nat
  | none => some hour
  | some meridiem =>
    if 1 ≤ hour ∧ hour ≤ 12 then
      some (hour % 12 + match meridiem with
        | .am => 0
        | .pm => 12)
    else none

/-- Microseconds since midnight of the fields. -/
def TimeText.micros (outOfRange : CodecError) (t : TimeText) : Except Failure Nat := do
  let read (digits : List Char) : Except Failure Nat :=
    match Numeral.read? digits with
    | some n => pure n
    | none => throw (.rejected outOfRange)
  let hour ← read t.hour
  let minute ← read t.minute
  let second ← match t.second? with
    | some digits => read digits
    | none => pure 0
  let fraction ← match t.fraction? with
    | some digits => fractionMicros outOfRange digits
    | none => pure 0
  match clockHour? hour t.meridiem? with
  | none => throw (.rejected outOfRange)
  | some hour =>
    let total := ((hour * 60 + minute) * 60 + second) * 1000000 + fraction
    if 59 < minute ∨ 59 < second ∨ microsPerDay < total then throw (.rejected outOfRange)
    else pure total

/-- Reads a time at the start of a text, in microseconds since midnight. -/
def readTime (type : WireType) (s : List Char) : Except Failure (Nat × List Char) :=
  match timeText? s with
  | none => throw (.rejected (.malformed type (String.ofList s)))
  | some t => do
    let total ← t.micros (.outOfRange type (String.ofList (consumed s t.rest)))
    return (total, t.rest)

end ScalarWire.Literal
