import ScalarWire.Calendar.Date
import ScalarWire.Calendar.TimeOfDay

/-!
# Timestamps

A date with a time of day. Arithmetic goes through `nanoCount`, the nanoseconds since the start
of 0001-01-01; it fails where the result would leave the calendar.
-/

namespace ScalarWire

structure Timestamp where
  date : Date
  time : TimeOfDay
  deriving DecidableEq

namespace Timestamp

/-- The start of the calendar, which stands for the time before all timestamps. -/
def first : Timestamp :=
  ⟨.first, .midnight⟩

/-- The last nanosecond of the calendar, which stands for the time after all timestamps. -/
def last : Timestamp :=
  ⟨.last, .last⟩

/-- Nanoseconds since the start of 0001-01-01. -/
def nanoCount (t : Timestamp) : Int :=
  (t.date.dayNumber * 86400 + t.time.seconds) * 1000000000 + t.time.nanos

def ofNanoCount? (n : Int) : Option Timestamp :=
  let within := (n % 86400000000000).toNat
  (Date.ofDayNumber? (n / 86400000000000)).map fun date =>
    ⟨date, ⟨within / 1000000000, within % 1000000000, by omega, by omega⟩⟩

def addMicros? (t : Timestamp) (m : Int) : Option Timestamp :=
  ofNanoCount? (t.nanoCount + m * 1000)

def addSeconds? (t : Timestamp) (s : Int) : Option Timestamp :=
  ofNanoCount? (t.nanoCount + s * 1000000000)

/-- Whole seconds from the start of 1970 to the second that the timestamp lies in. -/
def unixSeconds (t : Timestamp) : Int :=
  (t.date.dayNumber - 719162) * 86400 + t.time.seconds

def ofUnixSeconds? (s : Int) : Option Timestamp :=
  ofNanoCount? ((s + 719162 * 86400) * 1000000000)

end Timestamp

end ScalarWire
