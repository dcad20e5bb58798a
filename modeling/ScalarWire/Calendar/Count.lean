import ScalarWire.Calendar.Timestamp

/-!
# Counts from the start of 2000

On the wire a date is a number of days and a timestamp a number of microseconds, both counted
from the start of 2000. The two ends of the calendar are the infinities and travel as the least
and the greatest number of their word.
-/

namespace ScalarWire

namespace Date

/-- Days from 2000-01-01, within a 32-bit word. -/
def count (d : Date) : Int :=
  if d = last then 0x7FFFFFFF
  else if d = first then -0x80000000
  else d.dayNumber - 730119

def ofCount? (n : Int) : Option Date :=
  if n = 0x7FFFFFFF then some last
  else if n = -0x80000000 then some first
  else ofDayNumber? (n + 730119)

end Date

namespace Timestamp

/-- Microseconds from the start of 2000, within a 64-bit word. What is finer than a microsecond
is dropped toward the start of 2000. -/
def count (t : Timestamp) : Int :=
  if t = last then 0x7FFFFFFFFFFFFFFF
  else if t = first then -0x8000000000000000
  else (t.nanoCount - 730119 * 86400000000000).tdiv 1000

def ofCount? (n : Int) : Option Timestamp :=
  if n = 0x7FFFFFFFFFFFFFFF then some last
  else if n = -0x8000000000000000 then some first
  else ofNanoCount? (n * 1000 + 730119 * 86400000000000)

end Timestamp

end ScalarWire
