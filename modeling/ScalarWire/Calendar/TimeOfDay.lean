/-!
# Times of day

A time of day is its whole second and the nanoseconds within it. The nanoseconds may run on for a
second more, which is how a leap second is held; it can be held with any second of a minute.
-/

namespace ScalarWire

def secondsPerDay : Nat := 86400

def microsPerDay : Nat := 86400000000

structure TimeOfDay where
  seconds : Nat
  nanos : Nat
  seconds_lt : seconds < 86400
  nanos_lt : nanos < 2000000000
  deriving DecidableEq

namespace TimeOfDay

def midnight : TimeOfDay :=
  ⟨0, 0, by decide, by decide⟩

/-- The last nanosecond of the day. -/
def last : TimeOfDay :=
  ⟨86399, 999999999, by decide, by decide⟩

def hour (t : TimeOfDay) : Nat :=
  t.seconds / 3600

def minute (t : TimeOfDay) : Nat :=
  t.seconds / 60 % 60

def second (t : TimeOfDay) : Nat :=
  t.seconds % 60

/-- The time of this whole second and nanoseconds. A leap second is let in only at the end of a
minute. -/
def ofParts? (seconds nanos : Nat) : Option TimeOfDay :=
  if h : seconds < 86400 ∧ (nanos < 1000000000 ∨ nanos < 2000000000 ∧ seconds % 60 = 59) then
    some ⟨seconds, nanos, h.1, by omega⟩
  else none

def ofFields? (hour minute second : Nat) : Option TimeOfDay :=
  if h : hour < 24 ∧ minute < 60 ∧ second < 60 then
    some ⟨(hour * 60 + minute) * 60 + second, 0, by omega, by omega⟩
  else none

/-- Whole microseconds since midnight. A leap second counts as the last microsecond of the
second before it. -/
def micros (t : TimeOfDay) : Nat :=
  t.seconds * 1000000 + min (t.nanos / 1000) 999999

/-- The time that lies this many microseconds after midnight, any whole days aside. -/
def wrapMicros (m : Int) : TimeOfDay :=
  let m := (m % 86400000000).toNat
  ⟨m / 1000000, m % 1000000 * 1000, by omega, by omega⟩

def ofMicros? (m : Int) : Option TimeOfDay :=
  if 0 ≤ m ∧ m < microsPerDay then some (wrapMicros m) else none

end TimeOfDay

end ScalarWire
