import ScalarWire.Calendar.Timestamp
import ScalarWire.Number.Numeral
import ScalarWire.Text.Blank

/-!
# The written form of dates and times

How the server writes dates and times: year, month and day joined by hyphens, hour, minute and
second joined by colons, whole microseconds behind a point. Years are counted by era, so a year
before year 1 ends in ` BC`. The ends of the calendar are written as infinities.
-/

namespace ScalarWire

/-- The year as counted within its era, and whether that era is the one before year 1. -/
def eraYear (year : Int) : Nat × Bool :=
  if year ≤ 0 then ((1 - year).toNat, true) else (year.toNat, false)

def eraSuffix (year : Int) : List Char :=
  if (eraYear year).2 then " BC".toList else []

namespace Date

/-- Year, month and day, without the era. -/
def isoFields (d : Date) : List Char :=
  Numeral.padded 4 (eraYear d.year).1 ++ '-' :: Numeral.padded 2 d.month ++
    '-' :: Numeral.padded 2 d.day

def iso (d : Date) : List Char :=
  if d = last then "infinity".toList
  else if d = first then "-infinity".toList
  else d.isoFields ++ eraSuffix d.year

end Date

namespace TimeOfDay

/-- The fraction of a second in millionths, without trailing zeros; nothing for no fraction. -/
def isoFraction (micros : Nat) : List Char :=
  if micros = 0 then []
  else '.' :: ((Numeral.padded 6 micros).reverse.dropWhile (· == '0')).reverse

def iso (t : TimeOfDay) : List Char :=
  Numeral.padded 2 t.hour ++ ':' :: Numeral.padded 2 t.minute ++ ':' :: Numeral.padded 2 t.second ++
    isoFraction (t.micros % 1000000)

/-- A time already brought to UTC. -/
def isoUtc (t : TimeOfDay) : List Char :=
  t.iso ++ "+00".toList

end TimeOfDay

namespace Timestamp

/-- Date and time with a zone between the time and the era. -/
def isoWith (zone : List Char) (t : Timestamp) : List Char :=
  if t = last then "infinity".toList
  else if t = first then "-infinity".toList
  else t.date.isoFields ++ ' ' :: t.time.iso ++ zone ++ eraSuffix t.date.year

def iso (t : Timestamp) : List Char :=
  t.isoWith []

/-- A timestamp already brought to UTC. -/
def isoUtc (t : Timestamp) : List Char :=
  t.isoWith "+00".toList

end Timestamp

end ScalarWire
