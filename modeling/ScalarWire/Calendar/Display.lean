import ScalarWire.Calendar.Timestamp
import ScalarWire.Number.Numeral

/-!
# Dates and times for display

The form shown to a person: astronomical years, signed outside 0 to 9999, and a fraction of a
second in three, six or nine digits, whichever is the first to be exact. A leap second shows as the
second after its own, at the end of a minute as second 60.
-/

namespace ScalarWire

def displayYear (year : Int) : List Char :=
  if 0 ≤ year ∧ year ≤ 9999 then Numeral.padded 4 year.toNat
  else (if year < 0 then '-' else '+') :: Numeral.padded 4 year.natAbs

def Date.display (d : Date) : List Char :=
  displayYear d.year ++ '-' :: Numeral.padded 2 d.month ++ '-' :: Numeral.padded 2 d.day

def displayFraction (nanos : Nat) : List Char :=
  if nanos = 0 then []
  else if nanos % 1000000 = 0 then '.' :: Numeral.padded 3 (nanos / 1000000)
  else if nanos % 1000 = 0 then '.' :: Numeral.padded 6 (nanos / 1000)
  else '.' :: Numeral.padded 9 nanos

def TimeOfDay.display (t : TimeOfDay) : List Char :=
  Numeral.padded 2 t.hour ++ ':' :: Numeral.padded 2 t.minute ++
    ':' :: Numeral.padded 2 (t.second + t.nanos / 1000000000) ++
    displayFraction (t.nanos % 1000000000)

def Timestamp.display (t : Timestamp) : List Char :=
  t.date.display ++ ' ' :: t.time.display

end ScalarWire
