/-!
# Dates

The proleptic Gregorian calendar from year -262143 to year 262142, year 0 being 1 BC. A date is
its year, month and day; `dayNumber` counts days from 0001-01-01 and `ofDayNumber?` finds the
date of such a count.
-/

namespace ScalarWire

-- The zero of the core library, also beside Mathlib.
attribute [local instance (high)] Zero.ofOfNat0

def isLeapYear (year : Int) : Bool :=
  year % 4 == 0 && (year % 100 != 0 || year % 400 == 0)

def monthLength (year : Int) (month : Nat) : Nat :=
  match month with
  | 2 => if isLeapYear year then 29 else 28
  | 4 | 6 | 9 | 11 => 30
  | _ => 31

/-- Days from 0001-01-01 to the first day of the year. -/
def daysBeforeYear (year : Int) : Int :=
  let past := year - 1
  365 * past + past / 4 - past / 100 + past / 400

/-- Days of the year before the first day of the month. -/
def daysBeforeMonth (year : Int) (month : Nat) : Nat :=
  ((List.range (month - 1)).map fun m => monthLength year (m + 1)).sum

/-- The year that holds a day, counted from 0001-01-01. The mean length of a year gives it up
to one. -/
def yearOfDay (n : Int) : Int :=
  let guess := 400 * n / 146097 + 1
  if n < daysBeforeYear guess then guess - 1
  else if daysBeforeYear (guess + 1) ≤ n then guess + 1
  else guess

/-- The month that holds a day of the year, counted from zero: the number of months that have
begun by then. -/
def monthOfDay (year : Int) (n : Nat) : Nat :=
  (List.range' 1 12).countP fun m => daysBeforeMonth year m ≤ n

def Date.IsValid (year : Int) (month day : Nat) : Prop :=
  -262143 ≤ year ∧ year ≤ 262142 ∧ 1 ≤ month ∧ month ≤ 12 ∧ 1 ≤ day ∧
    day ≤ monthLength year month

instance (year : Int) (month day : Nat) : Decidable (Date.IsValid year month day) := by
  unfold Date.IsValid
  infer_instance

structure Date where
  year : Int
  month : Nat
  day : Nat
  valid : Date.IsValid year month day
  deriving DecidableEq

namespace Date

def ofFields? (year : Int) (month day : Nat) : Option Date :=
  if h : IsValid year month day then some ⟨year, month, day, h⟩ else none

/-- The first day of the calendar, which stands for the time before all dates. -/
def first : Date :=
  ⟨-262143, 1, 1, by decide⟩

/-- The last day of the calendar, which stands for the time after all dates. -/
def last : Date :=
  ⟨262142, 12, 31, by decide⟩

/-- Days from 0001-01-01. -/
def dayNumber (d : Date) : Int :=
  daysBeforeYear d.year + daysBeforeMonth d.year d.month + (d.day - 1)

def ofDayNumber? (n : Int) : Option Date :=
  let year := yearOfDay n
  let day := (n - daysBeforeYear year).toNat
  let month := monthOfDay year day
  ofFields? year month (day - daysBeforeMonth year month + 1)

end Date

end ScalarWire
