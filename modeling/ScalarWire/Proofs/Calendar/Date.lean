import Mathlib.Data.List.Basic
import Mathlib.Order.Monotone.Basic
import Mathlib.Tactic.SplitIfs
import ScalarWire.Calendar.Date

/-!
# Day numbers

Years and months follow one another without gaps, so the year and the month that hold a day are
the only ones between whose bounds it lies. A date is found again from its day number.
-/

namespace ScalarWire

theorem isLeapYear_iff (year : Int) :
    isLeapYear year ↔ year % 4 = 0 ∧ (year % 100 ≠ 0 ∨ year % 400 = 0) := by
  simp [isLeapYear]

theorem daysBeforeYear_succ (year : Int) :
    daysBeforeYear (year + 1) = daysBeforeYear year + if isLeapYear year then 366 else 365 := by
  have h := isLeapYear_iff year
  simp only [daysBeforeYear]
  split_ifs with hleap
  · rw [h] at hleap
    omega
  · rw [h] at hleap
    omega

theorem daysBeforeYear_mono {y z : Int} (h : y ≤ z) : daysBeforeYear y ≤ daysBeforeYear z := by
  refine monotone_int_of_le_succ (fun year => ?_) h
  rw [daysBeforeYear_succ]
  split_ifs <;> omega

/-- The mean year of 146097 / 400 days finds the year of a day up to one. -/
theorem yearOfDay_eq {year n : Int} (hlow : daysBeforeYear year ≤ n)
    (hhigh : n < daysBeforeYear (year + 1)) : yearOfDay n = year := by
  have hguess : 400 * n / 146097 + 1 = year - 1 ∨ 400 * n / 146097 + 1 = year ∨
      400 * n / 146097 + 1 = year + 1 := by
    simp only [daysBeforeYear] at hlow hhigh
    omega
  have hsucc := daysBeforeYear_succ (year - 1)
  rw [Int.sub_add_cancel] at hsucc
  have hprev : daysBeforeYear (year - 1) < daysBeforeYear year := by
    rw [hsucc]
    split_ifs <;> omega
  rcases hguess with h | h | h
  · simp only [yearOfDay, h, Int.sub_add_cancel]
    rw [if_neg (by omega), if_pos hlow]
  · simp only [yearOfDay, h]
    rw [if_neg (by omega), if_neg (by omega)]
  · simp only [yearOfDay, h]
    rw [if_pos hhigh]
    omega

theorem monthLength_le (year : Int) (month : Nat) : monthLength year month ≤ 31 := by
  unfold monthLength
  split
  · split_ifs <;> decide
  all_goals decide

theorem one_le_monthLength (year : Int) (month : Nat) : 1 ≤ monthLength year month := by
  unfold monthLength
  split
  · split_ifs <;> decide
  all_goals decide

theorem daysBeforeMonth_succ (year : Int) {month : Nat} (h : 1 ≤ month) :
    daysBeforeMonth year (month + 1) = daysBeforeMonth year month + monthLength year month := by
  obtain ⟨m, rfl⟩ := Nat.exists_eq_add_of_le' h
  simp [daysBeforeMonth, List.range_succ]

theorem daysBeforeMonth_mono (year : Int) {m month : Nat} (hm : 1 ≤ m) (h : m ≤ month) :
    daysBeforeMonth year m ≤ daysBeforeMonth year month := by
  induction month, h using Nat.le_induction with
  | base => exact le_rfl
  | succ month h ih =>
      rw [daysBeforeMonth_succ year (by omega)]
      omega

theorem daysBeforeMonth_thirteen (year : Int) :
    daysBeforeMonth year 13 = if isLeapYear year then 366 else 365 := by
  cases h : isLeapYear year <;> simp [daysBeforeMonth, monthLength, h, List.range_succ]

/-- The months that have begun by a day are those up to its own. -/
theorem monthOfDay_eq {year : Int} {month n : Nat} (hmonth : 1 ≤ month ∧ month ≤ 12)
    (hlow : daysBeforeMonth year month ≤ n) (hhigh : n < daysBeforeMonth year (month + 1)) :
    monthOfDay year n = month := by
  have hbegun : ∀ m ∈ List.range' 1 12,
      (daysBeforeMonth year m ≤ n) = (m ≤ month) := by
    intro m hm
    have hpos : 1 ≤ m := by
      simp only [List.mem_range'_1] at hm
      omega
    rcases le_or_gt m month with h | h
    · have := daysBeforeMonth_mono year hpos h
      exact propext ⟨fun _ => h, fun _ => by omega⟩
    · have := daysBeforeMonth_mono year (by omega) (show month + 1 ≤ m by omega)
      exact propext ⟨fun _ => by omega, fun _ => by omega⟩
  have hcount : ∀ k ≤ 12, (List.range' 1 12).countP (fun m => m ≤ k) = k := by decide
  rw [monthOfDay, ← hcount month hmonth.2]
  exact List.countP_congr fun m hm => by simp only [hbegun m hm]

/-- Every day lies in the year that is found for it. -/
theorem yearOfDay_spec (n : Int) :
    daysBeforeYear (yearOfDay n) ≤ n ∧ n < daysBeforeYear (yearOfDay n + 1) := by
  simp only [yearOfDay]
  generalize hguess : 400 * n / 146097 + 1 = guess
  have hlow : daysBeforeYear (guess - 1) ≤ n := by
    simp only [daysBeforeYear]
    omega
  have hhigh : n < daysBeforeYear (guess + 1 + 1) := by
    simp only [daysBeforeYear]
    omega
  split_ifs with hbefore hafter
  · rw [Int.sub_add_cancel]
    exact ⟨hlow, hbefore⟩
  · exact ⟨hafter, hhigh⟩
  · exact ⟨not_lt.mp hbefore, not_le.mp hafter⟩

/-- A day before the end of some month lies in that month or in one before it. -/
theorem exists_month {year : Int} {n month : Nat} (hmonth : 1 ≤ month)
    (h : n < daysBeforeMonth year (month + 1)) :
    ∃ m, (1 ≤ m ∧ m ≤ month) ∧ daysBeforeMonth year m ≤ n ∧ n < daysBeforeMonth year (m + 1) := by
  induction month, hmonth using Nat.le_induction with
  | base => exact ⟨1, ⟨le_rfl, le_rfl⟩, Nat.zero_le _, h⟩
  | succ month hmonth ih =>
      by_cases hn : n < daysBeforeMonth year (month + 1)
      · obtain ⟨m, ⟨hpos, hle⟩, hm⟩ := ih hn
        exact ⟨m, ⟨hpos, by omega⟩, hm⟩
      · exact ⟨month + 1, ⟨by omega, le_rfl⟩, not_lt.mp hn, h⟩

/-- The month that is found for a day of the year has begun by then. -/
theorem daysBeforeMonth_monthOfDay_le {year : Int} {n : Nat} (h : n < daysBeforeMonth year 13) :
    daysBeforeMonth year (monthOfDay year n) ≤ n := by
  obtain ⟨m, hm, hlow, hhigh⟩ := exists_month (by omega) h
  rw [monthOfDay_eq hm hlow hhigh]
  exact hlow

namespace Date

theorem ofFields?_self (d : Date) : ofFields? d.year d.month d.day = some d :=
  dif_pos d.valid

theorem day_lt (d : Date) :
    daysBeforeMonth d.year d.month + (d.day - 1) < daysBeforeMonth d.year (d.month + 1) := by
  obtain ⟨-, -, hm, -, hd, hlen⟩ := d.valid
  rw [daysBeforeMonth_succ _ hm]
  omega

/-- A date lies between the first days of its year and the next. -/
theorem dayNumber_mem_year (d : Date) :
    daysBeforeYear d.year ≤ d.dayNumber ∧ d.dayNumber < daysBeforeYear (d.year + 1) := by
  obtain ⟨-, -, hm, hm', hd, -⟩ := d.valid
  have hday := d.day_lt
  have hend : daysBeforeMonth d.year (d.month + 1) ≤ daysBeforeMonth d.year 13 :=
    daysBeforeMonth_mono d.year (by omega) (by omega)
  rw [daysBeforeMonth_thirteen] at hend
  rw [daysBeforeYear_succ, dayNumber]
  split_ifs at * <;> omega

/-- A date is the date of its day number. -/
theorem ofDayNumber?_dayNumber (d : Date) : ofDayNumber? d.dayNumber = some d := by
  obtain ⟨-, -, hm, hm', hd, -⟩ := d.valid
  have hday := d.day_lt
  obtain ⟨hlow, hhigh⟩ := d.dayNumber_mem_year
  have hyear : yearOfDay d.dayNumber = d.year := yearOfDay_eq hlow hhigh
  have hwithin : (d.dayNumber - daysBeforeYear d.year).toNat =
      daysBeforeMonth d.year d.month + (d.day - 1) := by
    rw [dayNumber]
    omega
  have hmonth : monthOfDay d.year (daysBeforeMonth d.year d.month + (d.day - 1)) = d.month :=
    monthOfDay_eq ⟨hm, hm'⟩ (by omega) hday
  simp only [ofDayNumber?]
  rw [hyear, hwithin, hmonth, show daysBeforeMonth d.year d.month + (d.day - 1) -
    daysBeforeMonth d.year d.month + 1 = d.day by omega, ofFields?_self]

theorem eq_of_dayNumber_eq {d e : Date} (h : d.dayNumber = e.dayNumber) : d = e := by
  have hd := d.ofDayNumber?_dayNumber
  rw [h, e.ofDayNumber?_dayNumber] at hd
  exact (Option.some.inj hd).symm

theorem of_ofFields?_eq_some {year : Int} {month day : Nat} {d : Date}
    (h : ofFields? year month day = some d) : d.year = year ∧ d.month = month ∧ d.day = day := by
  unfold ofFields? at h
  split_ifs at h
  cases h
  exact ⟨rfl, rfl, rfl⟩

/-- The date found for a day number is the only one that has it. -/
theorem ofDayNumber?_eq_some_iff {n : Int} {d : Date} :
    ofDayNumber? n = some d ↔ d.dayNumber = n := by
  constructor
  · intro h
    obtain ⟨hlow, hhigh⟩ := yearOfDay_spec n
    rw [daysBeforeYear_succ] at hhigh
    have hend := daysBeforeMonth_thirteen (yearOfDay n)
    have hwithin : (n - daysBeforeYear (yearOfDay n)).toNat < daysBeforeMonth (yearOfDay n) 13 := by
      split_ifs at hhigh hend <;> omega
    have hmonth := daysBeforeMonth_monthOfDay_le hwithin
    obtain ⟨hyear, hmonthOf, hday⟩ := of_ofFields?_eq_some h
    rw [dayNumber, hyear, hmonthOf, hday]
    omega
  · rintro rfl
    exact d.ofDayNumber?_dayNumber

theorem first_dayNumber_le (d : Date) : first.dayNumber ≤ d.dayNumber := by
  have hfirst : first.dayNumber = daysBeforeYear (-262143) := by decide
  obtain ⟨hyear, -⟩ := d.valid
  have hmono := daysBeforeYear_mono hyear
  obtain ⟨hbegin, -⟩ := d.dayNumber_mem_year
  omega

theorem dayNumber_le_last (d : Date) : d.dayNumber ≤ last.dayNumber := by
  have hlast : last.dayNumber + 1 = daysBeforeYear 262143 := by decide
  obtain ⟨-, hyear, -⟩ := d.valid
  have hmono := daysBeforeYear_mono (show d.year + 1 ≤ 262143 by omega)
  obtain ⟨-, hend⟩ := d.dayNumber_mem_year
  omega

/-- The calendar has no gaps: a day between its first and one of its dates has a date as well. -/
theorem exists_dayNumber_eq {n : Int} {d : Date} (hlow : first.dayNumber ≤ n)
    (hhigh : n ≤ d.dayNumber) : ∃ e : Date, e.dayNumber = n := by
  have hfirst : first.dayNumber = daysBeforeYear (-262143) := by decide
  obtain ⟨-, hlast, -⟩ := d.valid
  have hend := d.dayNumber_mem_year.2
  obtain ⟨hbegin, hnext⟩ := yearOfDay_spec n
  have hyear : -262143 ≤ yearOfDay n ∧ yearOfDay n ≤ 262142 := by
    constructor
    · by_contra h
      have := daysBeforeYear_mono (show yearOfDay n + 1 ≤ -262143 by omega)
      omega
    · by_contra h
      have := daysBeforeYear_mono (show d.year + 1 ≤ yearOfDay n by omega)
      omega
  have hlength := daysBeforeYear_succ (yearOfDay n)
  have hwithin : (n - daysBeforeYear (yearOfDay n)).toNat < daysBeforeMonth (yearOfDay n) 13 := by
    rw [daysBeforeMonth_thirteen]
    split_ifs at hlength ⊢ <;> omega
  obtain ⟨month, hmonth, hmlow, hmhigh⟩ := exists_month (by omega) hwithin
  rw [daysBeforeMonth_succ _ hmonth.1] at hmhigh
  refine ⟨⟨yearOfDay n, month,
    (n - daysBeforeYear (yearOfDay n)).toNat - daysBeforeMonth (yearOfDay n) month + 1,
    hyear.1, hyear.2, hmonth.1, hmonth.2, by omega, by omega⟩, ?_⟩
  simp only [dayNumber]
  omega

end Date

end ScalarWire
