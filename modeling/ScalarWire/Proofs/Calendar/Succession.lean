import ScalarWire.Proofs.Calendar.Timestamp

/-!
# The calendar day by day

The day after a date is the next one of its month, or the first one of the next month, or the first
one of the next year. Counting in this way, from 1970-01-01 or toward it, gives what the numbers of
days and seconds are to mean.
-/

namespace ScalarWire

namespace Date

/-- The day after a date. There is none behind the end of the calendar. -/
def next? (d : Date) : Option Date :=
  if d.day < monthLength d.year d.month then ofFields? d.year d.month (d.day + 1)
  else if d.month < 12 then ofFields? d.year (d.month + 1) 1
  else ofFields? (d.year + 1) 1 1

/-- The date so many days after another one. -/
def after? (d : Date) : Nat → Option Date
  | 0 => some d
  | n + 1 => (d.after? n).bind next?

/-- Whether a date is found so many days after another one, or so many days before it if the number
is negative. -/
def IsAfter (d e : Date) : Int → Prop
  | .ofNat n => d.after? n = some e
  | .negSucc n => e.after? (n + 1) = some d

variable {d e : Date}

theorem dayNumber_of_next? (h : d.next? = some e) : e.dayNumber = d.dayNumber + 1 := by
  obtain ⟨-, -, hmonth, hmonth', hday, hlength⟩ := d.valid
  unfold next? at h
  split_ifs at h with hwithin hyear
  · obtain ⟨hy, hm, hd⟩ := of_ofFields?_eq_some h
    rw [dayNumber, dayNumber, hy, hm, hd]
    omega
  · obtain ⟨hy, hm, hd⟩ := of_ofFields?_eq_some h
    have hsucc := daysBeforeMonth_succ d.year hmonth
    rw [dayNumber, dayNumber, hy, hm, hd]
    omega
  · obtain ⟨hy, hm, hd⟩ := of_ofFields?_eq_some h
    have hdecember : d.month = 12 := by omega
    have hsucc := daysBeforeMonth_succ d.year hmonth
    have hyear := daysBeforeYear_succ d.year
    rw [hdecember, daysBeforeMonth_thirteen] at hsucc
    rw [hdecember] at hwithin hlength
    have hjanuary : daysBeforeMonth (d.year + 1) 1 = 0 := rfl
    rw [dayNumber, dayNumber, hy, hm, hd, hdecember, hjanuary]
    split_ifs at hsucc hyear <;> omega

theorem exists_next? (h : d ≠ last) : ∃ e, d.next? = some e := by
  obtain ⟨hfirst, hlast, hmonth, hmonth', hday, hlength⟩ := d.valid
  unfold next?
  split_ifs with hwithin hyear
  · exact ⟨_, dif_pos ⟨hfirst, hlast, hmonth, hmonth', by omega, hwithin⟩⟩
  · exact ⟨_, dif_pos ⟨hfirst, hlast, by omega, by omega, le_rfl, one_le_monthLength _ _⟩⟩
  · have hdecember : d.month = 12 := by omega
    have hyear : d.year ≠ 262142 := by
      intro hyear
      rw [hdecember] at hwithin hlength
      have hlen : monthLength d.year 12 = 31 := rfl
      apply h
      obtain ⟨year, month, day, valid⟩ := d
      dsimp only at *
      obtain rfl : day = 31 := by omega
      subst hyear hdecember
      rfl
    exact ⟨_, dif_pos ⟨by omega, by omega, le_rfl, by decide, le_rfl, one_le_monthLength _ _⟩⟩

/-- The calendar goes through the day numbers one by one. -/
theorem next?_eq_some_iff : d.next? = some e ↔ e.dayNumber = d.dayNumber + 1 := by
  refine ⟨dayNumber_of_next?, fun h => ?_⟩
  have hne : d ≠ last := by
    rintro rfl
    have := e.dayNumber_le_last
    omega
  obtain ⟨next, hnext⟩ := exists_next? hne
  rw [hnext, eq_of_dayNumber_eq ((dayNumber_of_next? hnext).trans h.symm)]

theorem after?_eq_some_iff {n : Nat} : d.after? n = some e ↔ e.dayNumber = d.dayNumber + n := by
  induction n generalizing e with
  | zero =>
      constructor
      · intro h
        rw [Option.some.inj h]
        exact (Int.add_zero _).symm
      · intro h
        exact congrArg some (eq_of_dayNumber_eq (h.trans (Int.add_zero _)).symm)
  | succ n ih =>
      rw [after?, Option.bind_eq_some_iff]
      simp only [ih, next?_eq_some_iff]
      constructor
      · rintro ⟨m, hm, he⟩
        omega
      · intro h
        have hlow := d.first_dayNumber_le
        obtain ⟨m, hm⟩ := exists_dayNumber_eq (n := d.dayNumber + n) (d := e) (by omega) (by omega)
        exact ⟨m, hm, by omega⟩

theorem isAfter_iff {n : Int} : d.IsAfter e n ↔ e.dayNumber = d.dayNumber + n := by
  cases n with
  | ofNat n => exact after?_eq_some_iff
  | negSucc n =>
      rw [IsAfter, after?_eq_some_iff, Int.negSucc_eq]
      omega

/-- The date from which days and seconds are counted. -/
def epoch : Date :=
  ⟨1970, 1, 1, by decide⟩

theorem dayNumber_epoch : epoch.dayNumber = 719162 := by
  decide

end Date

namespace Timestamp

/-- A timestamp without a fraction that lies so many seconds after the start of 1970, or before it:
its date so many days after the first one, and its hours, minutes and seconds behind that. -/
def IsSecond (t : Timestamp) (seconds : Int) : Prop :=
  ∃ days, Date.epoch.IsAfter t.date days ∧ t.time.nanos = 0 ∧
    days * 86400 + t.time.hour * 3600 + t.time.minute * 60 + t.time.second = seconds

theorem isSecond_iff {t : Timestamp} {seconds : Int} :
    t.IsSecond seconds ↔ t.unixSeconds = seconds ∧ t.time.nanos = 0 := by
  have hfields := t.time.fields_eq
  simp only [IsSecond, Date.isAfter_iff, Date.dayNumber_epoch, unixSeconds]
  constructor
  · rintro ⟨days, hdate, hnanos, hsum⟩
    exact ⟨by omega, hnanos⟩
  · rintro ⟨hsum, hnanos⟩
    exact ⟨t.date.dayNumber - 719162, by omega, hnanos, by omega⟩

end Timestamp

end ScalarWire
