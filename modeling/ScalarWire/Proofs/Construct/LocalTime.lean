import ScalarWire.Proofs.Calendar.Succession
import ScalarWire.Proofs.Construct.Ticks

/-!
# Ticks as local times

Ticks are taken apart into the fields that a local clock shows, and the constructors put the fields
together again. What comes out lies exactly as many seconds from 1970 as the ticks and the offset of
the clock say, before 1970 as after it, and the date and the time of day are those of the timestamp.
-/

namespace ScalarWire

theorem Date.ofFields_self (d : Date) : ofFields d.year d.month d.day = .ok d := by
  rw [ofFields, ofFields?_self]
  rfl

theorem TimeOfDay.ofFields_self {t : TimeOfDay} (h : t.nanos = 0) :
    ofFields t.hour t.minute t.second = .ok t := by
  rw [ofFields, ofFields?_self h]
  rfl

theorem Timestamp.ofFields_self {t : Timestamp} (h : t.time.nanos = 0) :
    ofFields t.date.year t.date.month t.date.day t.time.hour t.time.minute t.time.second =
      .ok t := by
  rw [ofFields, Date.ofFields?_self, TimeOfDay.ofFields?_self h]
  rfl

namespace Ticks

open Timestamp (InCalendar)

variable (offset : Offset) (t : Ticks)

/-- Inside the calendar the clock shows the second that lies the ticks and the offset from 1970. -/
theorem exists_wallClock (hutc : InCalendar t.seconds.toInt)
    (hlocal : InCalendar (t.seconds.toInt + offset.east)) :
    ∃ wall : Timestamp, wall.IsSecond (t.seconds.toInt + offset.east) ∧
      ∀ type, t.wallClock type offset = .ok wall := by
  obtain ⟨utc, hfound⟩ := Timestamp.exists_ofUnixSeconds?_iff.mpr hutc
  obtain ⟨wall, hwall⟩ := Timestamp.exists_ofUnixSeconds?_iff.mpr hlocal
  have hsecond := Timestamp.isSecond_iff.mpr (Timestamp.ofUnixSeconds?_eq_some_iff.mp hwall)
  refine ⟨wall, hsecond, fun type => ?_⟩
  unfold wallClock
  simp only [hfound, Timestamp.addSeconds?_of_ofUnixSeconds? hfound, hwall]
  rfl

/-- Ticks inside the calendar are the timestamp that lies the ticks and the offset of the clock from
1970, and its date and its time of day. Nothing is lost between the fields and the values. -/
theorem toTimestamp_toDate_toTime (hutc : InCalendar t.seconds.toInt)
    (hlocal : InCalendar (t.seconds.toInt + offset.east)) :
    ∃ wall : Timestamp, wall.IsSecond (t.seconds.toInt + offset.east) ∧
      t.toTimestamp offset = .ok wall ∧ t.toDate offset = .ok wall.date ∧
      t.toTime offset = .ok wall.time ∧
      Date.ofFields wall.date.year wall.date.month wall.date.day = .ok wall.date ∧
      TimeOfDay.ofFields wall.time.hour wall.time.minute wall.time.second = .ok wall.time ∧
      Timestamp.ofFields wall.date.year wall.date.month wall.date.day wall.time.hour
        wall.time.minute wall.time.second = .ok wall := by
  obtain ⟨wall, hsecond, hclock⟩ := exists_wallClock offset t hutc hlocal
  have hnanos := (Timestamp.isSecond_iff.mp hsecond).2
  have hdate := Date.ofFields_self wall.date
  have htime := TimeOfDay.ofFields_self hnanos
  have htimestamp := Timestamp.ofFields_self hnanos
  refine ⟨wall, hsecond, ?_, ?_, ?_, hdate, htime, htimestamp⟩
  · rw [toTimestamp, bind_eq_of_ok (hclock .timestamp), htimestamp]
    rfl
  · rw [toDate, bind_eq_of_ok (hclock .date), hdate]
    rfl
  · rw [toTime, bind_eq_of_ok (hclock .time), htime]
    rfl

/-- The first second of March of 1 BC in UTC is on clocks an hour behind the last hour of a leap
day, long before 1970. -/
theorem toTimestamp_toDate_toTime_leap_day :
    InCalendar (-62162035200 : Int64).toInt ∧
      InCalendar ((-62162035200 : Int64).toInt + (-3600)) ∧
      ∃ wall : Timestamp, wall.IsSecond ((-62162035200 : Int64).toInt + (-3600)) ∧
        toTimestamp ⟨-3600, by decide⟩ ⟨-62162035200⟩ = .ok wall ∧
        toDate ⟨-3600, by decide⟩ ⟨-62162035200⟩ = .ok wall.date ∧
        toTime ⟨-3600, by decide⟩ ⟨-62162035200⟩ = .ok wall.time ∧
        Date.ofFields wall.date.year wall.date.month wall.date.day = .ok wall.date ∧
        TimeOfDay.ofFields wall.time.hour wall.time.minute wall.time.second = .ok wall.time ∧
        Timestamp.ofFields wall.date.year wall.date.month wall.date.day wall.time.hour
          wall.time.minute wall.time.second = .ok wall :=
  ⟨by decide +kernel, by decide +kernel,
    toTimestamp_toDate_toTime ⟨-3600, by decide⟩ ⟨-62162035200⟩ (by decide +kernel)
      (by decide +kernel)⟩

/-- That hour is found on the leap day itself. -/
example : (toTimestamp ⟨-3600, by decide⟩ ⟨-62162035200⟩).toOption.map
    (fun t => (t.date.year, t.date.month, t.date.day, t.time.hour)) = some (0, 2, 29, 23) := by
  decide +kernel

end Ticks

end ScalarWire
