import ScalarWire.Construct
import ScalarWire.Proofs.Calendar.Timestamp
import ScalarWire.Proofs.Error

/-!
# Ticks at the ends of the calendar

Ticks are refused if they lie outside the calendar in UTC. Within an offset of either end the local
clock can show a time outside the calendar while UTC is still inside, and such ticks are not refused
but end the program. Everywhere else there is a value: the fields of the local time are valid.
-/

namespace ScalarWire

namespace Timestamp

/-- A second of the calendar, counted from the start of 1970. -/
def InCalendar (seconds : Int) : Prop :=
  first.unixSeconds ≤ seconds ∧ seconds ≤ last.unixSeconds

instance (seconds : Int) : Decidable (InCalendar seconds) :=
  inferInstanceAs (Decidable (_ ∧ _))

/-- Whole seconds are the timestamps that lie at them. -/
theorem ofUnixSeconds?_eq_some_iff {seconds : Int} {t : Timestamp} :
    ofUnixSeconds? seconds = some t ↔ t.unixSeconds = seconds ∧ t.time.nanos = 0 := by
  have hnanos := t.time.nanos_lt
  rw [ofUnixSeconds?, ofNanoCount?_eq_some_iff, nanoCount, unixSeconds]
  omega

theorem inCalendar_iff {seconds : Int} :
    InCalendar seconds ↔ (Date.first.dayNumber - 719162) * 86400 ≤ seconds ∧
      seconds < (Date.last.dayNumber + 1 - 719162) * 86400 := by
  have hfirst : first.unixSeconds = (Date.first.dayNumber - 719162) * 86400 := Int.add_zero _
  have hlast : last.unixSeconds = (Date.last.dayNumber - 719162) * 86400 + 86399 := rfl
  rw [InCalendar, hfirst, hlast]
  omega

theorem inCalendar_unixSeconds (t : Timestamp) : InCalendar t.unixSeconds := by
  have hlow := t.date.first_dayNumber_le
  have hhigh := t.date.dayNumber_le_last
  have hsecond := t.time.seconds_lt
  rw [inCalendar_iff, unixSeconds]
  omega

/-- Every second of the calendar is found, and no other. -/
theorem exists_ofUnixSeconds?_iff {seconds : Int} :
    (∃ t, ofUnixSeconds? seconds = some t) ↔ InCalendar seconds := by
  constructor
  · rintro ⟨t, h⟩
    rw [← (ofUnixSeconds?_eq_some_iff.mp h).1]
    exact t.inCalendar_unixSeconds
  · intro h
    obtain ⟨hlow, hhigh⟩ := inCalendar_iff.mp h
    obtain ⟨date, hdate⟩ := Date.exists_dayNumber_eq (d := .last)
      (n := (seconds + 719162 * 86400) * 1000000000 / 86400000000000) (by omega) (by omega)
    rw [ofUnixSeconds?, ofNanoCount?, Date.ofDayNumber?_eq_some_iff.mpr hdate]
    exact ⟨_, rfl⟩

/-- The local time of an instant lies as many seconds after it as the clock is ahead. -/
theorem addSeconds?_of_ofUnixSeconds? {seconds : Int} {t : Timestamp}
    (h : ofUnixSeconds? seconds = some t) (ahead : Int) :
    t.addSeconds? ahead = ofUnixSeconds? (seconds + ahead) := by
  obtain ⟨hcount, -⟩ := ofNanoCount?_eq_some_iff.mp h
  rw [addSeconds?, ofUnixSeconds?, hcount]
  congr 1
  omega

end Timestamp

/-- Hour, minute and second of a time without a fraction make up that time. -/
theorem TimeOfDay.ofFields?_self {t : TimeOfDay} (h : t.nanos = 0) :
    ofFields? t.hour t.minute t.second = some t := by
  rw [ofFields?, dif_pos ⟨t.hour_lt, t.minute_lt, t.second_lt⟩]
  exact congrArg some (eq_of_parts_eq t.fields_eq h.symm)

namespace Ticks

open Timestamp (InCalendar)

variable (offset : Offset) (t : Ticks)

/-- An instant outside the calendar is refused; the local time of any other one is found if it lies
in the calendar as well. -/
theorem wallClock_cases (type : WireType) :
    (¬InCalendar t.seconds.toInt ∧ t.wallClock type offset =
        .error (.rejected (.outOfRange type (Numeral.ofInt t.seconds.toInt)))) ∨
      (InCalendar t.seconds.toInt ∧ InCalendar (t.seconds.toInt + offset.east) ∧
        ∃ wall, t.wallClock type offset = .ok wall ∧
          wall.unixSeconds = t.seconds.toInt + offset.east ∧ wall.time.nanos = 0) ∨
      InCalendar t.seconds.toInt ∧ ¬InCalendar (t.seconds.toInt + offset.east) ∧
        t.wallClock type offset = .error .aborted := by
  rw [← Timestamp.exists_ofUnixSeconds?_iff, ← Timestamp.exists_ofUnixSeconds?_iff]
  unfold wallClock
  cases hutc : Timestamp.ofUnixSeconds? t.seconds.toInt with
  | none => exact Or.inl ⟨fun ⟨_, h⟩ => Option.some_ne_none _ h.symm, rfl⟩
  | some utc =>
      dsimp only
      rw [Timestamp.addSeconds?_of_ofUnixSeconds? hutc]
      cases hwall : Timestamp.ofUnixSeconds? (t.seconds.toInt + offset.east) with
      | none =>
          exact Or.inr (Or.inr ⟨⟨utc, rfl⟩, fun ⟨_, h⟩ => Option.some_ne_none _ h.symm, rfl⟩)
      | some wall =>
          exact Or.inr (Or.inl ⟨⟨utc, rfl⟩, ⟨wall, rfl⟩, wall, rfl,
            Timestamp.ofUnixSeconds?_eq_some_iff.mp hwall⟩)

variable {α : Type}

/-- A value if both times lie in the calendar, a refusal if the one in UTC does not, and no way to
go on if only the local one does not. -/
def EndsByCalendar (type : WireType) (result : Except Failure α) : Prop :=
  ((∃ a, result = .ok a) ↔
      InCalendar t.seconds.toInt ∧ InCalendar (t.seconds.toInt + offset.east)) ∧
    (result = .error (.rejected (.outOfRange type (Numeral.ofInt t.seconds.toInt))) ↔
      ¬InCalendar t.seconds.toInt) ∧
    (result = .error .aborted ↔
      InCalendar t.seconds.toInt ∧ ¬InCalendar (t.seconds.toInt + offset.east))

/-- What is made of every local time decides nothing. -/
theorem endsByCalendar_bind (type : WireType) {f : Timestamp → Except Failure α}
    (hf : ∀ wall, wall.time.nanos = 0 → ∃ a, f wall = .ok a) :
    EndsByCalendar offset t type (t.wallClock type offset >>= f) := by
  rcases t.wallClock_cases offset type with
    ⟨hutc, hclock⟩ | ⟨hutc, hlocal, wall, hclock, -, hnanos⟩ | ⟨hutc, hlocal, hclock⟩
  · rw [hclock]
    exact ⟨iff_of_false nofun fun h => hutc h.1, iff_of_true rfl hutc,
      iff_of_false nofun fun h => hutc h.1⟩
  · obtain ⟨a, ha⟩ := hf wall hnanos
    rw [bind_eq_of_ok hclock, ha]
    exact ⟨iff_of_true ⟨a, rfl⟩ ⟨hutc, hlocal⟩, iff_of_false nofun (not_not_intro hutc),
      iff_of_false nofun fun h => h.2 hlocal⟩
  · rw [hclock]
    exact ⟨iff_of_false nofun fun h => hlocal h.2, iff_of_false nofun (not_not_intro hutc),
      iff_of_true rfl ⟨hutc, hlocal⟩⟩

/-- Ticks give a date, a time and a timestamp if they lie in the calendar in UTC and on the local
clock. They are out of range if they lie outside it in UTC. If the local clock alone is outside it,
none of the three comes to an end. -/
theorem endsByCalendar :
    EndsByCalendar offset t .date (t.toDate offset) ∧
      EndsByCalendar offset t .time (t.toTime offset) ∧
      EndsByCalendar offset t .timestamp (t.toTimestamp offset) := by
  refine ⟨endsByCalendar_bind offset t .date fun wall _ => ⟨wall.date, ?_⟩,
    endsByCalendar_bind offset t .time fun wall hnanos => ⟨wall.time, ?_⟩,
    endsByCalendar_bind offset t .timestamp fun wall hnanos => ⟨wall, ?_⟩⟩
  · rw [Date.ofFields, Date.ofFields?_self]
    rfl
  · rw [TimeOfDay.ofFields, TimeOfDay.ofFields?_self hnanos]
    rfl
  · rw [Timestamp.ofFields, Date.ofFields?_self, TimeOfDay.ofFields?_self hnanos]
    rfl

/-- At the last second of the calendar in UTC a clock an hour ahead shows a time behind its end. -/
theorem aborted_at_last_second :
    InCalendar (8210266876799 : Int64).toInt ∧
      toDate ⟨3600, by decide⟩ ⟨8210266876799⟩ = .error .aborted ∧
      toTime ⟨3600, by decide⟩ ⟨8210266876799⟩ = .error .aborted ∧
      toTimestamp ⟨3600, by decide⟩ ⟨8210266876799⟩ = .error .aborted := by
  decide +kernel

end Ticks

end ScalarWire
