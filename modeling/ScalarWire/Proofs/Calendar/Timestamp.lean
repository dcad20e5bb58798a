import ScalarWire.Calendar.Timestamp
import ScalarWire.Proofs.Calendar.Date

/-!
# Whole microseconds

A time without a leap second is found again from its nanoseconds, and a time of whole
microseconds from its microseconds, on its own as well as behind a date.
-/

namespace ScalarWire

namespace TimeOfDay

/-- Whole microseconds and no leap second. -/
def IsWhole (t : TimeOfDay) : Prop :=
  t.nanos < 1000000000 ∧ t.nanos % 1000 = 0

instance (t : TimeOfDay) : Decidable t.IsWhole :=
  inferInstanceAs (Decidable (_ ∧ _))

theorem eq_of_parts_eq {t u : TimeOfDay} (hs : t.seconds = u.seconds) (hn : t.nanos = u.nanos) :
    t = u := by
  cases t
  cases u
  subst hs hn
  rfl

theorem micros_eq {t : TimeOfDay} (h : t.IsWhole) :
    t.micros = t.seconds * 1000000 + t.nanos / 1000 := by
  obtain ⟨hlt, -⟩ := h
  rw [micros]
  omega

theorem wrapMicros_micros {t : TimeOfDay} (h : t.IsWhole) : wrapMicros t.micros = t := by
  have hmicros := micros_eq h
  have hlt := t.seconds_lt
  obtain ⟨hn, hwhole⟩ := h
  apply eq_of_parts_eq
  · change ((t.micros : Int) % 86400000000).toNat / 1000000 = t.seconds
    omega
  · change ((t.micros : Int) % 86400000000).toNat % 1000000 * 1000 = t.nanos
    omega

theorem isWhole_wrapMicros (m : Int) : (wrapMicros m).IsWhole := by
  refine ⟨?_, Nat.mul_mod_left _ 1000⟩
  change (m % 86400000000).toNat % 1000000 * 1000 < 1000000000
  omega

theorem micros_wrapMicros (m : Int) : ((wrapMicros m).micros : Int) = m % 86400000000 := by
  rw [micros_eq (isWhole_wrapMicros m)]
  change (((m % 86400000000).toNat / 1000000 * 1000000 +
    (m % 86400000000).toNat % 1000000 * 1000 / 1000 : Nat) : Int) = m % 86400000000
  omega

/-- Whole days do not matter to what a time of day is moved to. -/
theorem wrapMicros_micros_sub (m n : Int) :
    wrapMicros ((wrapMicros m).micros - n) = wrapMicros (m - n) := by
  have hmod : ((wrapMicros m).micros - n) % 86400000000 = (m - n) % 86400000000 := by
    rw [micros_wrapMicros, Int.emod_sub_emod]
  apply eq_of_parts_eq
  · exact congrArg (fun k : Int => k.toNat / 1000000) hmod
  · exact congrArg (fun k : Int => k.toNat % 1000000 * 1000) hmod

/-- The time without what is finer than a microsecond. A leap second becomes the last microsecond of
the second before it. -/
def cut (t : TimeOfDay) : TimeOfDay :=
  wrapMicros t.micros

theorem cut_of_isWhole {t : TimeOfDay} (h : t.IsWhole) : t.cut = t :=
  wrapMicros_micros h

theorem cut_seconds (t : TimeOfDay) : t.cut.seconds = t.seconds := by
  have hlt := t.seconds_lt
  change ((t.micros : Int) % 86400000000).toNat / 1000000 = t.seconds
  rw [micros]
  omega

theorem cut_nanos (t : TimeOfDay) : t.cut.nanos = min (t.nanos / 1000) 999999 * 1000 := by
  have hlt := t.seconds_lt
  change ((t.micros : Int) % 86400000000).toNat % 1000000 * 1000 = _
  rw [micros]
  omega

theorem isWhole_cut (t : TimeOfDay) : t.cut.IsWhole :=
  isWhole_wrapMicros _

theorem micros_cut (t : TimeOfDay) : t.cut.micros = t.micros := by
  rw [micros, cut_seconds, cut_nanos, micros]
  omega

/-- Hour, minute and second make up the whole second. -/
theorem fields_eq (t : TimeOfDay) : (t.hour * 60 + t.minute) * 60 + t.second = t.seconds := by
  simp only [hour, minute, second]
  omega

theorem hour_lt (t : TimeOfDay) : t.hour < 24 := by
  have := t.seconds_lt
  rw [hour]
  omega

theorem minute_lt (t : TimeOfDay) : t.minute < 60 :=
  Nat.mod_lt _ (by decide)

theorem second_lt (t : TimeOfDay) : t.second < 60 :=
  Nat.mod_lt _ (by decide)

end TimeOfDay

namespace Timestamp

/-- Whole microseconds and no leap second, or one of the two infinities. -/
def IsWhole (t : Timestamp) : Prop :=
  t = first ∨ t = last ∨ t.time.IsWhole

instance (t : Timestamp) : Decidable t.IsWhole :=
  inferInstanceAs (Decidable (_ ∨ _))

theorem ofNanoCount?_nanoCount {t : Timestamp} (h : t.time.nanos < 1000000000) :
    ofNanoCount? t.nanoCount = some t := by
  have hlt := t.time.seconds_lt
  have hday : t.nanoCount / 86400000000000 = t.date.dayNumber := by
    rw [nanoCount]
    omega
  have hwithin : (t.nanoCount % 86400000000000).toNat =
      t.time.seconds * 1000000000 + t.time.nanos := by
    rw [nanoCount]
    omega
  simp only [ofNanoCount?, hday, Date.ofDayNumber?_dayNumber, Option.map_some, hwithin]
  congr 1
  obtain ⟨date, time⟩ := t
  change time.nanos < 1000000000 at h
  congr 1
  apply TimeOfDay.eq_of_parts_eq
  · change (time.seconds * 1000000000 + time.nanos) / 1000000000 = time.seconds
    omega
  · change (time.seconds * 1000000000 + time.nanos) % 1000000000 = time.nanos
    omega

/-- The timestamp found for a number of nanoseconds is the only one that has it and no leap
second. -/
theorem ofNanoCount?_eq_some_iff {n : Int} {t : Timestamp} :
    ofNanoCount? n = some t ↔ t.nanoCount = n ∧ t.time.nanos < 1000000000 := by
  constructor
  · intro h
    obtain ⟨date, hdate, rfl⟩ := Option.map_eq_some_iff.mp h
    have hday := Date.ofDayNumber?_eq_some_iff.mp hdate
    refine ⟨?_, Nat.mod_lt _ (by decide)⟩
    change (date.dayNumber * 86400 + ((n % 86400000000000).toNat / 1000000000 : Nat)) * 1000000000 +
      ((n % 86400000000000).toNat % 1000000000 : Nat) = n
    omega
  · rintro ⟨rfl, hnanos⟩
    exact ofNanoCount?_nanoCount hnanos

/-- Whole microseconds since the start of 0001-01-01 are found as a time of whole microseconds. -/
theorem isWhole_of_ofNanoCount? {n : Int} {t : Timestamp} (h : ofNanoCount? n = some t)
    (hn : n % 1000 = 0) : t.time.IsWhole := by
  obtain ⟨hcount, hnanos⟩ := ofNanoCount?_eq_some_iff.mp h
  rw [nanoCount] at hcount
  exact ⟨hnanos, by omega⟩

theorem isWhole_of_addMicros? {date : Date} {micros : Int} {t : Timestamp}
    (h : (⟨date, .midnight⟩ : Timestamp).addMicros? micros = some t) : t.time.IsWhole := by
  apply isWhole_of_ofNanoCount? h
  simp only [nanoCount, TimeOfDay.midnight]
  omega

theorem isWhole_of_addSeconds? {t u : Timestamp} {seconds : Int} (ht : t.time.IsWhole)
    (h : t.addSeconds? seconds = some u) : u.time.IsWhole := by
  obtain ⟨-, hwhole⟩ := ht
  apply isWhole_of_ofNanoCount? h
  rw [nanoCount]
  omega

/-- The timestamp without what is finer than a microsecond. The infinities stay what they are. -/
def cut (t : Timestamp) : Timestamp :=
  if t = first ∨ t = last then t else ⟨t.date, t.time.cut⟩

theorem cut_of_finite {t : Timestamp} (hfirst : t ≠ first) (hlast : t ≠ last) :
    t.cut = ⟨t.date, t.time.cut⟩ :=
  if_neg (not_or.mpr ⟨hfirst, hlast⟩)

theorem cut_of_isWhole {t : Timestamp} (h : t.IsWhole) : t.cut = t := by
  unfold cut
  split_ifs with hend
  · rfl
  · obtain ⟨hfirst, hlast⟩ := not_or.mp hend
    rw [TimeOfDay.cut_of_isWhole ((h.resolve_left hfirst).resolve_left hlast)]

/-- The microseconds of a time, counted from the midnight that begins its day. -/
theorem addMicros?_midnight {t : Timestamp} (h : t.time.IsWhole) :
    (⟨t.date, .midnight⟩ : Timestamp).addMicros? t.time.micros = some t := by
  have hmicros := TimeOfDay.micros_eq h
  obtain ⟨hn, hwhole⟩ := h
  rw [addMicros?, ← ofNanoCount?_nanoCount hn]
  congr 1
  simp only [nanoCount, TimeOfDay.midnight]
  omega

/-- The time so many microseconds after the midnight that begins a day. The midnight that ends the
day begins the next one, unless that lies outside the calendar. -/
def onDay? (date : Date) (micros : Nat) : Option Timestamp :=
  if micros < microsPerDay then some ⟨date, .wrapMicros micros⟩
  else (Date.ofDayNumber? (date.dayNumber + 1)).map (⟨·, .midnight⟩)

theorem addMicros?_eq_onDay? {date : Date} {micros : Nat} (h : micros ≤ microsPerDay) :
    (⟨date, .midnight⟩ : Timestamp).addMicros? micros = onDay? date micros := by
  rw [microsPerDay] at h
  rw [onDay?, microsPerDay]
  split_ifs with hlt
  · have hmicros : ((TimeOfDay.wrapMicros micros).micros : Int) = micros := by
      rw [TimeOfDay.micros_wrapMicros]
      omega
    have hadd : (⟨date, .midnight⟩ : Timestamp).addMicros? (TimeOfDay.wrapMicros micros).micros =
        some ⟨date, .wrapMicros micros⟩ :=
      addMicros?_midnight (t := ⟨date, .wrapMicros micros⟩) (TimeOfDay.isWhole_wrapMicros _)
    rwa [hmicros] at hadd
  · have hday : (nanoCount ⟨date, .midnight⟩ + micros * 1000) / 86400000000000 =
        date.dayNumber + 1 := by
      simp only [nanoCount, TimeOfDay.midnight]
      omega
    have hwithin : (nanoCount ⟨date, .midnight⟩ + micros * 1000) % 86400000000000 = 0 := by
      simp only [nanoCount, TimeOfDay.midnight]
      omega
    simp only [addMicros?, ofNanoCount?, hday, hwithin]
    rfl

theorem addSeconds?_zero {t : Timestamp} (h : t.time.nanos < 1000000000) :
    t.addSeconds? 0 = some t := by
  rw [addSeconds?, Int.zero_mul, Int.add_zero, ofNanoCount?_nanoCount h]

/-- Whole seconds from the start of 1970, in which a leap second counts as one of its own. -/
def elapsedSeconds (t : Timestamp) : Int :=
  t.unixSeconds + (t.time.nanos / 1000000000 : Nat)

theorem unixSeconds_le_elapsedSeconds (t : Timestamp) : t.unixSeconds ≤ t.elapsedSeconds :=
  Int.le_add_of_nonneg_right (Int.natCast_nonneg _)

theorem elapsedSeconds_le (t : Timestamp) : t.elapsedSeconds ≤ t.unixSeconds + 1 := by
  have := t.time.nanos_lt
  rw [elapsedSeconds]
  omega

theorem unixSeconds_of_addSeconds? {t u : Timestamp} {seconds : Int}
    (h : t.addSeconds? seconds = some u) : u.unixSeconds = t.elapsedSeconds + seconds := by
  obtain ⟨hcount, hnanos⟩ := ofNanoCount?_eq_some_iff.mp h
  simp only [nanoCount] at hcount
  simp only [elapsedSeconds, unixSeconds]
  omega

/-- Going back leaves the calendar only before its start. -/
theorem exists_addSeconds? {t : Timestamp} {seconds : Int} (hback : seconds < 0)
    (hlow : first.unixSeconds ≤ t.unixSeconds + seconds) :
    ∃ u, t.addSeconds? seconds = some u := by
  have hsecond := t.time.seconds_lt
  have hnanos := t.time.nanos_lt
  have hfirst : first.unixSeconds = (Date.first.dayNumber - 719162) * 86400 := Int.add_zero _
  rw [hfirst, unixSeconds] at hlow
  obtain ⟨date, hdate⟩ := Date.exists_dayNumber_eq (d := t.date)
    (n := (t.nanoCount + seconds * 1000000000) / 86400000000000)
    (by rw [nanoCount]; omega) (by rw [nanoCount]; omega)
  rw [addSeconds?, ofNanoCount?, Date.ofDayNumber?_eq_some_iff.mpr hdate]
  exact ⟨_, rfl⟩

/-- Seconds gone forward are gone back again. -/
theorem addSeconds?_neg {t u : Timestamp} {seconds : Int} (ht : t.time.nanos < 1000000000)
    (h : t.addSeconds? seconds = some u) : u.addSeconds? (-seconds) = some t := by
  obtain ⟨hcount, -⟩ := ofNanoCount?_eq_some_iff.mp h
  exact ofNanoCount?_eq_some_iff.mpr ⟨by omega, ht⟩

end Timestamp

end ScalarWire
