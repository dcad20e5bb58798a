import Mathlib.Algebra.Group.Int.Defs
import Mathlib.Algebra.Group.Nat.Defs
import ScalarWire.Calendar.Count
import ScalarWire.Proofs.Calendar.Timestamp

/-!
# The words of the calendar

The whole calendar lies well within the words that its counts travel in. So no date and no
timestamp but the infinities counts as an end of its word, and every one is found again from its
count that has nothing finer than the count.
-/

namespace ScalarWire

/-- A count of `d` within the word that reaches from `-bound` up to `bound`, where the ends of the
word stand for `first` and `last` and for nothing else. -/
structure IsCount {α : Type} (bound : Int) (first last d : α) (n : Int) : Prop where
  low : -bound ≤ n
  high : n < bound
  least_iff : n = -bound ↔ d = first
  greatest_iff : n = bound - 1 ↔ d = last

namespace Date

theorem dayNumber_bounds (d : Date) : -96000000 ≤ d.dayNumber ∧ d.dayNumber < 96000000 := by
  obtain ⟨hfirst, hlast, -⟩ := d.valid
  obtain ⟨hlow, hhigh⟩ := d.dayNumber_mem_year
  simp only [daysBeforeYear] at hlow hhigh
  omega

/-- The counts begin with the year 2000. -/
theorem le_dayNumber_iff (d : Date) : 730119 ≤ d.dayNumber ↔ 2000 ≤ d.year := by
  obtain ⟨hlow, hhigh⟩ := d.dayNumber_mem_year
  simp only [daysBeforeYear] at hlow hhigh
  omega

theorem isCount_count (d : Date) : IsCount (2 ^ 31) first last d d.count := by
  have hbounds := d.dayNumber_bounds
  have hne : first ≠ last := by decide
  unfold count
  split_ifs with hlast hfirst
  · exact ⟨by omega, by omega, ⟨by omega, fun h => absurd (h.symm.trans hlast) hne⟩,
      ⟨fun _ => hlast, fun _ => rfl⟩⟩
  · exact ⟨by omega, by omega, ⟨fun _ => hfirst, fun _ => rfl⟩,
      ⟨by omega, fun h => absurd h hlast⟩⟩
  · exact ⟨by omega, by omega, ⟨by omega, fun h => absurd h hfirst⟩,
      ⟨by omega, fun h => absurd h hlast⟩⟩

theorem count_of_finite {d : Date} (hfirst : d ≠ first) (hlast : d ≠ last) :
    d.count = d.dayNumber - 730119 := by
  rw [count, if_neg hlast, if_neg hfirst]

/-- A date is found again from its count. -/
theorem ofCount?_count (d : Date) : ofCount? d.count = some d := by
  have hcount := d.isCount_count
  by_cases hlast : d = last
  · rw [hlast]
    rfl
  by_cases hfirst : d = first
  · rw [hfirst]
    rfl
  have hgreatest := mt hcount.greatest_iff.mp hlast
  have hleast := mt hcount.least_iff.mp hfirst
  rw [ofCount?, if_neg (by omega), if_neg (by omega), count_of_finite hfirst hlast,
    Int.sub_add_cancel, ofDayNumber?_dayNumber]

end Date

namespace Timestamp

variable {t : Timestamp}

/-- Nanoseconds from the start of 2000. -/
def sinceEpoch (t : Timestamp) : Int :=
  t.nanoCount - 730119 * 86400000000000

theorem sinceEpoch_eq (t : Timestamp) :
    t.sinceEpoch = (t.date.dayNumber - 730119) * 86400000000000 +
      t.time.seconds * 1000000000 + t.time.nanos := by
  rw [sinceEpoch, nanoCount]
  omega

theorem count_of_finite (hfirst : t ≠ first) (hlast : t ≠ last) :
    t.count = t.sinceEpoch.tdiv 1000 := by
  rw [count, if_neg hlast, if_neg hfirst]
  rfl

theorem natAbs_sinceEpoch_lt (t : Timestamp) : t.sinceEpoch.natAbs < 9 * 10 ^ 21 := by
  have hday := t.date.dayNumber_bounds
  have hseconds := t.time.seconds_lt
  have hnanos := t.time.nanos_lt
  rw [sinceEpoch_eq]
  omega

theorem isCount_count (t : Timestamp) : IsCount (2 ^ 63) first last t t.count := by
  have hne : first ≠ last := by decide
  by_cases hlast : t = last
  · rw [count, if_pos hlast]
    exact ⟨by omega, by omega, ⟨by omega, fun h => absurd (h.symm.trans hlast) hne⟩,
      ⟨fun _ => hlast, fun _ => rfl⟩⟩
  by_cases hfirst : t = first
  · rw [count, if_neg hlast, if_pos hfirst]
    exact ⟨by omega, by omega, ⟨fun _ => hfirst, fun _ => rfl⟩,
      ⟨by omega, fun h => absurd h hlast⟩⟩
  · have hbound := t.natAbs_sinceEpoch_lt
    have habs : (t.sinceEpoch.tdiv 1000).natAbs = t.sinceEpoch.natAbs / 1000 :=
      Int.natAbs_tdiv _ _
    rw [count_of_finite hfirst hlast]
    exact ⟨by omega, by omega, ⟨by omega, fun h => absurd h hfirst⟩,
      ⟨by omega, fun h => absurd h hlast⟩⟩

/-- What is read from the count of a finite timestamp lies at that count and in no leap second. -/
theorem ofCount?_count_eq_some_iff {u : Timestamp} (hfirst : t ≠ first) (hlast : t ≠ last) :
    ofCount? t.count = some u ↔
      u.sinceEpoch = t.sinceEpoch.tdiv 1000 * 1000 ∧ u.time.nanos < 1000000000 := by
  have hcount := t.isCount_count
  have hgreatest := mt hcount.greatest_iff.mp hlast
  have hleast := mt hcount.least_iff.mp hfirst
  rw [ofCount?, if_neg (by omega), if_neg (by omega), count_of_finite hfirst hlast,
    ofNanoCount?_eq_some_iff, ← Int.sub_eq_iff_eq_add]
  rfl

theorem dvd_sinceEpoch (h : t.time.IsWhole) : (1000 : Int) ∣ t.sinceEpoch := by
  have hwhole := h.2
  rw [sinceEpoch_eq]
  omega

/-- A timestamp of whole microseconds is found again from its count. -/
theorem ofCount?_count (h : t.IsWhole) : ofCount? t.count = some t := by
  by_cases hlast : t = last
  · rw [hlast]
    rfl
  by_cases hfirst : t = first
  · rw [hfirst]
    rfl
  have hwhole := (h.resolve_left hfirst).resolve_left hlast
  exact (ofCount?_count_eq_some_iff hfirst hlast).mpr
    ⟨(Int.tdiv_mul_cancel (dvd_sinceEpoch hwhole)).symm, hwhole.1⟩

/-- Dropping what is finer than a microsecond moves a timestamp toward midnight in its text and
toward the start of 2000 in its count. A leap second goes back to the second before it in the one
and on to the next in the other. -/
theorem ofCount?_count_eq_cut_iff (t : Timestamp) :
    ofCount? t.count = some t.cut ↔
      t.IsWhole ∨ t.time.nanos < 1000000000 ∧ 2000 ≤ t.date.year := by
  by_cases hwhole : t.IsWhole
  · rw [cut_of_isWhole hwhole, ofCount?_count hwhole]
    simp [hwhole]
  obtain ⟨hfirst, hlast, htime⟩ := not_or.mp hwhole |>.imp_right not_or.mp
  have hcut := t.time.cut_nanos
  have hnanos : t.time.cut.nanos < 1000000000 := t.time.isWhole_cut.1
  have hseconds := t.time.seconds_lt
  have hsince := t.sinceEpoch_eq
  have hsinceCut := sinceEpoch_eq ⟨t.date, t.time.cut⟩
  simp only [TimeOfDay.cut_seconds] at hsinceCut
  rw [TimeOfDay.IsWhole] at htime
  rw [cut_of_finite hfirst hlast, ofCount?_count_eq_some_iff hfirst hlast, and_iff_left hnanos,
    or_iff_right hwhole, ← t.date.le_dayNumber_iff, hsinceCut]
  rcases le_or_gt 0 t.sinceEpoch with hsign | hsign
  · rw [Int.tdiv_eq_ediv_of_nonneg hsign]
    omega
  · have htdiv : t.sinceEpoch.tdiv 1000 = -(-t.sinceEpoch / 1000) := by
      rw [← Int.tdiv_eq_ediv_of_nonneg (by omega), Int.neg_tdiv, Int.neg_neg]
    rw [htdiv]
    omega

end Timestamp

end ScalarWire
