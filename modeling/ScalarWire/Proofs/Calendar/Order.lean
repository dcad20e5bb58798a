import Mathlib.Data.Prod.Lex
import ScalarWire.Proofs.Calendar.Count

/-!
# Counts in the order of the calendar

Dates are ordered by year, month and day, times by their second and what is finer, and timestamps
by date and time. Counts from the start of 2000 keep that order: the counts of dates strictly, and
those of timestamps as far as they can tell two timestamps apart. The infinities count below and
above everything else.
-/

namespace ScalarWire

/-- The infinities stand at the ends of a word, so every other count lies between theirs. -/
theorem IsCount.between {α : Type} {bound : Int} {first last d : α} {n : Int}
    (h : IsCount bound first last d n) :
    (d ≠ first → -bound < n) ∧ (d ≠ last → n < bound - 1) := by
  constructor
  · intro hfirst
    have hne := mt h.least_iff.mp hfirst
    have hlow := h.low
    omega
  · intro hlast
    have hne := mt h.greatest_iff.mp hlast
    have hhigh := h.high
    omega

namespace Date

/-- Year, month and day, of which the first that differs decides. -/
def key (d : Date) : Int ×ₗ Nat ×ₗ Nat :=
  toLex (d.year, toLex (d.month, d.day))

theorem key_injective : Function.Injective key := by
  rintro ⟨year, month, day, _⟩ ⟨year', month', day', _⟩ h
  obtain ⟨rfl, h⟩ := Prod.mk.inj (toLex.injective h)
  obtain ⟨rfl, rfl⟩ := Prod.mk.inj (toLex.injective h)
  rfl

instance : LinearOrder Date :=
  LinearOrder.lift' key key_injective

variable {d e : Date}

theorem lt_iff :
    d < e ↔ d.year < e.year ∨ d.year = e.year ∧
      (d.month < e.month ∨ d.month = e.month ∧ d.day < e.day) := by
  change d.key < e.key ↔ _
  simp only [key, Prod.Lex.toLex_lt_toLex]

/-- What begins later begins by whole days later. -/
theorem dayNumber_lt_dayNumber (h : d < e) : d.dayNumber < e.dayNumber := by
  obtain ⟨hbegin, hend⟩ := d.dayNumber_mem_year
  obtain ⟨hbegin', -⟩ := e.dayNumber_mem_year
  obtain ⟨-, -, hmonth, -, hday, -⟩ := d.valid
  obtain ⟨-, -, -, -, hday', -⟩ := e.valid
  rcases lt_iff.mp h with hyear | ⟨hyear, hmonths | ⟨hmonths, hdays⟩⟩
  · have := daysBeforeYear_mono (show d.year + 1 ≤ e.year by omega)
    omega
  · have hlt := d.day_lt
    have hle := daysBeforeMonth_mono d.year (show 1 ≤ d.month + 1 by omega)
      (show d.month + 1 ≤ e.month by omega)
    rw [dayNumber, dayNumber, ← hyear]
    omega
  · rw [dayNumber, dayNumber, ← hyear, ← hmonths]
    omega

theorem first_le (d : Date) : first ≤ d :=
  not_lt.mp fun h => (dayNumber_lt_dayNumber h).not_ge d.first_dayNumber_le

theorem le_last (d : Date) : d ≤ last :=
  not_lt.mp fun h => (dayNumber_lt_dayNumber h).not_ge d.dayNumber_le_last

theorem count_first : first.count = -2 ^ 31 :=
  first.isCount_count.least_iff.mpr rfl

theorem count_last : last.count = 2 ^ 31 - 1 :=
  last.isCount_count.greatest_iff.mpr rfl

theorem count_lt_count (h : d < e) : d.count < e.count := by
  by_cases hlast : e = last
  · rw [hlast, count_last]
    exact d.isCount_count.between.2 (hlast ▸ h.ne)
  by_cases hfirst : d = first
  · rw [hfirst, count_first]
    exact e.isCount_count.between.1 (hfirst ▸ h.ne')
  have hfirst' : e ≠ first := fun he => (d.first_le.trans_lt h).ne' he
  have hlast' : d ≠ last := fun hd => (h.trans_le e.le_last).ne hd
  have hday := dayNumber_lt_dayNumber h
  rw [count_of_finite hfirst hlast', count_of_finite hfirst' hlast]
  omega

end Date

namespace TimeOfDay

/-- Seconds and what is finer. A leap second comes behind the second that it is held with. -/
def key (t : TimeOfDay) : Nat ×ₗ Nat :=
  toLex (t.seconds, t.nanos)

theorem key_injective : Function.Injective key := by
  intro t u h
  obtain ⟨hseconds, hnanos⟩ := Prod.mk.inj (toLex.injective h)
  exact eq_of_parts_eq hseconds hnanos

instance : LinearOrder TimeOfDay :=
  LinearOrder.lift' key key_injective

theorem lt_iff {t u : TimeOfDay} :
    t < u ↔ t.seconds < u.seconds ∨ t.seconds = u.seconds ∧ t.nanos < u.nanos := by
  change t.key < u.key ↔ _
  simp only [key, Prod.Lex.toLex_lt_toLex]

end TimeOfDay

namespace Timestamp

def key (t : Timestamp) : Date ×ₗ TimeOfDay :=
  toLex (t.date, t.time)

theorem key_injective : Function.Injective key := by
  rintro ⟨date, time⟩ ⟨date', time'⟩ h
  obtain ⟨rfl, rfl⟩ := Prod.mk.inj (toLex.injective h)
  rfl

instance : LinearOrder Timestamp :=
  LinearOrder.lift' key key_injective

variable {t u : Timestamp}

theorem lt_iff : t < u ↔ t.date < u.date ∨ t.date = u.date ∧ t.time < u.time := by
  change t.key < u.key ↔ _
  simp only [key, Prod.Lex.toLex_lt_toLex]

/-- Outside leap seconds a later timestamp is later by whole nanoseconds. -/
theorem sinceEpoch_lt (ht : t.time.nanos < 1000000000) (h : t < u) :
    t.sinceEpoch < u.sinceEpoch := by
  have hseconds := t.time.seconds_lt
  rw [sinceEpoch_eq, sinceEpoch_eq]
  rcases lt_iff.mp h with hdate | ⟨hdate, htime⟩
  · have hday := Date.dayNumber_lt_dayNumber hdate
    omega
  · rw [hdate]
    rcases TimeOfDay.lt_iff.mp htime with hsecond | ⟨hsecond, hnanos⟩
    · omega
    · omega

theorem first_le (t : Timestamp) : first ≤ t := by
  rw [← not_lt, lt_iff, TimeOfDay.lt_iff]
  rintro (hdate | ⟨-, hseconds | ⟨-, hnanos⟩⟩)
  · exact hdate.not_ge t.date.first_le
  · exact Nat.not_lt_zero _ hseconds
  · exact Nat.not_lt_zero _ hnanos

theorem le_last (ht : t.time.nanos < 1000000000) : t ≤ last := by
  have hseconds := t.time.seconds_lt
  rw [← not_lt, lt_iff, TimeOfDay.lt_iff]
  rintro (hdate | ⟨-, hsecond | ⟨-, hnanos⟩⟩)
  · exact hdate.not_ge t.date.le_last
  · change 86399 < t.time.seconds at hsecond
    omega
  · change 999999999 < t.time.nanos at hnanos
    omega

theorem count_first : first.count = -2 ^ 63 :=
  first.isCount_count.least_iff.mpr rfl

theorem count_last : last.count = 2 ^ 63 - 1 :=
  last.isCount_count.greatest_iff.mpr rfl

/-- Of two timestamps in order, either an infinity is one and the counts are in order as well, or
both count by division. -/
theorem count_lt_or_finite (hu : u.time.nanos < 1000000000) (h : t < u) :
    t.count < u.count ∨ (t ≠ first ∧ t ≠ last) ∧ u ≠ first ∧ u ≠ last := by
  by_cases hlast : u = last
  · rw [hlast, count_last]
    exact Or.inl (t.isCount_count.between.2 (hlast ▸ h.ne))
  by_cases hfirst : t = first
  · rw [hfirst, count_first]
    exact Or.inl (u.isCount_count.between.1 (hfirst ▸ h.ne'))
  exact Or.inr ⟨⟨hfirst, (h.trans_le (le_last hu)).ne⟩, (t.first_le.trans_lt h).ne', hlast⟩

theorem count_le_count (ht : t.time.nanos < 1000000000) (hu : u.time.nanos < 1000000000)
    (h : t < u) : t.count ≤ u.count := by
  rcases count_lt_or_finite hu h with hlt | ⟨⟨hfirst, hlast⟩, hfirst', hlast'⟩
  · exact hlt.le
  · rw [count_of_finite hfirst hlast, count_of_finite hfirst' hlast']
    exact Int.tdiv_le_tdiv (by decide) (sinceEpoch_lt ht h).le

theorem nanos_lt_of_isWhole (h : t.IsWhole) : t.time.nanos < 1000000000 := by
  rcases h with rfl | rfl | hwhole
  · decide
  · decide
  · exact hwhole.1

theorem count_lt_count (ht : t.IsWhole) (hu : u.IsWhole) (h : t < u) : t.count < u.count := by
  rcases count_lt_or_finite (nanos_lt_of_isWhole hu) h with hlt | ⟨⟨hfirst, hlast⟩, hfirst', hlast'⟩
  · exact hlt
  · have hwhole := (ht.resolve_left hfirst).resolve_left hlast
    have hwhole' := (hu.resolve_left hfirst').resolve_left hlast'
    have hlt := sinceEpoch_lt hwhole.1 h
    have hcount := Int.tdiv_mul_cancel (dvd_sinceEpoch hwhole)
    have hcount' := Int.tdiv_mul_cancel (dvd_sinceEpoch hwhole')
    rw [count_of_finite hfirst hlast, count_of_finite hfirst' hlast']
    omega

end Timestamp

/-- Later dates have greater counts. Outside leap seconds later timestamps have counts that are not
smaller, and greater ones if both are of whole microseconds. Nothing but the infinities counts as
little or as much as they do. -/
theorem count_keeps_order :
    (∀ d e : Date, d < e → d.count < e.count) ∧
      (∀ d : Date, (d ≠ .first → Date.first.count < d.count) ∧
        (d ≠ .last → d.count < Date.last.count)) ∧
      (∀ t u : Timestamp, t.time.nanos < 1000000000 → u.time.nanos < 1000000000 → t < u →
        t.count ≤ u.count ∧ (t.IsWhole → u.IsWhole → t.count < u.count)) ∧
      ∀ t : Timestamp, (t ≠ .first → Timestamp.first.count < t.count) ∧
        (t ≠ .last → t.count < Timestamp.last.count) := by
  refine ⟨fun d e h => Date.count_lt_count h, fun d => ?_, fun t u ht hu h => ?_, fun t => ?_⟩
  · rw [Date.count_first, Date.count_last]
    exact d.isCount_count.between
  · exact ⟨Timestamp.count_le_count ht hu h, fun ht hu => Timestamp.count_lt_count ht hu h⟩
  · rw [Timestamp.count_first, Timestamp.count_last]
    exact t.isCount_count.between

/-- The last microsecond before 2000 counts less than its start, and half a microsecond before it
counts the same. The leap day of 2000 and the end of its month are in order. -/
theorem count_keeps_order_epoch :
    let half : Timestamp := ⟨⟨1999, 12, 31, by decide⟩, ⟨86399, 999999500, by decide, by decide⟩⟩
    let whole : Timestamp := ⟨⟨1999, 12, 31, by decide⟩, ⟨86399, 999999000, by decide, by decide⟩⟩
    let start : Timestamp := ⟨⟨2000, 1, 1, by decide⟩, .midnight⟩
    let leap : Date := ⟨2000, 2, 29, by decide⟩
    let march : Date := ⟨2000, 3, 1, by decide⟩
    half < start ∧ half.count = start.count ∧ half.count ≤ start.count ∧
      whole < start ∧ whole.IsWhole ∧ start.IsWhole ∧ whole.count < start.count ∧
      leap < march ∧ leap.count < march.count ∧ leap ≠ .last ∧ leap.count < Date.last.count := by
  intro half whole start leap march
  have hhalf : half < start := by decide
  have hwhole : whole < start := by decide
  have hleap : leap < march := by decide
  have hlast : leap ≠ .last := by decide
  obtain ⟨hdates, hends, htimes, -⟩ := count_keeps_order
  have hparts : whole.IsWhole := Or.inr (Or.inr (by decide))
  have hparts' : start.IsWhole := Or.inr (Or.inr (by decide))
  exact ⟨hhalf, by decide, (htimes _ _ (by decide) (by decide) hhalf).1, hwhole, hparts, hparts',
    (htimes _ _ (by decide) (by decide) hwhole).2 hparts hparts', hleap, hdates _ _ hleap, hlast,
    (hends leap).2 hlast⟩

end ScalarWire
