import ScalarWire.Literal.Temporal
import ScalarWire.Proofs.Literal.Date
import ScalarWire.Proofs.Literal.Era
import ScalarWire.Proofs.Literal.Reading
import ScalarWire.Proofs.Literal.Time

/-!
# Reading back dates and times

Each of the five temporal types reads what it writes, under any context: no setting of the
context has a say in the spelling that is written, and the zone of zoned values is written out.
-/

namespace ScalarWire

open Literal

namespace Literal

theorem digitEnds_isoFields (d : Date) : DigitEnds d.isoFields := by
  have h := (digitEnds_padded 4 (eraYear d.year).1).append (digitEnds_padded 2 d.day)
    ('-' :: Numeral.padded 2 d.month ++ ['-'])
  simpa [Date.isoFields] using h

theorem digitEnds_dayText (m : Nat) {micros : Nat} {fraction : List Char}
    (hf : SpellsMicros micros fraction) : DigitEnds (dayText m fraction) := by
  have hhour := digitEnds_padded 2 (m / 1000000 / 3600)
  cases hf with
  | whole =>
      have h := hhour.append (digitEnds_padded 2 (m / 1000000 % 60))
        (':' :: Numeral.padded 2 (m / 1000000 / 60 % 60) ++ [':'])
      simpa [dayText] using h
  | point hne _ hdigits _ =>
      have h := hhour.append (digitEnds_of_isDigit hne hdigits)
        (':' :: Numeral.padded 2 (m / 1000000 / 60 % 60) ++
          ':' :: Numeral.padded 2 (m / 1000000 % 60) ++ ['.'])
      simpa [dayText] using h

theorem digitEnds_clockText (t : TimeOfDay) {micros : Nat} {fraction : List Char}
    (hf : SpellsMicros micros fraction) : DigitEnds (clockText t fraction) := by
  rw [clockText_eq_dayText]
  exact digitEnds_dayText t.micros hf

theorem digitEnds_iso (t : TimeOfDay) : DigitEnds t.iso :=
  digitEnds_clockText t (spellsMicros_iso t)

theorem digitEnds_isoUtc (t : TimeOfDay) : DigitEnds t.isoUtc := by
  have hzero : DigitEnds ['0'] := ⟨⟨'0', rfl, rfl⟩, ⟨'0', rfl, rfl⟩⟩
  exact (digitEnds_iso t).append hzero ['+', '0']

/-- A zone that is written out does not depend on the context. -/
theorem zoneOf_utc (ctx : Context) (type : WireType) :
    zoneOf ctx type "+00".toList = .ok (.fixed .utc) := by
  rfl

theorem dropJoint_cons_blank {s : List Char} (h : DigitEnds s) : dropJoint (' ' :: s) = s := by
  obtain ⟨c, hc, hdigit⟩ := h.head
  obtain ⟨time, rfl⟩ := List.head?_eq_some_iff.mp hc
  have htrim : Text.trimStart (' ' :: c :: time) = c :: time :=
    Text.trimStart_eq_self h.isBlank_head
  have hletter : ¬((c = 'T' ∨ c = 't') ∧ startsWithDigit time) := by
    rintro ⟨rfl | rfl, -⟩
    · exact absurd hdigit (by decide)
    · exact absurd hdigit (by decide)
  simp only [dropJoint, htrim, if_neg hletter]

theorem startsWithDigit_of_digitEnds {s : List Char} (h : DigitEnds s) :
    startsWithDigit s = true := by
  obtain ⟨c, hc, hdigit⟩ := h.head
  obtain ⟨rest, rfl⟩ := List.head?_eq_some_iff.mp hc
  exact hdigit

/-- A written timestamp is read off the front of any text that can follow a time. -/
theorem readTimestamp_clockText (ctx : Context) (type : WireType) (input : List Char)
    {t : Timestamp} (ht : t.time.IsWhole) {fraction rest : List Char}
    (hf : SpellsMicros (t.time.micros % 1000000) fraction) (hrest : EndsTime rest)
    (hends : DigitEnds (clockText t.time fraction ++ rest)) :
    readTimestamp ctx type input
      (t.date.isoFields ++ ' ' :: (clockText t.time fraction ++ rest))
      (eraYear t.date.year).2 = .ok (t, rest) := by
  have hclock : readClock type (dropJoint (' ' :: (clockText t.time fraction ++ rest))) =
      .ok (t.time.micros, rest) := by
    rw [dropJoint_cons_blank hends, readClock, if_pos (startsWithDigit_of_digitEnds hends),
      readTime_clockText type t.time hf hrest]
  exact readTimestamp_eq_ok_iff.mpr ⟨_, _, _, _, readDate_isoFields type ctx.dateOrder t.date _,
    toDate?_isoFields t.date, hclock, Timestamp.addMicros?_midnight ht⟩

end Literal

theorem Date.ofText_iso (ctx : Context) (d : Date) : Date.ofText ctx d.iso = .ok d := by
  by_cases hlast : d = last
  · rw [iso, if_pos hlast, hlast]
    rfl
  by_cases hfirst : d = first
  · rw [iso, if_neg hlast, if_pos hfirst, hfirst]
    rfl
  have hends := digitEnds_isoFields d
  have hread := readDate_isoFields .date ctx.dateOrder d []
  rw [List.append_nil] at hread
  rw [iso, if_neg hlast, if_neg hfirst]
  simp only [ofText, infinity?_append_eraSuffix hends, splitEra_append_eraSuffix hends]
  refine (bind_eq_of_ok hread).trans ?_
  refine (bind_eq_of_ok (a := ()) rfl).trans ?_
  rw [dayOf, toDate?_isoFields]
  rfl

namespace TimeOfDay

variable {t : TimeOfDay}

/-- A written time shows its whole second and its microseconds, and nothing more. -/
theorem iso_cut (t : TimeOfDay) : t.cut.iso = t.iso := by
  simp only [iso, hour, minute, second, cut_seconds, micros_cut]

theorem ofText_iso (ht : t.IsWhole) : ofText t.iso = .ok t := by
  have hread := readTime_iso .time t endsTime_nil
  rw [List.append_nil] at hread
  rw [ofText, (digitEnds_iso t).trim_eq]
  refine (bind_eq_of_ok hread).trans ?_
  refine (bind_eq_of_ok (a := ()) rfl).trans ?_
  rw [wrapMicros_micros ht]
  rfl

theorem ofZonedText_isoUtc (ctx : Context) (ht : t.IsWhole) :
    ofZonedText ctx t.isoUtc = .ok t := by
  have hzone : (zoneOf ctx .timetz "+00".toList : Except Failure Zone) = .ok (.fixed .utc) := by
    rw [zoneOf_utc]
    rfl
  have hmicros : (t.micros : Int) - (Zone.fixed .utc).standardOffset.east * 1000000 = t.micros :=
    Int.sub_zero _
  rw [ofZonedText, (digitEnds_isoUtc t).trim_eq]
  refine (bind_eq_of_ok (readTime_iso .timetz t endsTime_utc)).trans ?_
  refine (bind_eq_of_ok hzone).trans ?_
  rw [hmicros, wrapMicros_micros ht]
  rfl

end TimeOfDay

namespace Timestamp

variable {t : Timestamp}

/-- The written form of a timestamp in the calendar, with what stands before the era in front. -/
theorem isoWith_eq (zone : List Char) (hfirst : t ≠ first) (hlast : t ≠ last) :
    t.isoWith zone =
      t.date.isoFields ++ ' ' :: (t.time.iso ++ zone) ++ eraSuffix t.date.year := by
  rw [isoWith, if_neg hlast, if_neg hfirst]
  simp

theorem digitEnds_body {zone : List Char} (h : DigitEnds (t.time.iso ++ zone)) :
    DigitEnds (t.date.isoFields ++ ' ' :: (t.time.iso ++ zone)) :=
  (digitEnds_isoFields t.date).append h [' ']

/-- A timestamp written in fields is read as such, even where it is an end of the calendar. -/
theorem ofText_fields (ctx : Context) (ht : t.time.IsWhole) :
    ofText ctx (t.date.isoFields ++ ' ' :: (t.time.iso ++ []) ++ eraSuffix t.date.year) =
      .ok t := by
  have htime : DigitEnds (t.time.iso ++ []) := by
    rw [List.append_nil]
    exact digitEnds_iso t.time
  have hends := digitEnds_body htime
  refine (ofText_eq_ok_iff (infinity?_append_eraSuffix hends _)).mpr ⟨[], ?_, rfl⟩
  rw [splitEra_append_eraSuffix hends]
  exact readTimestamp_clockText ctx .timestamp _ ht (spellsMicros_iso t.time) endsTime_nil htime

/-- A wall-clock time written in fields, with a zone behind them, is read as the instant that the
zone gives it. -/
theorem ofZonedText_clockText {ctx : Context} {wall : Timestamp} {fraction token : List Char}
    {zone : Zone} (hwall : wall.time.IsWhole)
    (hf : SpellsMicros (wall.time.micros % 1000000) fraction) (hend : EndsTime token)
    (hends : DigitEnds (clockText wall.time fraction ++ token))
    (hzone : zoneOf ctx .timestamptz token = .ok zone)
    (hmove : wall.addSeconds? (-(zone.offsetAt wall).east) = some t) :
    ofZonedText ctx (wall.date.isoFields ++ ' ' :: (clockText wall.time fraction ++ token) ++
      eraSuffix wall.date.year) = .ok t := by
  have hbody := (digitEnds_isoFields wall.date).append hends [' ']
  refine (ofZonedText_eq_ok_iff (infinity?_append_eraSuffix hbody _)).mpr
    ⟨wall, token, zone, ?_, hzone, hmove⟩
  rw [splitEra_append_eraSuffix hbody]
  exact readTimestamp_clockText ctx .timestamptz _ hwall hf hend hends

theorem ofZonedText_fields (ctx : Context) (ht : t.time.IsWhole) :
    ofZonedText ctx
      (t.date.isoFields ++ ' ' :: (t.time.iso ++ "+00".toList) ++ eraSuffix t.date.year) =
        .ok t :=
  ofZonedText_clockText ht (spellsMicros_iso t.time) endsTime_utc (digitEnds_isoUtc t.time)
    (zoneOf_utc ctx .timestamptz) (addSeconds?_zero ht.1)

/-- What is finer than a microsecond does not show in the text of a timestamp. -/
theorem ofText_iso_cut (ctx : Context) (t : Timestamp) : ofText ctx t.iso = .ok t.cut := by
  by_cases hfirst : t = first
  · rw [hfirst]
    rfl
  by_cases hlast : t = last
  · rw [hlast]
    rfl
  have hread := ofText_fields ctx (t := ⟨t.date, t.time.cut⟩) t.time.isWhole_cut
  rw [t.time.iso_cut] at hread
  rw [iso, isoWith_eq [] hfirst hlast, cut_of_finite hfirst hlast]
  exact hread

theorem ofZonedText_isoUtc_cut (ctx : Context) (t : Timestamp) :
    ofZonedText ctx t.isoUtc = .ok t.cut := by
  by_cases hfirst : t = first
  · rw [hfirst]
    rfl
  by_cases hlast : t = last
  · rw [hlast]
    rfl
  have hread := ofZonedText_fields ctx (t := ⟨t.date, t.time.cut⟩) t.time.isWhole_cut
  rw [t.time.iso_cut] at hread
  rw [isoUtc, isoWith_eq _ hfirst hlast, cut_of_finite hfirst hlast]
  exact hread

theorem ofText_iso (ctx : Context) (ht : t.IsWhole) : ofText ctx t.iso = .ok t := by
  rw [ofText_iso_cut, cut_of_isWhole ht]

theorem ofZonedText_isoUtc (ctx : Context) (ht : t.IsWhole) :
    ofZonedText ctx t.isoUtc = .ok t := by
  rw [ofZonedText_isoUtc_cut, cut_of_isWhole ht]

end Timestamp

end ScalarWire
