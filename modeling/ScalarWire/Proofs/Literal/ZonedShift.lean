import ScalarWire.Proofs.Literal.Reading
import ScalarWire.Proofs.Literal.TimePrefix
import ScalarWire.Proofs.Zone.Token
import ScalarWire.Zone.Excerpt

/-!
# Zoned literals as local literals moved

A literal with a zone is read as the literal without it and then moved by the offset of that zone,
or of the session where no zone is written. Nothing of the zone is taken for a part of the date or
time in front of it, in any of their spellings, and nothing of these for a part of the zone.
-/

namespace ScalarWire

open Text

namespace Literal

/-- What may stand behind a date or a time as its zone. -/
structure EndsLiteral (w : List Char) : Prop where
  startsBlank : StartsBlank w
  splitMeridiem? : splitMeridiem? w = none
  dropJoint : dropJoint w = trimStart w
  startsWithDigit : startsWithDigit (trimStart w) = false

theorem endsLiteral_nil : EndsLiteral [] :=
  ⟨startsBlank_nil, by decide, rfl, rfl⟩

theorem dropJoint_of_blank {s w : List Char} (hs : isBlankText s) :
    dropJoint (s ++ w) = dropJoint w := by
  unfold dropJoint
  rw [trimStart_append_of_blank hs]

theorem endsLiteral_zoneWord {gap word : List Char} (hgap : isBlankText gap) (hne : gap ≠ [])
    (hword : IsZoneWord word) : EndsLiteral (gap ++ word) := by
  have hstart : trimStart (gap ++ word) = word := by
    rw [trimStart_append_of_blank hgap, trimStart_of_not_blank hword.not_blank]
  refine ⟨?_, ?_, ?_, ?_⟩
  · intro c hc
    rw [List.head?_append_of_ne_nil _ hne] at hc
    exact List.all_eq_true.mp hgap c (List.mem_of_head? hc)
  · rw [splitMeridiem?_of_blank hgap, hword.splitMeridiem?]
  · rw [dropJoint_of_blank hgap, hword.dropJoint, hstart]
  · rw [hstart, hword.startsWithDigit]

theorem startsWithDigit_append {s w : List Char} (hw : StartsBlank w) :
    startsWithDigit (s ++ w) = startsWithDigit s := by
  cases s with
  | cons c s => rfl
  | nil =>
      cases w with
      | nil => rfl
      | cons c w =>
          by_contra hdigit
          have hc : c.isDigit := by simpa [startsWithDigit] using hdigit
          exact absurd (hw c rfl) (by simp [isBlank_of_isDigit hc])

/-- Between a date and a time nothing depends on what stands behind the time. -/
theorem dropJoint_append {s w : List Char} (hw : StartsBlank w) (hs : trimStart s ≠ []) :
    dropJoint (s ++ w) = dropJoint s ++ w := by
  unfold dropJoint
  rw [trimStart_append hs]
  obtain ⟨c, time, hstart⟩ := List.exists_cons_of_ne_nil hs
  rw [hstart]
  simp only [List.cons_append, startsWithDigit_append hw]
  split_ifs <;> rfl

/-- A text without a time behind its date is blank there if nothing else is left of it. -/
theorem isBlankText_of_dropJoint {s : List Char} (hdigit : startsWithDigit (dropJoint s) = false)
    (hblank : isBlankText (dropJoint s)) : isBlankText s := by
  rw [← trimStart_eq_nil_iff]
  by_contra hne
  obtain ⟨c, time, hstart⟩ := List.exists_cons_of_ne_nil hne
  have hc : isBlank c = false := head_trimStart s c (by rw [hstart]; rfl)
  unfold dropJoint at hdigit hblank
  simp only [hstart] at hdigit hblank
  split_ifs at hdigit hblank with hletter
  · rw [hletter.2] at hdigit
    cases hdigit
  · rw [isBlankText, List.all_cons, hc] at hblank
    cases hblank

section readTimestamp

variable {ctx : Context} {type : WireType} {input body rest w : List Char} {bc : Bool}
  {t : Timestamp}

/-- A date with a time that leaves nothing but blanks is read off the front of a text whatever type
asks for it, and what stands behind it is left but for blanks. -/
theorem readTimestamp_append (hw : EndsLiteral w) (type' : WireType) (input' : List Char)
    (h : readTimestamp ctx type input body bc = .ok (t, rest)) (hrest : isBlankText rest) :
    ∃ rest', readTimestamp ctx type' input' (body ++ w) bc = .ok (t, rest') ∧
      trim rest' = trim w := by
  obtain ⟨fields, behind, date, micros, hdate, hday, hclock, hmove⟩ := readTimestamp_eq_ok_iff.mp h
  have hdate' := readDate_append_blank hw.startsBlank type' hdate
  unfold readClock at hclock
  by_cases hdigit : startsWithDigit (dropJoint behind)
  · -- The time is read off the front of what stands behind the date.
    rw [if_pos hdigit] at hclock
    have hne : trimStart behind ≠ [] := by
      intro hnil
      unfold dropJoint at hdigit
      rw [hnil] at hdigit
      cases hdigit
    have hclock' : readClock type' (dropJoint (behind ++ w)) = .ok (micros, rest ++ w) := by
      rw [dropJoint_append hw.startsBlank hne, readClock,
        if_pos ((startsWithDigit_append hw.startsBlank).trans hdigit)]
      exact readTime_append hw.startsBlank hw.splitMeridiem? type' hclock hrest
    refine ⟨rest ++ w,
      readTimestamp_eq_ok_iff.mpr ⟨_, _, _, _, hdate', hday, hclock', hmove⟩, ?_⟩
    rw [trim, trimStart_append_of_blank hrest, ← trim]
  · rw [if_neg hdigit] at hclock
    obtain ⟨rfl, rfl⟩ := Prod.mk.inj (Except.ok.inj hclock)
    have hblank := isBlankText_of_dropJoint (eq_false_of_ne_true hdigit) hrest
    have hclock' : readClock type' (dropJoint (behind ++ w)) = .ok (0, trimStart w) := by
      rw [dropJoint_of_blank hblank, hw.dropJoint, readClock, hw.startsWithDigit]
      rfl
    refine ⟨trimStart w,
      readTimestamp_eq_ok_iff.mpr ⟨_, _, _, _, hdate', hday, hclock', hmove⟩, ?_⟩
    rw [trim, trimStart_eq_self (head_trimStart w), ← trim]

theorem body_ne_nil_of_readTimestamp (h : readTimestamp ctx type input body bc = .ok (t, rest)) :
    body ≠ [] := by
  rintro rfl
  obtain ⟨_, _, _, _, hdate, -⟩ := readTimestamp_eq_ok_iff.mp h
  exact nomatch hdate

end readTimestamp

/-- Blanks around a zone do not matter. -/
theorem zoneOf_congr {ctx : Context} {type : WireType} {s t : List Char} (h : trim s = trim t) :
    zoneOf ctx type s = zoneOf ctx type t := by
  have hblank : isBlankText s = isBlankText t := by
    rw [Bool.eq_iff_iff, ← trim_eq_nil_iff, ← trim_eq_nil_iff, h]
  rw [zoneOf, zoneOf, hblank, ZoneTable.resolve, ZoneTable.resolve, h]

/-- A text from whose end no era marker is taken. -/
def EraFree (s : List Char) : Prop :=
  splitEra s = (trim s, false)

instance (s : List Char) : Decidable (EraFree s) :=
  inferInstanceAs (Decidable (_ = _))

/-- The last word of a text decides on its era. -/
theorem eraFree_of_last_word {s front gap word : List Char} (hs : trim s = front ++ (gap ++ word))
    (hgap : isBlankText gap) (hne : gap ≠ []) (hword : IsZoneWord word) : EraFree s := by
  have hlast : ((trim s).reverse.takeWhile fun c => !isBlank c).reverse = word := by
    rw [hs, List.reverse_append, List.reverse_append, List.append_assoc]
    rw [takeWhile_append_of_head?, List.reverse_reverse]
    · intro c hc
      simp [hword.not_blank c (List.mem_reverse.mp hc)]
    · intro c hc
      rw [List.head?_append_of_ne_nil _ (by simpa using hne)] at hc
      have hmem := List.mem_reverse.mp (List.mem_of_head? hc)
      simp [List.all_eq_true.mp hgap c hmem]
  simp only [EraFree, splitEra, hlast, hword.eraMarker?]
  exact ite_self _

/-- Where a zone stands behind a space, it is all that follows the text before it. -/
theorem exists_gap_of_resolve {regions : RegionDatabase} {type : WireType} {s token : List Char}
    {zone : Zone} (hs : trim s ≠ [])
    (hzone : ZoneTable.builtin.resolve regions type token = .ok zone) :
    ∃ w, trim (s ++ ' ' :: token) = trim s ++ w ∧ ' ' ∈ w ∧ trim w = trim token ∧
      EndsLiteral w ∧ EraFree (s ++ ' ' :: token) := by
  have hword := isZoneWord_of_resolve hzone
  obtain ⟨gap, hgap, hspace, htrim⟩ := exists_trim_append_space hs hword.ne_nil
  have hne : gap ≠ [] := List.ne_nil_of_mem hspace
  refine ⟨gap ++ trim token, htrim, List.mem_append_left _ hspace, ?_,
    endsLiteral_zoneWord hgap hne hword, eraFree_of_last_word htrim hgap hne hword⟩
  have hwhole : trim (gap ++ (trim token ++ [])) = trim token :=
    trim_append_append hgap (head_trim token) (last_trim token) rfl
  rwa [List.append_nil] at hwhole

theorem zoneOf_of_resolve {ctx : Context} {type : WireType} {token rest : List Char} {zone : Zone}
    (hctx : ctx.zones = .builtin)
    (hzone : ZoneTable.builtin.resolve ctx.regions type token = .ok zone)
    (hrest : trim rest = trim token) : zoneOf ctx type rest = .ok zone := by
  have hblank : ¬isBlankText token := by
    rw [← trim_eq_nil_iff]
    exact (isZoneWord_of_resolve hzone).ne_nil
  rw [zoneOf_congr hrest, zoneOf, if_neg hblank, hctx, hzone]

end Literal

open Literal

namespace Timestamp

variable {ctx : Context} {s : List Char} {wall : Timestamp}

theorem infinity?_of_finite (h : ofText ctx s = .ok wall) (hfirst : wall ≠ first)
    (hlast : wall ≠ last) : infinity? s = none := by
  cases hinf : infinity? s with
  | none => rfl
  | some sign =>
      rw [ofText_of_infinity? hinf] at h
      cases sign with
      | before => exact absurd (Except.ok.inj h).symm hfirst
      | after => exact absurd (Except.ok.inj h).symm hlast

/-- A time on a clock and the zone of that clock, once they are read, make up the instant. -/
theorem ofZonedText_of_read {rest : List Char} {zone : Zone} (hinf : infinity? s = none)
    (hera : EraFree s)
    (hread : readTimestamp ctx .timestamptz s (trim s) false = .ok (wall, rest))
    (hzone : zoneOf ctx .timestamptz rest = .ok zone) :
    ofZonedText ctx s = instantOf zone wall s := by
  have hzone' : (zoneOf ctx .timestamptz rest : Except Failure Zone) = .ok zone :=
    lift_eq_ok_iff.mpr hzone
  rw [ofZonedText_eq hinf, show splitEra s = (trim s, false) from hera]
  exact (bind_eq_of_ok hread).trans (bind_eq_of_ok hzone')

/-- The local time of a literal, as it is read with nothing or with a zone behind it. -/
theorem exists_readTimestamp (hinf : infinity? s = none) (hera : EraFree s)
    (h : ofText ctx s = .ok wall) {w : List Char} (hw : EndsLiteral w) (input : List Char) :
    trim s ≠ [] ∧ ∃ rest, readTimestamp ctx .timestamptz input (trim s ++ w) false =
      .ok (wall, rest) ∧ trim rest = trim w := by
  obtain ⟨rest, hread, hrest⟩ := (ofText_eq_ok_iff hinf).mp h
  rw [show splitEra s = (trim s, false) from hera] at hread
  exact ⟨body_ne_nil_of_readTimestamp hread, readTimestamp_append hw .timestamptz input hread hrest⟩

theorem ofZonedText_of_ofText (hinf : infinity? s = none) (hera : EraFree s)
    (h : ofText ctx s = .ok wall) : ofZonedText ctx s = instantOf ctx.sessionZone wall s := by
  obtain ⟨-, rest, hread, hrest⟩ := exists_readTimestamp hinf hera h endsLiteral_nil s
  rw [List.append_nil] at hread
  exact ofZonedText_of_read hinf hera hread ((zoneOf_congr hrest).trans rfl)

theorem ofZonedText_append_zone {token : List Char} {zone : Zone} (hctx : ctx.zones = .builtin)
    (hinf : infinity? s = none) (hera : EraFree s) (h : ofText ctx s = .ok wall)
    (hzone : ZoneTable.builtin.resolve ctx.regions .timestamptz token = .ok zone) :
    ofZonedText ctx (s ++ ' ' :: token) = instantOf zone wall (s ++ ' ' :: token) := by
  have hne := (exists_readTimestamp hinf hera h endsLiteral_nil s).1
  obtain ⟨w, htrim, hspace, hw, hends, hera'⟩ := exists_gap_of_resolve hne hzone
  obtain ⟨-, rest, hread, hrest⟩ := exists_readTimestamp hinf hera h hends (s ++ ' ' :: token)
  rw [← htrim] at hread
  have hinf' : infinity? (s ++ ' ' :: token) = none := by
    apply infinity?_eq_none_of_mem (c := ' ') _ (by decide) (by decide) (by decide)
    rw [htrim]
    exact List.mem_append_right _ hspace
  exact ofZonedText_of_read hinf' hera' hread (zoneOf_of_resolve hctx hzone (hrest.trans hw))

end Timestamp

namespace TimeOfDay

variable {ctx : Context} {s : List Char} {t : TimeOfDay}

/-- The local time of a literal is moved by the standard offset of the zone that is left
behind it. -/
theorem ofZonedText_of_read {w : List Char} {zone : Zone} (h : ofText s = .ok t)
    (hw : EndsLiteral w) {input : List Char} (hinput : trim input = trim s ++ w)
    (hzone : ∀ rest, trim rest = trim w → zoneOf ctx .timetz rest = .ok zone) :
    ofZonedText ctx input =
      .ok (wrapMicros (t.micros - zone.standardOffset.east * 1000000)) := by
  obtain ⟨micros, rest, hread, hrest, rfl⟩ := ofText_eq_ok_iff.mp h
  refine ofZonedText_eq_ok_iff.mpr ⟨micros, rest ++ w, zone, ?_, hzone _ ?_, ?_⟩
  · rw [hinput]
    exact readTime_append hw.startsBlank hw.splitMeridiem? .timetz hread hrest
  · rw [trim, trimStart_append_of_blank hrest, ← trim]
  · exact (wrapMicros_micros_sub micros _).symm

theorem trim_ne_nil_of_ofText (h : ofText s = .ok t) : trim s ≠ [] := by
  intro hnil
  obtain ⟨_, _, hread, -⟩ := ofText_eq_ok_iff.mp h
  rw [hnil] at hread
  exact nomatch hread

theorem ofZonedText_of_ofText (h : ofText s = .ok t) :
    ofZonedText ctx s =
      .ok (wrapMicros (t.micros - ctx.sessionZone.standardOffset.east * 1000000)) :=
  ofZonedText_of_read h endsLiteral_nil (List.append_nil _).symm
    fun _ hrest => (zoneOf_congr hrest).trans rfl

theorem ofZonedText_append_zone {token : List Char} {zone : Zone} (hctx : ctx.zones = .builtin)
    (h : ofText s = .ok t)
    (hzone : ZoneTable.builtin.resolve ctx.regions .timetz token = .ok zone) :
    ofZonedText ctx (s ++ ' ' :: token) =
      .ok (wrapMicros (t.micros - zone.standardOffset.east * 1000000)) := by
  obtain ⟨w, htrim, -, hw, hends, -⟩ := exists_gap_of_resolve (trim_ne_nil_of_ofText h) hzone
  exact ofZonedText_of_read h hends htrim
    fun _ hrest => zoneOf_of_resolve hctx hzone (hrest.trans hw)

end TimeOfDay

/-- Under the standard table a zoned literal is the local literal before its zone, moved by the
offset of that zone at the local time; a time without a date is moved by the standard offset. Where
no zone is written, the session's counts. -/
theorem Literal.ofZonedText_eq_ofText_moved (order : DateOrder) (regions : RegionDatabase)
    (session : Zone) :
    let ctx : Context := ⟨order, .builtin, regions, session⟩
    (∀ s wall, EraFree s → Timestamp.ofText ctx s = .ok wall → wall ≠ .first → wall ≠ .last →
      Timestamp.ofZonedText ctx s = Timestamp.instantOf session wall s ∧
        ∀ token zone, ctx.zones.resolve ctx.regions .timestamptz token = .ok zone →
          Timestamp.ofZonedText ctx (s ++ ' ' :: token) =
            Timestamp.instantOf zone wall (s ++ ' ' :: token)) ∧
    ∀ s t, TimeOfDay.ofText s = .ok t →
      TimeOfDay.ofZonedText ctx s =
          .ok (.wrapMicros (t.micros - session.standardOffset.east * 1000000)) ∧
        ∀ token zone, ctx.zones.resolve ctx.regions .timetz token = .ok zone →
          TimeOfDay.ofZonedText ctx (s ++ ' ' :: token) =
            .ok (.wrapMicros (t.micros - zone.standardOffset.east * 1000000)) := by
  intro ctx
  refine ⟨fun s wall hera h hfirst hlast => ?_, fun s t h => ?_⟩
  · have hinf := Timestamp.infinity?_of_finite h hfirst hlast
    exact ⟨Timestamp.ofZonedText_of_ofText hinf hera h, fun token zone hzone =>
      Timestamp.ofZonedText_append_zone rfl hinf hera h hzone⟩
  · exact ⟨TimeOfDay.ofZonedText_of_ofText h, fun token zone hzone =>
      TimeOfDay.ofZonedText_append_zone rfl h hzone⟩

/-- A summer evening on the Pacific coast, read in New York, and a time of day in India. -/
theorem Literal.ofZonedText_eq_ofText_moved_june :
    let ctx : Context := ⟨.dmy, .builtin, .excerpt, .region .newYork⟩
    let s := "Jun 1,2008 18:20".toList
    let wall : Timestamp := ⟨⟨2008, 6, 1, by decide⟩, ⟨66000, 0, by decide, by decide⟩⟩
    let evening := "10:15 PM".toList
    let t : TimeOfDay := ⟨80100, 0, by decide, by decide⟩
    (EraFree s ∧ Timestamp.ofText ctx s = .ok wall ∧ wall ≠ .first ∧ wall ≠ .last ∧
      ctx.zones.resolve ctx.regions .timestamptz "us/pacific".toList = .ok (.region .usPacific) ∧
        Timestamp.ofZonedText ctx s =
          .ok ⟨⟨2008, 6, 1, by decide⟩, ⟨80400, 0, by decide, by decide⟩⟩ ∧
        Timestamp.ofZonedText ctx "Jun 1,2008 18:20 us/pacific".toList =
          .ok ⟨⟨2008, 6, 2, by decide⟩, ⟨4800, 0, by decide, by decide⟩⟩) ∧
    TimeOfDay.ofText evening = .ok t ∧
      ∃ zone, ctx.zones.resolve ctx.regions .timetz "+05:30".toList = .ok zone ∧
        TimeOfDay.ofZonedText ctx "10:15 PM +05:30".toList =
          .ok ⟨60300, 0, by decide, by decide⟩ := by
  intro ctx s wall evening t
  have hera : EraFree s := by decide +kernel
  have hlocal : Timestamp.ofText ctx s = .ok wall :=
    toOption_eq_some_iff.mp (by decide +kernel)
  have hfirst : wall ≠ .first := by decide
  have hlast : wall ≠ .last := by decide
  have hpacific : ctx.zones.resolve ctx.regions .timestamptz "us/pacific".toList =
      .ok (.region .usPacific) := toOption_eq_some_iff.mp (by decide +kernel)
  have htime : TimeOfDay.ofText evening = .ok t := toOption_eq_some_iff.mp (by decide +kernel)
  have hindia : ctx.zones.resolve ctx.regions .timetz "+05:30".toList =
      .ok (.fixed ⟨19800, by decide⟩) := toOption_eq_some_iff.mp (by decide +kernel)
  obtain ⟨htimestamp, htimeOfDay⟩ := ofZonedText_eq_ofText_moved .dmy .excerpt (.region .newYork)
  obtain ⟨hsession, hzone⟩ := htimestamp s wall hera hlocal hfirst hlast
  refine ⟨⟨hera, hlocal, hfirst, hlast, hpacific, hsession.trans ?_,
    (hzone _ _ hpacific).trans ?_⟩, htime, _, hindia,
    ((htimeOfDay evening t htime).2 _ _ hindia).trans ?_⟩
  · exact Timestamp.instantOf_eq_ok_iff.mpr (by decide +kernel)
  · exact Timestamp.instantOf_eq_ok_iff.mpr (by decide +kernel)
  · exact toOption_eq_some_iff.mp (by decide +kernel)

end ScalarWire
