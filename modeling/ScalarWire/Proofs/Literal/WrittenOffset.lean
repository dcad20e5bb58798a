import ScalarWire.Proofs.Literal.Temporal
import ScalarWire.Proofs.Zone.Offset
import ScalarWire.Zone.Excerpt

/-!
# Instants written with an offset

An instant can be written as the time that clocks with any offset show at it, with that offset
behind. It is read as the same instant whatever the offset is, although date, year and era of the
clocks may be others than in UTC, and no setting of the context has a say in it. A time of day
without a date is read in the same way.
-/

namespace ScalarWire

open Literal

namespace Literal

theorem splitMeridiem?_cons {c : Char} {rest : List Char} (hblank : Text.isBlank c = false)
    (ha : c.toLower ≠ 'a') (hp : c.toLower ≠ 'p') : splitMeridiem? (c :: rest) = none := by
  have hstart : Text.trimStart (c :: rest) = c :: rest :=
    List.dropWhile_cons_of_neg (by simp [hblank])
  rw [splitMeridiem?_eq, hstart]
  cases hword : meridiemOf? ((c :: rest).take 2) with
  | none => rfl
  | some meridiem =>
      rcases lower_of_meridiemOf? hword with h | h
      · exact absurd (List.cons.inj h).1 ha
      · exact absurd (List.cons.inj h).1 hp

/-- A sign behind a time belongs to the zone. -/
theorem endsTime_sign (negative : Bool) (rest : List Char) :
    EndsTime ((if negative then '-' else '+') :: rest) := by
  refine ⟨endsDigits_cons ?_, ?_, ?_⟩
  · cases negative <;> decide
  · cases negative <;> exact splitFraction?_cons (by decide) (by decide)
  · cases negative <;> exact splitMeridiem?_cons (by decide) (by decide) (by decide)

section Spelling

variable (form : Offset.Spelling) (negative : Bool) (n : Nat)

theorem endsTime_text : EndsTime (form.text negative n) :=
  endsTime_sign negative _

variable {form negative n} in
theorem DigitEnds.append_text {s : List Char} (h : DigitEnds s) :
    DigitEnds (s ++ form.text negative n) := by
  obtain ⟨mid, k, htext⟩ := form.exists_text_eq negative n
  rw [htext, ← List.cons_append]
  exact h.append (digitEnds_padded 2 k) _

theorem digitEnds_clockText_text (t : TimeOfDay) {micros : Nat} {fraction : List Char}
    (hf : SpellsMicros micros fraction) :
    DigitEnds (clockText t fraction ++ form.text negative n) :=
  (digitEnds_clockText t hf).append_text

theorem isBlankText_text : Text.isBlankText (form.text negative n) = false := by
  rw [Offset.Spelling.text, Text.isBlankText, List.all_cons]
  cases negative <;> rfl

end Spelling

theorem zoneOf_text (ctx : Context) (type : WireType) {form : Offset.Spelling} (negative : Bool)
    {n : Nat} (h : form.Fits n) (hn : n ≤ Offset.maxDisplacement) :
    ∃ offset, zoneOf ctx type (form.text negative n) = .ok (.fixed offset) ∧
      offset.east = Numeral.negateIf negative n := by
  rw [zoneOf, isBlankText_text]
  exact ctx.zones.resolve_text ctx.regions type negative h hn

theorem zoneOf_text_of_lt (ctx : Context) (type : WireType) {form : Offset.Spelling}
    (negative : Bool) {n : Nat} (h : form.Fits n) (hlarge : Offset.maxDisplacement < n)
    (hn : n < 360000) :
    zoneOf ctx type (form.text negative n) =
      .error (.outOfRange type (String.ofList (form.text negative n))) := by
  rw [zoneOf, isBlankText_text]
  exact ctx.zones.resolve_text_of_lt ctx.regions type negative h hlarge hn

end Literal

namespace TimeOfDay

section dayText

variable (ctx : Context) {micros n : Nat} {form : Offset.Spelling} {fraction : List Char}
  (negative : Bool) (hm : micros ≤ microsPerDay) (hform : form.Fits n)
  (hf : SpellsMicros (micros % 1000000) fraction)

include hm hform hf

/-- A time with an offset that the server accepts is brought to UTC. -/
theorem ofZonedText_dayText (hn : n ≤ Offset.maxDisplacement) :
    ofZonedText ctx (dayText micros fraction ++ form.text negative n) =
      .ok (wrapMicros (micros - Numeral.negateIf negative n * 1000000)) := by
  obtain ⟨offset, hzone, heast⟩ := zoneOf_text ctx .timetz negative hform hn
  rw [ofZonedText, ((digitEnds_dayText micros hf).append_text).trim_eq]
  refine (bind_eq_of_ok (readTime_dayText .timetz hm hf (endsTime_text form negative n))).trans ?_
  refine (bind_eq_of_ok (lift_eq_ok_iff.mpr hzone)).trans ?_
  rw [Zone.standardOffset, heast]
  rfl

theorem ofZonedText_dayText_of_lt (hlarge : Offset.maxDisplacement < n) (hn : n < 360000) :
    ofZonedText ctx (dayText micros fraction ++ form.text negative n) =
      .error (.rejected (.outOfRange .timetz (String.ofList (form.text negative n)))) := by
  rw [ofZonedText, ((digitEnds_dayText micros hf).append_text).trim_eq]
  refine (bind_eq_of_ok (readTime_dayText .timetz hm hf (endsTime_text form negative n))).trans ?_
  dsimp only
  rw [zoneOf_text_of_lt ctx .timetz negative hform hlarge hn]
  rfl

end dayText

end TimeOfDay

namespace Timestamp

/-- An instant is read back from the time on the clocks of any offset that the server accepts, in
every spelling of that offset. -/
theorem ofZonedText_of_written_offset (ctx : Context) {u wall : Timestamp} {negative : Bool}
    {n : Nat} {form : Offset.Spelling} {fraction : List Char} (hu : u.time.IsWhole)
    (hn : n ≤ Offset.maxDisplacement) (hform : form.Fits n)
    (hwall : u.addSeconds? (Numeral.negateIf negative n) = some wall)
    (hf : SpellsMicros (wall.time.micros % 1000000) fraction) :
    ofZonedText ctx
      (wall.date.isoFields ++ ' ' :: (clockText wall.time fraction ++ form.text negative n) ++
        eraSuffix wall.date.year) = .ok u := by
  obtain ⟨offset, hzone, heast⟩ := zoneOf_text ctx .timestamptz negative hform hn
  have hback : wall.addSeconds? (-((Zone.fixed offset).offsetAt wall).east) = some u := by
    rw [show ((Zone.fixed offset).offsetAt wall).east = _ from heast]
    exact addSeconds?_neg hu.1 hwall
  exact ofZonedText_clockText (isWhole_of_addSeconds? hu hwall) hf (endsTime_text form negative n)
    (digitEnds_clockText_text form negative n wall.time hf) hzone hback

/-- Half a second before the first year of our era, on clocks that are behind UTC, it is that year
already in UTC. -/
theorem ofZonedText_of_written_offset_new_era :
    let ctx : Context := ⟨.dmy, .empty "none", .excerpt, .fixed .utc⟩
    let u : Timestamp := ⟨⟨1, 1, 1, by decide⟩, ⟨19799, 500000000, by decide, by decide⟩⟩
    let wall : Timestamp := ⟨⟨0, 12, 31, by decide⟩, ⟨86399, 500000000, by decide, by decide⟩⟩
    u.time.IsWhole ∧ u.addSeconds? (Numeral.negateIf true 19800) = some wall ∧
      SpellsMicros (wall.time.micros % 1000000) ".50".toList ∧
        ofZonedText ctx "0001-12-31 23:59:59.50-0530 BC".toList = .ok u := by
  intro ctx u wall
  have hu : u.time.IsWhole := by decide
  have hwall : u.addSeconds? (Numeral.negateIf true 19800) = some wall := by decide +kernel
  have hf : SpellsMicros (wall.time.micros % 1000000) ".50".toList :=
    .point (by decide) (by decide) (List.all_eq_true.mp (by decide)) (by decide)
  have htext : wall.date.isoFields ++ ' ' :: (clockText wall.time ".50".toList ++
      Offset.Spelling.compactMinutes.text true 19800) ++ eraSuffix wall.date.year =
        "0001-12-31 23:59:59.50-0530 BC".toList := by
    decide +kernel
  refine ⟨hu, hwall, hf, ?_⟩
  rw [← htext]
  exact ofZonedText_of_written_offset ctx hu (by decide) (by decide) hwall hf

end Timestamp

end ScalarWire
