import ScalarWire.Proofs.Codec.Temporal
import ScalarWire.Proofs.Literal.AsciiDate
import ScalarWire.Proofs.Literal.TimeFields
import ScalarWire.Registry
import ScalarWire.Zone.Excerpt

/-!
# Digits of other scripts in dates and times

Every field of a date or a time is a number in ASCII digits, but of a fraction only the first six
digits are read as one. So a text that is accepted has no digits of other scripts except behind the
sixth digit of a fraction, and there they are let through.
-/

namespace ScalarWire

open Text

namespace Literal

/-- A text without digits of other scripts except perhaps behind the sixth digit of one fraction. -/
inductive AsciiUpToSixth : List Char → Prop where
  | ascii {s : List Char} (h : AsciiDigits s) : AsciiUpToSixth s
  | fraction {front kept more tail : List Char} {mark : Char} (hfront : AsciiDigits front)
      (hmark : mark = '.' ∨ mark = ',') (hlen : kept.length = 6) (hkept : ∀ c ∈ kept, c.isDigit)
      (hmore : ∀ c ∈ more, isDecimalDigit c) (htail : AsciiDigits tail) :
      AsciiUpToSixth (front ++ mark :: (kept ++ (more ++ tail)))

namespace AsciiUpToSixth

variable {s t : List Char}

theorem append (h : AsciiUpToSixth s) (ht : AsciiDigits t) : AsciiUpToSixth (s ++ t) := by
  cases h with
  | ascii h => exact .ascii (asciiDigits_append_iff.mpr ⟨h, ht⟩)
  | fraction hfront hmark hlen hkept hmore htail =>
      simp only [List.append_assoc, List.cons_append]
      exact .fraction hfront hmark hlen hkept hmore (asciiDigits_append_iff.mpr ⟨htail, ht⟩)

theorem prepend (h : AsciiUpToSixth s) (ht : AsciiDigits t) : AsciiUpToSixth (t ++ s) := by
  cases h with
  | ascii h => exact .ascii (asciiDigits_append_iff.mpr ⟨ht, h⟩)
  | fraction hfront hmark hlen hkept hmore htail =>
      rw [← List.append_assoc]
      exact .fraction (asciiDigits_append_iff.mpr ⟨ht, hfront⟩) hmark hlen hkept hmore htail

theorem of_trim (h : AsciiUpToSixth (trim s)) : AsciiUpToSixth s := by
  obtain ⟨before, behind, hbefore, hbehind, hs⟩ := exists_eq_append_trim s
  rw [hs]
  exact (h.append (asciiDigits_of_isBlankText hbehind)).prepend (asciiDigits_of_isBlankText hbefore)

end AsciiUpToSixth

section fraction

variable {digits kept dropped : List Char} {e : CodecError} {n : Nat}

/-- Behind a cut that leaves something, a text of single bytes has the full length. -/
theorem eq_append_of_cut? (h : Utf8.cut? n digits = some (kept, dropped))
    (hkept : ∀ c ∈ kept, c.isDigit) :
    digits = kept ++ dropped ∧ (dropped = [] ∨ kept.length = n) := by
  induction digits generalizing n kept with
  | nil =>
      rw [Utf8.cut?] at h
      cases h
      exact ⟨rfl, Or.inl rfl⟩
  | cons c digits ih =>
      cases n with
      | zero =>
          cases h
          exact ⟨rfl, Or.inr rfl⟩
      | succ n =>
          rw [Utf8.cut?] at h
          split_ifs at h with hsize
          obtain ⟨⟨head, tail⟩, hcut, heq⟩ := Option.map_eq_some_iff.mp h
          cases heq
          have hc := (Numeral.isDigit_iff c).mp (hkept c List.mem_cons_self)
          rw [utf8Size_of_ascii (by omega), Nat.add_sub_cancel] at hcut
          obtain ⟨rfl, hlen⟩ := ih hcut fun d hd => hkept d (List.mem_cons_of_mem c hd)
          exact ⟨rfl, hlen.imp_right (congrArg (· + 1))⟩

theorem exists_of_fractionMicros (h : fractionMicros e digits = .ok n) :
    ∃ kept more, digits = kept ++ more ∧ (∀ c ∈ kept, c.isDigit) ∧
      (more = [] ∨ kept.length = 6) := by
  unfold fractionMicros at h
  split at h
  · cases h
  · next kept more hcut =>
      split at h
      · cases h
      · next hread =>
          have hkept := isDigit_of_read? hread
          obtain ⟨hdigits, hlen⟩ := eq_append_of_cut? hcut hkept
          exact ⟨kept, more, hdigits, hkept, hlen⟩

end fraction

section time

variable {s text rest : List Char} {e : CodecError} {n : Nat} {type : WireType}

theorem isDigit_of_readField (h : readField e s = .ok n) : ∀ c ∈ s, c.isDigit :=
  isDigit_of_read? ((readField_eq_ok_iff e).mp h)

theorem SpellsSeconds.asciiUpToSixth {second? fraction? : Option (List Char)} {second fraction : Nat}
    (h : SpellsSeconds second? fraction? text)
    (hsecond : readOptional (readField e) second? = .ok second)
    (hfraction : readOptional (fractionMicros e) fraction? = .ok fraction) :
    AsciiUpToSixth text := by
  have hcolon : AsciiDigits [':'] := asciiDigits_singleton (by decide)
  cases h with
  | none => exact .ascii asciiDigits_nil
  | whole =>
      have hdigits := asciiDigits_of_isDigit (isDigit_of_readField hsecond)
      exact .ascii (asciiDigits_append_iff.mpr ⟨hcolon, hdigits⟩)
  | @pointed digits fraction mark _ hmark _ hforeign =>
      have hdigits := asciiDigits_of_isDigit (isDigit_of_readField hsecond)
      obtain ⟨kept, more, rfl, hkept, hlen⟩ := exists_of_fractionMicros hfraction
      refine .prepend (s := mark :: (kept ++ more)) (t := ':' :: digits) ?_
        (asciiDigits_append_iff.mpr ⟨hcolon, hdigits⟩)
      rcases hlen with rfl | hlen
      · have hpoint : AsciiDigits [mark] := by
          rcases hmark with rfl | rfl <;> exact asciiDigits_singleton (by decide)
        rw [List.append_nil]
        exact .ascii (asciiDigits_append_iff.mpr ⟨hpoint, asciiDigits_of_isDigit hkept⟩)
      · have hmore : ∀ c ∈ more, isDecimalDigit c :=
          fun c hc => hforeign c (List.mem_append_right _ hc)
        have hspells :=
          AsciiUpToSixth.fraction asciiDigits_nil hmark hlen hkept hmore asciiDigits_nil
        rwa [List.append_nil] at hspells

theorem asciiDigits_of_spellsMeridiem {meridiem? : Option Meridiem}
    (h : SpellsMeridiem meridiem? text) : AsciiDigits text := by
  cases h with
  | none => exact asciiDigits_nil
  | @some meridiem blanks word hblanks hword =>
      have hmeridiem : AsciiDigits meridiem.word := by cases meridiem <;> decide
      exact asciiDigits_append_iff.mpr ⟨asciiDigits_of_isBlankText hblanks,
        asciiDigits_of_lower_eq (beq_iff_eq.mp hword) hmeridiem⟩

theorem exists_of_readTime (h : readTime type s = .ok (n, rest)) :
    ∃ front, s = front ++ rest ∧ AsciiUpToSixth front := by
  obtain ⟨t, hfields, hmicros, rfl⟩ := readTime_eq_ok_iff.mp h
  obtain ⟨-, -, seconds, meridiem, rfl, hseconds, hmeridiem⟩ := spells_of_timeText? hfields
  rw [TimeText.micros_eq] at hmicros
  simp only [bind_eq_ok_iff] at hmicros
  obtain ⟨hour, hhour, minute, hminute, second, hsecond, fraction, hfraction, -⟩ := hmicros
  have hclock : AsciiDigits (t.hour ++ ':' :: t.minute) :=
    asciiDigits_append_iff.mpr ⟨asciiDigits_of_isDigit (isDigit_of_readField hhour),
      asciiDigits_append_iff.mpr ⟨asciiDigits_singleton (c := ':') (by decide),
        asciiDigits_of_isDigit (isDigit_of_readField hminute)⟩⟩
  refine ⟨t.hour ++ ':' :: t.minute ++ (seconds ++ meridiem), by simp, ?_⟩
  exact ((hseconds.asciiUpToSixth hsecond hfraction).append
    (asciiDigits_of_spellsMeridiem hmeridiem)).prepend hclock

end time

section timestamp

variable {ctx : Context} {type : WireType} {s input rest : List Char} {bc : Bool} {t : Timestamp}

theorem takesAscii_dropJoint (s : List Char) : TakesAscii s (dropJoint s) := by
  have hstart := TakesAscii.trimStart s
  unfold dropJoint
  split
  · next c time heq =>
      rw [heq] at hstart
      split_ifs with hletter
      · refine hstart.trans (.cons ?_ time)
        rcases hletter.1 with rfl | rfl <;> decide
      · exact hstart
  · next heq =>
      rwa [heq] at hstart

/-- A timestamp up to its end or its zone, with what may follow it. -/
theorem asciiUpToSixth_of_readTimestamp
    (h : readTimestamp ctx type input (splitEra s).1 bc = .ok (t, rest))
    (hrest : AsciiDigits rest) : AsciiUpToSixth s := by
  obtain ⟨fields, behind, date, micros, hdate, -, hclock, -⟩ := readTimestamp_eq_ok_iff.mp h
  obtain ⟨front, hbody, hfront⟩ :=
    (takesAscii_of_readDate hdate).trans (takesAscii_dropJoint behind)
  have hbehind : AsciiUpToSixth (dropJoint behind) := by
    unfold readClock at hclock
    split_ifs at hclock
    · obtain ⟨time, htime, hspells⟩ := exists_of_readTime hclock
      rw [htime]
      exact hspells.append hrest
    · cases hclock
      exact .ascii hrest
  obtain ⟨era, htrim, hera⟩ := takesAscii_splitEra s
  refine .of_trim ?_
  rw [htrim, hbody]
  exact (hbehind.prepend hfront).append hera

end timestamp

end Literal

open Literal

variable {ctx : Context} {s : List Char}

theorem Date.asciiDigits_of_ofText {date : Date} (h : ofText ctx s = .ok date) : AsciiDigits s := by
  cases hinf : infinity? s with
  | some sign => exact asciiDigits_of_infinity? hinf
  | none =>
      obtain ⟨fields, rest, hread, hrest, -⟩ := (ofText_eq_ok_iff hinf).mp h
      obtain ⟨era, htrim, hera⟩ := takesAscii_splitEra s
      rw [← asciiDigits_trim_iff, htrim]
      exact asciiDigits_append_iff.mpr
        ⟨(takesAscii_of_readDate hread).asciiDigits (asciiDigits_of_isBlankText hrest), hera⟩

namespace TimeOfDay

variable {t : TimeOfDay}

theorem asciiUpToSixth_of_ofText (h : ofText s = .ok t) : AsciiUpToSixth s := by
  obtain ⟨micros, rest, hread, hrest, -⟩ := ofText_eq_ok_iff.mp h
  obtain ⟨front, htrim, hfront⟩ := exists_of_readTime hread
  exact .of_trim (htrim ▸ hfront.append (asciiDigits_of_isBlankText hrest))

theorem asciiUpToSixth_of_ofZonedText (hzones : ctx.zones = .builtin)
    (h : ofZonedText ctx s = .ok t) : AsciiUpToSixth s := by
  obtain ⟨micros, rest, zone, hread, hzone, -⟩ := ofZonedText_eq_ok_iff.mp h
  obtain ⟨front, htrim, hfront⟩ := exists_of_readTime hread
  exact .of_trim (htrim ▸ hfront.append (asciiDigits_of_zoneOf hzones hzone))

end TimeOfDay

namespace Timestamp

variable {t : Timestamp}

theorem asciiUpToSixth_of_ofText (h : ofText ctx s = .ok t) : AsciiUpToSixth s := by
  cases hinf : infinity? s with
  | some sign => exact .ascii (asciiDigits_of_infinity? hinf)
  | none =>
      obtain ⟨rest, hread, hrest⟩ := (ofText_eq_ok_iff hinf).mp h
      exact asciiUpToSixth_of_readTimestamp hread (asciiDigits_of_isBlankText hrest)

theorem asciiUpToSixth_of_ofZonedText (hzones : ctx.zones = .builtin)
    (h : ofZonedText ctx s = .ok t) : AsciiUpToSixth s := by
  cases hinf : infinity? s with
  | some sign => exact .ascii (asciiDigits_of_infinity? hinf)
  | none =>
      obtain ⟨wall, rest, zone, hread, hzone, -⟩ := (ofZonedText_eq_ok_iff hinf).mp h
      exact asciiUpToSixth_of_readTimestamp hread (asciiDigits_of_zoneOf hzones hzone)

end Timestamp

namespace Registry

/-- With the standard zones and any date order and session zone, a text that is read as a date or a
time has no digits of other scripts except behind the sixth digit of a fraction, and a date has
none at all. -/
theorem asciiUpToSixth_of_decodeText (r : Registry) {type : WireType} {s : List Char} {v : Value}
    (hzones : r.context.zones = .builtin) (htype : type.isTemporal)
    (h : r.decodeText type s = .ok v) :
    AsciiUpToSixth s ∧ (type = .date → AsciiDigits s) := by
  rw [decodeText, decode, Codec.decode_ofText] at h
  cases type with
  | date =>
      obtain ⟨d, hread, -⟩ := bind_pure_eq_ok_iff.mp h
      have hascii := Date.asciiDigits_of_ofText (lift_eq_ok_iff.mp hread)
      exact ⟨.ascii hascii, fun _ => hascii⟩
  | time =>
      obtain ⟨t, hread, -⟩ := bind_pure_eq_ok_iff.mp h
      exact ⟨TimeOfDay.asciiUpToSixth_of_ofText hread, nofun⟩
  | timetz =>
      obtain ⟨t, hread, -⟩ := bind_pure_eq_ok_iff.mp h
      exact ⟨TimeOfDay.asciiUpToSixth_of_ofZonedText hzones hread, nofun⟩
  | timestamp =>
      obtain ⟨t, hread, -⟩ := bind_pure_eq_ok_iff.mp h
      exact ⟨Timestamp.asciiUpToSixth_of_ofText hread, nofun⟩
  | timestamptz =>
      obtain ⟨t, hread, -⟩ := bind_pure_eq_ok_iff.mp h
      exact ⟨Timestamp.asciiUpToSixth_of_ofZonedText hzones hread, nofun⟩
  | int2 | int4 | int8 | numeric | float4 | float8 | bool | char | varchar => cases htype

/-- An Arabic digit behind the sixth digit of a fraction, before a meridiem and a region. -/
theorem asciiUpToSixth_of_decodeText_us_pacific :
    let r := standard .excerpt
    let s := "June 1, 2008 10:15:00.000001\u0664 PM us/pacific".toList
    let v := Value.timestampTz ⟨⟨2008, 6, 2, by decide⟩, ⟨18900, 2000, by decide, by decide⟩⟩
    r.context.zones = .builtin ∧ WireType.timestamptz.isTemporal ∧
      r.decodeText .timestamptz s = .ok v ∧ AsciiUpToSixth s := by
  intro r s v
  have hread : r.decodeText .timestamptz s = .ok v :=
    toOption_eq_some_iff.mp (by decide +kernel)
  exact ⟨rfl, rfl, hread, (r.asciiUpToSixth_of_decodeText rfl rfl hread).1⟩

/-- A digit that no number is read from rounds the microseconds up. -/
theorem decodeText_foreign_seventh_digit :
    let r := standard .excerpt
    let s := "10:00:00.123456\u0663".toList
    let v := Value.time ⟨36000, 123457000, by decide, by decide⟩
    r.context.zones = .builtin ∧ WireType.time.isTemporal ∧ ¬AsciiDigits s ∧
      r.decodeText .time s = .ok v := by
  intro r
  refine ⟨rfl, rfl, by decide, toOption_eq_some_iff.mp ?_⟩
  decide +kernel

end Registry

end ScalarWire
