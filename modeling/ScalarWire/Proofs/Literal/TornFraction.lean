import ScalarWire.Proofs.Literal.TimeFields

/-!
# Torn fractions

The digits of a fraction are cut after six bytes. A time whose fraction has a digit of several
bytes there cannot be read to an end, and this is the only time that cannot.
-/

namespace ScalarWire

theorem Utf8.length_encode_cons (c : Char) (s : List Char) :
    (encode (c :: s)).length = c.utf8Size + (encode s).length := by
  simp [encode]

/-- A cut cannot be made exactly where a character begins before it and ends behind it. -/
theorem Utf8.cut?_eq_none_iff {n : Nat} {s : List Char} :
    cut? n s = none ↔ ∃ kept c tail, s = kept ++ c :: tail ∧ (encode kept).length < n ∧
      n < (encode (kept ++ [c])).length := by
  induction s generalizing n with
  | nil =>
      refine ⟨fun h => ?_, fun ⟨kept, c, tail, h, _⟩ => absurd h (by simp)⟩
      cases n <;> exact nomatch h
  | cons c s ih =>
      cases n with
      | zero => exact ⟨fun h => (nomatch h), fun ⟨_, _, _, _, h, _⟩ => absurd h (by omega)⟩
      | succ n =>
          rw [cut?]
          split_ifs with hfits
          · rw [Option.map_eq_none_iff, ih]
            constructor
            · rintro ⟨kept, d, tail, rfl, hlow, hhigh⟩
              refine ⟨c :: kept, d, tail, rfl, ?_, ?_⟩
              · rw [length_encode_cons]
                omega
              · rw [List.cons_append, length_encode_cons]
                omega
            · rintro ⟨kept, d, tail, h, hlow, hhigh⟩
              cases kept with
              | nil =>
                  obtain ⟨rfl, rfl⟩ := List.cons.inj h
                  rw [List.nil_append, length_encode_cons] at hhigh
                  exact absurd hfits (by simpa [encode] using hhigh)
              | cons c' kept =>
                  obtain ⟨rfl, rfl⟩ := List.cons.inj h
                  rw [length_encode_cons] at hlow
                  rw [List.cons_append, length_encode_cons] at hhigh
                  exact ⟨kept, d, tail, rfl, by omega, by omega⟩
          · refine ⟨fun _ => ⟨[], c, s, rfl, Nat.succ_pos n, ?_⟩, fun _ => rfl⟩
            rw [List.nil_append, length_encode_cons]
            omega

namespace Literal

open Text

section

variable (outOfRange : CodecError)

theorem fractionMicros_eq_aborted_iff {digits : List Char} :
    fractionMicros outOfRange digits = .error .aborted ↔ Utf8.cut? 6 digits = none := by
  unfold fractionMicros
  cases hcut : Utf8.cut? 6 digits with
  | none => exact ⟨fun _ => rfl, fun _ => rfl⟩
  | some parts =>
      obtain ⟨kept, dropped⟩ := parts
      cases hread : Numeral.read? kept with
      | none =>
          simp only [hread]
          exact ⟨fun h => (nomatch h), fun h => (nomatch h)⟩
      | some n =>
          simp only [hread]
          exact ⟨fun h => (nomatch h), fun h => (nomatch h)⟩

theorem readField_ne_aborted (digits : List Char) :
    readField outOfRange digits ≠ .error .aborted := by
  unfold readField
  split
  · exact fun h => nomatch h
  · exact fun h => nomatch h

theorem readField_eq_ok_iff {digits : List Char} {n : Nat} :
    readField outOfRange digits = .ok n ↔ Numeral.read? digits = some n := by
  unfold readField
  cases Numeral.read? digits with
  | none => exact ⟨fun h => (nomatch h), fun h => (nomatch h)⟩
  | some m => exact ⟨fun h => congrArg some (Except.ok.inj h), fun h => h ▸ rfl⟩

theorem totalMicros_ne_aborted (hour minute second fraction : Nat)
    (meridiem? : Option Meridiem) :
    totalMicros outOfRange hour minute second fraction meridiem? ≠ .error .aborted := by
  unfold totalMicros
  split
  · exact fun h => nomatch h
  · simp only []
    split_ifs
    · exact fun h => nomatch h
    · exact fun h => nomatch h

/-- Only the fraction ends for good, and only once the fields before it have been read. -/
theorem TimeText.micros_eq_aborted_iff (t : TimeText) :
    t.micros outOfRange = .error .aborted ↔
      (∃ n, Numeral.read? t.hour = some n) ∧ (∃ n, Numeral.read? t.minute = some n) ∧
        (∀ digits ∈ t.second?, ∃ n, Numeral.read? digits = some n) ∧
          ∃ digits ∈ t.fraction?, Utf8.cut? 6 digits = none := by
  have hsecond : (∃ n, readOptional (readField outOfRange) t.second? = .ok n) ↔
      ∀ digits ∈ t.second?, ∃ n, Numeral.read? digits = some n := by
    cases t.second? with
    | none => exact ⟨fun _ digits h => (nomatch h), fun _ => ⟨0, rfl⟩⟩
    | some digits => simp [readOptional, readField_eq_ok_iff]
  have hsecond' : readOptional (readField outOfRange) t.second? ≠ .error .aborted := by
    cases t.second? with
    | none => exact fun h => nomatch h
    | some digits => exact readField_ne_aborted outOfRange digits
  have hfraction : readOptional (fractionMicros outOfRange) t.fraction? = .error .aborted ↔
      ∃ digits ∈ t.fraction?, Utf8.cut? 6 digits = none := by
    cases t.fraction? with
    | none => exact ⟨fun h => (nomatch h), fun ⟨digits, h, _⟩ => (nomatch h)⟩
    | some digits => simp [readOptional, fractionMicros_eq_aborted_iff]
  rw [TimeText.micros_eq, ← hsecond, ← hfraction]
  simp only [bind_eq_error_iff, readField_ne_aborted, readField_eq_ok_iff, hsecond', false_or,
    totalMicros_ne_aborted, and_false, exists_false, or_false]
  constructor
  · rintro ⟨h, hh, m, hm, s, hs, hf⟩
    exact ⟨⟨h, hh⟩, ⟨m, hm⟩, ⟨s, hs⟩, hf⟩
  · rintro ⟨⟨h, hh⟩, ⟨m, hm⟩, ⟨s, hs⟩, hf⟩
    exact ⟨h, hh, m, hm, s, hs, hf⟩

end

/-- Where a time has a fraction, its text is spelled out up to the end of that fraction. -/
theorem eq_of_timeText? {s : List Char} {t : TimeText} {digits : List Char}
    (h : timeText? s = some t) (hf : t.fraction? = some digits) :
    ∃ second mark tail, t.second? = some second ∧
      s = t.hour ++ ':' :: (t.minute ++ ':' :: (second ++ mark :: (digits ++ tail))) ∧
      t.hour.length ≤ 2 ∧ t.minute.length ≤ 2 ∧ second.length ≤ 2 ∧ (mark = '.' ∨ mark = ',') ∧
      ∀ c ∈ digits, isDecimalDigit c := by
  obtain ⟨hhour, hminute, seconds, meridiem, rfl, hseconds, -⟩ := spells_of_timeText? h
  generalize hsecond : t.second? = second? at hseconds
  rw [hf] at hseconds
  cases hseconds with
  | @pointed second _ mark hpair hmark _ hdigits =>
      exact ⟨second, mark, meridiem ++ t.rest, rfl, by simp, hhour.2.1, hminute.2.1, hpair.2.1,
        hmark, hdigits⟩

/-- One or two ASCII digits. -/
def IsClockField (digits : List Char) : Prop :=
  digits ≠ [] ∧ digits.length ≤ 2 ∧ ∀ c ∈ digits, c.isDigit

theorem IsClockField.isDigitPair {digits : List Char} (h : IsClockField digits) :
    IsDigitPair digits :=
  ⟨h.1, h.2.1, fun c hc => isDecimalDigit_of_isDigit (h.2.2 c hc)⟩

theorem exists_read?_iff {digits : List Char} :
    (∃ n, Numeral.read? digits = some n) ↔ digits ≠ [] ∧ ∀ c ∈ digits, c.isDigit := by
  simp [Numeral.read?_eq_some_iff]

theorem splitDigits_field {digits : List Char} (h : IsClockField digits) {c : Char}
    (hc : isDecimalDigit c = false) (rest : List Char) :
    splitDigits 2 (digits ++ c :: rest) = (digits, c :: rest) :=
  splitDigits_pair h.isDigitPair (endsDigits_cons hc)

/-- The fields of a time that goes on behind its seconds with the mark of a fraction. -/
theorem exists_timeText?_eq {hour minute second s digits rest : List Char} {mark : Char}
    (hhour : IsClockField hour) (hminute : IsClockField minute) (hsecond : IsClockField second)
    (hmark : mark = '.' ∨ mark = ',') (hs : splitFraction? (mark :: s) = some (digits, rest)) :
    ∃ meridiem? rest', timeText? (hour ++ ':' :: (minute ++ ':' :: (second ++ mark :: s))) =
      some ⟨hour, minute, some second, some digits, meridiem?, rest'⟩ := by
  have hcolon : isDecimalDigit ':' = false := by decide
  have hmark' : isDecimalDigit mark = false := by
    rcases hmark with rfl | rfl <;> decide
  have hsecond' : splitSecond? (':' :: (second ++ mark :: s)) = some (second, mark :: s) :=
    splitSecond?_pair hsecond.isDigitPair (endsDigits_cons hmark')
  have hne : ¬(hour = [] ∨ minute = []) := not_or.mpr ⟨hhour.1, hminute.1⟩
  simp only [timeText?, splitDigits_field hhour hcolon, splitDigits_field hminute hcolon,
    if_neg hne, splitOptional_of_some hsecond', Option.isSome_some, if_true,
    splitOptional_of_some hs]
  exact ⟨_, _, rfl⟩

/-- A time in ASCII digits whose fraction has a digit across the end of its first six bytes. -/
def TornFraction (s : List Char) : Prop :=
  ∃ hour minute second mark kept c tail,
    s = hour ++ ':' :: (minute ++ ':' :: (second ++ mark :: (kept ++ c :: tail))) ∧
      IsClockField hour ∧ IsClockField minute ∧ IsClockField second ∧ (mark = '.' ∨ mark = ',') ∧
      (∀ d ∈ kept, isDecimalDigit d) ∧ isDecimalDigit c ∧
      (Utf8.encode kept).length < 6 ∧ 6 < (Utf8.encode (kept ++ [c])).length

/-- Reading a time ends for good exactly at a torn fraction. -/
theorem readTime_eq_aborted_iff {type : WireType} {s : List Char} :
    readTime type s = .error .aborted ↔ TornFraction s := by
  constructor
  · intro h
    unfold readTime at h
    split at h
    · cases h
    · next t ht =>
        obtain ⟨hhour, hminute, hsecond, digits, hf, hcut⟩ :=
          (t.micros_eq_aborted_iff _).mp ((bind_eq_error_iff.mp h).resolve_right
            fun ⟨_, _, hpure⟩ => nomatch hpure)
        obtain ⟨second, mark, tail, hsecond', rfl, hhour', hminute', hsecond_le, hmark, hdigits⟩ :=
          eq_of_timeText? ht hf
        obtain ⟨kept, c, dropped, rfl, hlow, hhigh⟩ := Utf8.cut?_eq_none_iff.mp hcut
        rw [exists_read?_iff] at hhour hminute
        have hread := exists_read?_iff.mp (hsecond second hsecond')
        rw [List.append_assoc, List.cons_append]
        exact ⟨t.hour, t.minute, second, mark, kept, c, dropped ++ tail, rfl,
          ⟨hhour.1, hhour', hhour.2⟩, ⟨hminute.1, hminute', hminute.2⟩,
          ⟨hread.1, hsecond_le, hread.2⟩, hmark,
          fun d hd => hdigits d (List.mem_append_left _ hd),
          hdigits c (List.mem_append_right _ List.mem_cons_self), hlow, hhigh⟩
  · rintro ⟨hour, minute, second, mark, kept, c, tail, rfl, hhour, hminute, hsecond, hmark, hkept,
      hc, hlow, hhigh⟩
    have hrun : (kept ++ c :: tail).takeWhile isDecimalDigit =
        kept ++ c :: tail.takeWhile isDecimalDigit := by
      rw [List.takeWhile_append_of_pos hkept, List.takeWhile_cons_of_pos hc]
    have hfraction : splitFraction? (mark :: (kept ++ c :: tail)) =
        some (kept ++ c :: tail.takeWhile isDecimalDigit,
          (kept ++ c :: tail).dropWhile isDecimalDigit) := by
      simp only [splitFraction?, splitDigitRun, hrun]
      exact if_pos ⟨hmark, by simp⟩
    obtain ⟨meridiem?, rest, ht⟩ := exists_timeText?_eq hhour hminute hsecond hmark hfraction
    have hcut : Utf8.cut? 6 (kept ++ c :: tail.takeWhile isDecimalDigit) = none :=
      Utf8.cut?_eq_none_iff.mpr ⟨kept, c, _, rfl, hlow, hhigh⟩
    simp only [readTime, ht]
    refine bind_eq_error_iff.mpr (Or.inl ((TimeText.micros_eq_aborted_iff _ _).mpr
      ⟨exists_read?_iff.mpr ⟨hhour.1, hhour.2.2⟩, exists_read?_iff.mpr ⟨hminute.1, hminute.2.2⟩,
        ?_, _, rfl, hcut⟩))
    intro digits hdigits
    cases hdigits
    exact exists_read?_iff.mpr ⟨hsecond.1, hsecond.2.2⟩

end Literal

end ScalarWire
