import ScalarWire.Proofs.Literal.DatePrefix
import ScalarWire.Proofs.Literal.Time

/-!
# Times in front of other text

A time that makes up a text but for blanks is read off its front in the same way if more stands
behind it, as long as what stands there starts with a blank and is not taken for a meridiem.
-/

namespace ScalarWire.Literal

open Text

variable {s w : List Char}

section parts

variable (s) (hw : StartsBlank w)

include hw

theorem splitSecond?_append_blank :
    splitSecond? (s ++ w) = (splitSecond? s).map fun (digits, rest) => (digits, rest ++ w) := by
  cases s with
  | nil =>
      cases w with
      | nil => rfl
      | cons c w =>
          have hcolon : c ≠ ':' := hw.ne_of_head (by decide)
          simp [splitSecond?, hcolon]
  | cons c s =>
      by_cases hcolon : c = ':'
      · rw [hcolon, List.cons_append]
        simp only [splitSecond?, splitDigits_append_ends s hw.not_decimalDigit]
        split_ifs <;> rfl
      · simp [splitSecond?, hcolon]

theorem splitFraction?_append_blank :
    splitFraction? (s ++ w) = (splitFraction? s).map fun (digits, rest) => (digits, rest ++ w) := by
  cases s with
  | nil =>
      cases w with
      | nil => rfl
      | cons c w =>
          exact splitFraction?_cons (hw.ne_of_head (by decide)) (hw.ne_of_head (by decide))
  | cons c s =>
      simp only [List.cons_append, splitFraction?, splitDigitRun_append_ends s hw.not_decimalDigit]
      split_ifs <;> rfl

end parts

/-- A part that is found or missed whatever stands behind is taken off or left out alike. -/
theorem splitOptional_append {α : Type} {split? : List Char → Option (α × List Char)}
    (h : split? (s ++ w) = (split? s).map fun (part, rest) => (part, rest ++ w)) :
    splitOptional split? (s ++ w) =
      ((splitOptional split? s).1, (splitOptional split? s).2 ++ w) := by
  simp only [splitOptional, h]
  cases split? s <;> rfl

theorem splitMeridiem?_append (hw : StartsBlank w) {meridiem : Meridiem} {rest : List Char}
    (h : splitMeridiem? s = some (meridiem, rest)) :
    splitMeridiem? (s ++ w) = some (meridiem, rest ++ w) := by
  rw [splitMeridiem?_eq] at h
  obtain ⟨found, hword, h⟩ := Option.bind_eq_some_iff.mp h
  have hlen : 2 ≤ (trimStart s).length := by
    have hlower : (lower ((trimStart s).take 2)).length = 2 := by
      rcases lower_of_meridiemOf? hword with heq | heq <;> rw [heq] <;> rfl
    rw [lower, List.length_map, List.length_take] at hlower
    omega
  have hstart : trimStart (s ++ w) = trimStart s ++ w :=
    trimStart_append (List.ne_nil_of_length_pos (by omega))
  rw [splitMeridiem?_eq, hstart, List.take_append_of_le_length hlen,
    List.drop_append_of_le_length hlen, hword, Option.bind_some, hw.endsWord_append]
  split_ifs at h ⊢ with hend
  obtain ⟨rfl, rfl⟩ := Prod.mk.inj (Option.some.inj h)
  rfl

theorem splitMeridiem?_of_blank (hs : isBlankText s) :
    splitMeridiem? (s ++ w) = splitMeridiem? w := by
  rw [splitMeridiem?_eq, splitMeridiem?_eq, trimStart_append_of_blank hs]

theorem splitOptional_splitMeridiem?_append (hw : StartsBlank w)
    (hmeridiem : splitMeridiem? w = none)
    (hrest : isBlankText (splitOptional splitMeridiem? s).2) :
    splitOptional splitMeridiem? (s ++ w) =
      ((splitOptional splitMeridiem? s).1, (splitOptional splitMeridiem? s).2 ++ w) := by
  cases hs : splitMeridiem? s with
  | some found =>
      rw [splitOptional_of_some hs, splitOptional_of_some (splitMeridiem?_append hw hs)]
  | none =>
      rw [splitOptional_of_none hs] at hrest ⊢
      exact splitOptional_of_none ((splitMeridiem?_of_blank hrest).trans hmeridiem)

/-- The time with more text behind it. -/
def TimeText.append (t : TimeText) (w : List Char) : TimeText :=
  { t with rest := t.rest ++ w }

theorem timeText?_append (hw : StartsBlank w) (hmeridiem : splitMeridiem? w = none) {t : TimeText}
    (h : timeText? s = some t) (hrest : isBlankText t.rest) :
    timeText? (s ++ w) = some (t.append w) := by
  simp only [timeText?, splitDigits_append_ends s hw.not_decimalDigit] at h ⊢
  generalize splitDigits 2 s = found at h ⊢
  obtain ⟨hour, behind⟩ := found
  cases behind with
  | nil => cases h
  | cons c behind =>
      by_cases hcolon : c = ':'
      · subst hcolon
        simp only [List.cons_append, splitDigits_append_ends behind hw.not_decimalDigit] at h ⊢
        generalize splitDigits 2 behind = found at h ⊢
        obtain ⟨minute, behind⟩ := found
        by_cases hne : hour = [] ∨ minute = []
        · rw [if_pos hne] at h
          cases h
        rw [if_neg hne] at h ⊢
        simp only [splitOptional_append (splitSecond?_append_blank behind hw)]
        generalize splitOptional splitSecond? behind = found at h ⊢
        obtain ⟨second?, behind⟩ := found
        have hfraction :
            (if second?.isSome then splitOptional splitFraction? (behind ++ w)
              else (none, behind ++ w)) =
            ((if second?.isSome then splitOptional splitFraction? behind else (none, behind)).1,
              (if second?.isSome then splitOptional splitFraction? behind
                else (none, behind)).2 ++ w) := by
          split_ifs
          · exact splitOptional_append (splitFraction?_append_blank behind hw)
          · rfl
        simp only [hfraction]
        generalize (if second?.isSome then splitOptional splitFraction? behind
          else (none, behind)) = found at h ⊢
        obtain ⟨fraction?, behind⟩ := found
        cases h
        rw [splitOptional_splitMeridiem?_append hw hmeridiem hrest]
        rfl
      · simp [hcolon] at h

section micros

variable {e e' : CodecError}

theorem readField_of_ok {digits : List Char} {n : Nat} (h : readField e digits = .ok n) :
    readField e' digits = .ok n := by
  unfold readField at h ⊢
  cases hread : Numeral.read? digits with
  | none =>
      rw [hread] at h
      exact nomatch h
  | some m =>
      rw [hread] at h
      exact h

theorem fractionMicros_of_ok {digits : List Char} {n : Nat}
    (h : fractionMicros e digits = .ok n) : fractionMicros e' digits = .ok n := by
  unfold fractionMicros at h ⊢
  cases hcut : Utf8.cut? 6 digits with
  | none =>
      rw [hcut] at h
      exact nomatch h
  | some parts =>
      obtain ⟨kept, dropped⟩ := parts
      simp only [hcut] at h ⊢
      cases hread : Numeral.read? kept with
      | none =>
          rw [hread] at h
          exact nomatch h
      | some m =>
          rw [hread] at h
          exact h

theorem readOptional_of_ok {read read' : List Char → Except Failure Nat}
    (hread : ∀ digits n, read digits = .ok n → read' digits = .ok n) {part : Option (List Char)}
    {n : Nat} (h : readOptional read part = .ok n) : readOptional read' part = .ok n := by
  cases part with
  | none => exact h
  | some digits => exact hread digits n h

theorem totalMicros_of_ok {hour minute second fraction n : Nat} {meridiem? : Option Meridiem}
    (h : totalMicros e hour minute second fraction meridiem? = .ok n) :
    totalMicros e' hour minute second fraction meridiem? = .ok n := by
  unfold totalMicros at h ⊢
  cases hhour : clockHour? hour meridiem? with
  | none =>
      rw [hhour] at h
      exact nomatch h
  | some hour =>
      simp only [hhour] at h ⊢
      split_ifs at h ⊢ with hlimits
      exact h

/-- The fields alone decide on the microseconds; the error is only what is reported without them. -/
theorem TimeText.micros_of_ok {t : TimeText} {n : Nat} (h : t.micros e = .ok n) :
    t.micros e' = .ok n := by
  rw [micros_eq] at h ⊢
  simp only [bind_eq_ok_iff] at h ⊢
  obtain ⟨hour, hhour, minute, hminute, second, hsecond, fraction, hfraction, htotal⟩ := h
  exact ⟨hour, readField_of_ok hhour, minute, readField_of_ok hminute, second,
    readOptional_of_ok (fun _ _ => readField_of_ok) hsecond, fraction,
    readOptional_of_ok (fun _ _ => fractionMicros_of_ok) hfraction, totalMicros_of_ok htotal⟩

end micros

theorem readTime_eq_ok_iff {type : WireType} {total : Nat} {rest : List Char} :
    readTime type s = .ok (total, rest) ↔ ∃ t, timeText? s = some t ∧
      t.micros (.outOfRange type (String.ofList (consumed s t.rest))) = .ok total ∧
        t.rest = rest := by
  unfold readTime
  cases timeText? s with
  | none => exact ⟨fun h => (nomatch h), fun ⟨_, h, _⟩ => (nomatch h)⟩
  | some t =>
      simp only [bind_eq_ok_iff, pure_eq_ok_iff, Option.some.injEq, Prod.mk.injEq]
      constructor
      · rintro ⟨_, hmicros, rfl, hrest⟩
        exact ⟨t, rfl, hmicros, hrest⟩
      · rintro ⟨_, rfl, hmicros, hrest⟩
        exact ⟨total, hmicros, rfl, hrest⟩

/-- A time that leaves nothing but blanks is read off the front of a text whatever type asks for
it, also with more text behind. -/
theorem readTime_append (hw : StartsBlank w) (hmeridiem : splitMeridiem? w = none)
    {type : WireType} (type' : WireType) {total : Nat} {rest : List Char}
    (h : readTime type s = .ok (total, rest)) (hrest : isBlankText rest) :
    readTime type' (s ++ w) = .ok (total, rest ++ w) := by
  obtain ⟨t, ht, hmicros, rfl⟩ := readTime_eq_ok_iff.mp h
  exact readTime_eq_ok_iff.mpr
    ⟨t.append w, timeText?_append hw hmeridiem ht hrest, TimeText.micros_of_ok hmicros, rfl⟩

end ScalarWire.Literal
