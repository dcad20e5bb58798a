import ScalarWire.Proofs.Literal.Reading
import ScalarWire.Proofs.Literal.TimePrefix
import ScalarWire.Proofs.Number.LetterCase
import ScalarWire.Proofs.Text.Fold
import ScalarWire.Proofs.Zone.Token

/-!
# Dates and times in any letter case

In lower case a text has the same digits, signs and blanks at the same places, and its words name
the same months, ordinals and meridiems. So a date or a time takes as much off its front, and what
is taken off has the same fields.
-/

namespace ScalarWire.Literal

open Text

/-- A decimal digit is no letter of ASCII, so it has no case. -/
theorem lower_of_isDecimalDigit {s : List Char} (h : ∀ c ∈ s, isDecimalDigit c) : lower s = s := by
  apply lower_eq_self
  intro c hc
  rcases toNat_of_isDecimalDigit (h c hc) with hlt | hge
  · exact toLower_of_lt hlt
  · exact toLower_of_ge hge

section fields

variable (s : List Char)

theorem splitDigitRun_lower :
    splitDigitRun (lower s) = ((splitDigitRun s).1, lower (splitDigitRun s).2) := by
  rw [splitDigitRun, takeWhile_lower s isDecimalDigit_toLower,
    dropWhile_lower s isDecimalDigit_toLower,
    lower_of_isDecimalDigit fun c hc => List.mem_takeWhile_imp hc]
  rfl

theorem splitDigits_lower (n : Nat) :
    splitDigits n (lower s) = ((splitDigits n s).1, lower (splitDigits n s).2) := by
  have hdigits : ((lower s).take n).takeWhile isDecimalDigit =
      (s.take n).takeWhile isDecimalDigit := by
    rw [lower_take, takeWhile_lower _ isDecimalDigit_toLower]
    exact lower_of_isDecimalDigit fun c hc => List.mem_takeWhile_imp hc
  simp only [splitDigits, hdigits, lower_drop]

end fields

theorem isSeparator_toLower (c : Char) : isSeparator c.toLower = isSeparator c :=
  apply_toLower isSeparator (by decide) c

/-- Separators have no case. -/
theorem toLower_of_isSeparator {c : Char} (h : isSeparator c) : c.toLower = c := by
  simp only [isSeparator, Bool.or_eq_true, beq_iff_eq] at h
  rcases h with (rfl | rfl) | rfl <;> rfl

/-- A separator stands again in any letter case if it stands again. -/
theorem isSeparator_and_toLower_eq_iff {c d : Char} :
    isSeparator c.toLower ∧ d.toLower = c.toLower ↔ isSeparator c ∧ d = c := by
  rw [isSeparator_toLower]
  refine and_congr_right fun hc => ?_
  rw [toLower_of_isSeparator hc]
  simp only [isSeparator, Bool.or_eq_true, beq_iff_eq] at hc
  rcases hc with (rfl | rfl) | rfl <;> exact toLower_eq_iff (by decide)

/-- The same fields with what follows them in lower case. -/
def NumericDate.lower (d : NumericDate) : NumericDate :=
  { d with rest := Text.lower d.rest }

def NamedDate.lower (d : NamedDate) : NamedDate :=
  { d with name := Text.lower d.name, rest := Text.lower d.rest }

section numeric

variable (s : List Char)

theorem yearFirst?_lower : yearFirst? (lower s) = (yearFirst? s).map NumericDate.lower := by
  simp only [yearFirst?, splitDigitRun_lower]
  obtain ⟨year, s⟩ := splitDigitRun s
  cases s with
  | nil => rfl
  | cons sep s =>
      simp only [lower_cons, splitDigits_lower]
      obtain ⟨month, s⟩ := splitDigits 2 s
      cases s with
      | nil => rfl
      | cons sep' s =>
          have hsep := isSeparator_and_toLower_eq_iff (c := sep) (d := sep')
          simp only [lower_cons, splitDigits_lower]
          grind [NumericDate.lower]

theorem yearLast?_lower : yearLast? (lower s) = (yearLast? s).map NumericDate.lower := by
  simp only [yearLast?, splitDigits_lower]
  obtain ⟨first, s⟩ := splitDigits 2 s
  cases s with
  | nil => rfl
  | cons sep s =>
      simp only [lower_cons, splitDigits_lower]
      obtain ⟨second, s⟩ := splitDigits 2 s
      cases s with
      | nil => rfl
      | cons sep' s =>
          have hsep := isSeparator_and_toLower_eq_iff (c := sep) (d := sep')
          simp only [lower_cons, splitDigitRun_lower, endsWord_lower]
          grind [NumericDate.lower]

end numeric

section named

variable (s : List Char)

theorem splitName?_lower :
    splitName? (lower s) = (splitName? s).map fun (name, rest) => (lower name, lower rest) := by
  simp only [splitName?, takeWhile_lower s foldsToLetter_toLower,
    dropWhile_lower s foldsToLetter_toLower, length_lower]
  split_ifs
  · rcases s.dropWhile foldsToLetter with - | ⟨c, behind⟩
    · rfl
    · by_cases hstop : c = '.'
      · subst hstop
        rfl
      · have hstop' : c.toLower ≠ '.' := mt (toLower_eq_iff (by decide)).mp hstop
        simp [lower_cons, hstop, hstop']
  · rfl

theorem dropOrdinal_lower : dropOrdinal (lower s) = lower (dropOrdinal s) := by
  have hfold : ((lower s).take 2).map foldLetter = (s.take 2).map foldLetter := by
    rw [lower_take, lower, List.map_map]
    exact List.map_congr_left fun c _ => foldLetter_toLower c
  rw [dropOrdinal, dropOrdinal, hfold, lower_drop, apply_ite lower]

theorem dropComma_lower : dropComma (lower s) = lower (dropComma s) := by
  cases s with
  | nil => rfl
  | cons c s =>
      by_cases hcomma : c = ','
      · subst hcomma
        rfl
      · have hcomma' : c.toLower ≠ ',' := mt (toLower_eq_iff (by decide)).mp hcomma
        simp [lower_cons, dropComma, hcomma, hcomma']

theorem monthFirst?_lower : monthFirst? (lower s) = (monthFirst? s).map NamedDate.lower := by
  simp only [monthFirst?, splitName?_lower]
  cases splitName? s with
  | none => rfl
  | some found =>
      obtain ⟨name, rest⟩ := found
      simp only [Option.map_some, Option.bind_some, trimStart_lower, splitDigitRun_lower,
        dropOrdinal_lower, dropComma_lower]
      split_ifs <;> rfl

theorem dropGap?_lower (commas : Bool) :
    dropGap? commas (lower s) = (dropGap? commas s).map lower := by
  let inGap (c : Char) : Bool := isBlank c || c == '-' || commas && c == ','
  have hgap : ∀ c : Char, inGap c.toLower = inGap c := by
    intro c
    simp only [inGap, isBlank_toLower, toLower_beq (d := '-') (by decide),
      toLower_beq (d := ',') (by decide)]
  have htake : (lower s).takeWhile inGap = lower (s.takeWhile inGap) := takeWhile_lower s hgap
  have hdrop : (lower s).dropWhile inGap = lower (s.dropWhile inGap) := dropWhile_lower s hgap
  change (if ((lower s).takeWhile inGap).isEmpty then none else some ((lower s).dropWhile inGap)) =
    (if (s.takeWhile inGap).isEmpty then none else some (s.dropWhile inGap)).map lower
  simp only [htake, hdrop, List.isEmpty_iff, lower_eq_nil_iff]
  split_ifs <;> rfl

theorem dayFirst?_lower : dayFirst? (lower s) = (dayFirst? s).map NamedDate.lower := by
  simp only [dayFirst?, splitDigits_lower, dropGap?_lower]
  split_ifs
  · rfl
  · cases dropGap? false (splitDigits 2 s).2 with
    | none => rfl
    | some behind =>
        simp only [Option.map_some, Option.bind_eq_bind, Option.bind_some, splitName?_lower]
        cases splitName? behind with
        | none => rfl
        | some found =>
            obtain ⟨name, rest⟩ := found
            simp only [Option.map_some, Option.bind_some, dropGap?_lower]
            cases dropGap? true rest with
            | none => rfl
            | some year =>
                simp only [Option.map_some, Option.bind_some, splitDigitRun_lower]
                split_ifs <;> rfl

theorem monthOfName?_lower : monthOfName? (lower s) = monthOfName? s := by
  rw [monthOfName?, length_lower, lower_lower, monthOfName?]

theorem named?_lower (date : Option NamedDate) :
    named? (date.map NamedDate.lower) =
      (named? date).map fun (d, month) => (d.lower, month) := by
  cases date with
  | none => rfl
  | some d =>
      simp only [named?, Option.map_some, Option.bind_some, NamedDate.lower, monthOfName?_lower,
        Option.map_map]
      rfl

end named

section readDate

variable (order : DateOrder) (s : List Char)

/-- In lower case the same spelling fits and takes off the same fields. -/
theorem spelling?_lower :
    spelling? order (lower s) =
      (spelling? order s).map fun (rest, fields) => (lower rest, fields) := by
  simp only [spelling?, yearFirst?_lower, yearLast?_lower, monthFirst?_lower, dayFirst?_lower,
    named?_lower]
  cases yearFirst? s with
  | some d => rfl
  | none =>
      cases yearLast? s with
      | some d => rfl
      | none =>
          cases named? (monthFirst? s) with
          | some found => rfl
          | none =>
              cases named? (dayFirst? s) with
              | some found => rfl
              | none => rfl

theorem readDate_lower {type : WireType} {fields : DateFields} {rest' : List Char} :
    readDate type order (lower s) = .ok (fields, rest') ↔
      ∃ rest, readDate type order s = .ok (fields, rest) ∧ lower rest = rest' := by
  simp only [readDate_eq_ok_iff, spelling?_lower, Option.map_eq_some_iff, Prod.exists,
    Prod.mk.injEq]
  constructor
  · rintro ⟨rest, found, h, hrest, rfl⟩
    exact ⟨rest, h, hrest⟩
  · rintro ⟨rest, h, hrest⟩
    exact ⟨rest, _, h, hrest, rfl⟩

end readDate

section time

variable (s : List Char)

theorem splitSecond?_lower :
    splitSecond? (lower s) = (splitSecond? s).map fun (digits, rest) => (digits, lower rest) := by
  cases s with
  | nil => rfl
  | cons c s =>
      by_cases hcolon : c = ':'
      · subst hcolon
        have hlower : lower (':' :: s) = ':' :: lower s := rfl
        simp only [hlower, splitSecond?, splitDigits_lower]
        split_ifs <;> rfl
      · have hcolon' : c.toLower ≠ ':' := mt (toLower_eq_iff (by decide)).mp hcolon
        simp [lower_cons, splitSecond?, hcolon, hcolon']

theorem splitFraction?_lower :
    splitFraction? (lower s) =
      (splitFraction? s).map fun (digits, rest) => (digits, lower rest) := by
  cases s with
  | nil => rfl
  | cons c s =>
      simp only [lower_cons, splitFraction?, splitDigitRun_lower,
        toLower_eq_iff (d := '.') (by decide), toLower_eq_iff (d := ',') (by decide)]
      split_ifs <;> rfl

theorem splitMeridiem?_lower :
    splitMeridiem? (lower s) =
      (splitMeridiem? s).map fun (meridiem, rest) => (meridiem, lower rest) := by
  simp only [splitMeridiem?_eq, trimStart_lower, lower_take, lower_drop, meridiemOf?_lower,
    endsWord_lower]
  cases meridiemOf? ((trimStart s).take 2) with
  | none => rfl
  | some meridiem =>
      simp only [Option.bind_some]
      split_ifs <;> rfl

variable {s}

theorem splitOptional_lower {α : Type} {split? : List Char → Option (α × List Char)}
    (h : split? (lower s) = (split? s).map fun (part, rest) => (part, lower rest)) :
    splitOptional split? (lower s) =
      ((splitOptional split? s).1, lower (splitOptional split? s).2) := by
  rw [splitOptional, h, splitOptional]
  cases split? s <;> rfl

variable (s)

def TimeText.lower (t : TimeText) : TimeText :=
  { t with rest := Text.lower t.rest }

theorem timeText?_lower : timeText? (lower s) = (timeText? s).map TimeText.lower := by
  simp only [timeText?, splitDigits_lower]
  obtain ⟨hour, behind⟩ := splitDigits 2 s
  cases behind with
  | nil => rfl
  | cons c behind =>
      by_cases hcolon : c = ':'
      · subst hcolon
        have hfraction : ∀ (second? : Option (List Char)) (t : List Char),
            (if second?.isSome then splitOptional splitFraction? (lower t) else (none, lower t)) =
              let found := if second?.isSome then splitOptional splitFraction? t else (none, t)
              (found.1, lower found.2) := by
          intro second? t
          split_ifs
          · exact splitOptional_lower (splitFraction?_lower t)
          · rfl
        have hlower : lower (':' :: behind) = ':' :: lower behind := rfl
        simp only [hlower, splitDigits_lower, splitOptional_lower (splitSecond?_lower _),
          hfraction, splitOptional_lower (splitMeridiem?_lower _)]
        split_ifs <;> rfl
      · have hcolon' : c.toLower ≠ ':' := mt (toLower_eq_iff (by decide)).mp hcolon
        simp [lower_cons, hcolon, hcolon']

theorem readTime_lower {type : WireType} {total : Nat} {rest' : List Char} :
    readTime type (lower s) = .ok (total, rest') ↔
      ∃ rest, readTime type s = .ok (total, rest) ∧ lower rest = rest' := by
  simp only [readTime_eq_ok_iff, timeText?_lower, Option.map_eq_some_iff]
  constructor
  · rintro ⟨_, ⟨t, ht, rfl⟩, hmicros, hrest⟩
    exact ⟨t.rest, ⟨t, ht, TimeText.micros_of_ok hmicros, rfl⟩, hrest⟩
  · rintro ⟨_, ⟨t, ht, hmicros, rfl⟩, hrest⟩
    exact ⟨t.lower, ⟨t, ht, rfl⟩, TimeText.micros_of_ok hmicros, hrest⟩

end time

section timestamp

variable (s : List Char)

theorem dropJoint_lower : dropJoint (lower s) = lower (dropJoint s) := by
  have hletter : ∀ c : Char, (c.toLower = 'T' ∨ c.toLower = 't') ↔ (c = 'T' ∨ c = 't') :=
    fun c => decide_eq_decide.mp
      (apply_toLower (fun c => decide (c = 'T' ∨ c = 't')) (by decide) c)
  unfold dropJoint
  rw [trimStart_lower]
  cases trimStart s with
  | nil => rfl
  | cons c time =>
      simp only [lower_cons, startsWithDigit_lower, hletter]
      split_ifs <;> rfl

theorem readClock_lower {type : WireType} {micros : Nat} {rest' : List Char} :
    readClock type (lower s) = .ok (micros, rest') ↔
      ∃ rest, readClock type s = .ok (micros, rest) ∧ lower rest = rest' := by
  unfold readClock
  rw [startsWithDigit_lower]
  split_ifs
  · exact readTime_lower s
  · simp only [pure_eq_ok_iff, Prod.mk.injEq]
    constructor
    · rintro ⟨rfl, rfl⟩
      exact ⟨s, ⟨rfl, rfl⟩, rfl⟩
    · rintro ⟨_, ⟨rfl, rfl⟩, rfl⟩
      exact ⟨rfl, rfl⟩

/-- In lower case a date with a time behind it is the same timestamp, and as much is left over. The
whole input is only what an error reports. -/
theorem readTimestamp_lower {ctx : Context} {type : WireType} (input input' body : List Char)
    {bc : Bool} {t : Timestamp} {rest' : List Char} :
    readTimestamp ctx type input' (lower body) bc = .ok (t, rest') ↔
      ∃ rest, readTimestamp ctx type input body bc = .ok (t, rest) ∧ lower rest = rest' := by
  simp only [readTimestamp_eq_ok_iff]
  constructor
  · rintro ⟨fields, _, date, micros, hdate, hday, hclock, hmove⟩
    obtain ⟨behind, hdate', rfl⟩ := (readDate_lower _ _).mp hdate
    rw [dropJoint_lower] at hclock
    obtain ⟨rest, hclock', hrest⟩ := (readClock_lower _).mp hclock
    exact ⟨rest, ⟨fields, behind, date, micros, hdate', hday, hclock', hmove⟩, hrest⟩
  · rintro ⟨rest, ⟨fields, behind, date, micros, hdate, hday, hclock, hmove⟩, hrest⟩
    refine ⟨fields, lower behind, date, micros, (readDate_lower _ _).mpr ⟨behind, hdate, rfl⟩,
      hday, ?_, hmove⟩
    rw [dropJoint_lower]
    exact (readClock_lower _).mpr ⟨rest, hclock, hrest⟩

end timestamp

end ScalarWire.Literal
