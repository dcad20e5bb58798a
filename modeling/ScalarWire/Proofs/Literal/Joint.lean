import ScalarWire.Proofs.Literal.TimeSuffix
import ScalarWire.Proofs.Literal.TornFraction
import ScalarWire.Proofs.Literal.ZonedShift
import ScalarWire.Zone.Excerpt

/-!
# Timestamps as a date and a time with a joint between them

A date and a time with blanks between them, or with a `T`, are read as the time on the day of that
date. There is one exception: a year that comes last has to end its word, so a `T` right behind it
keeps the date from being read at all.
-/

namespace ScalarWire

open Text

namespace Literal

variable {s rest w : List Char}

/-- Nothing blank is left at the end of a text that does not end in a blank. -/
theorem eq_nil_of_isBlankText {front : List Char} (hlast : ∀ c ∈ s.getLast?, isBlank c = false)
    (hs : s = front ++ rest) (hrest : isBlankText rest) : rest = [] := by
  by_contra hne
  have hmem : rest.getLast hne ∈ s.getLast? := by
    rw [hs, List.getLast?_append_of_ne_nil _ hne, List.getLast?_eq_some_getLast hne]
    rfl
  have hblank := List.all_eq_true.mp hrest _ (List.getLast_mem hne)
  exact Bool.false_ne_true ((hlast _ hmem).symm.trans hblank)

/-! ### Dates whose year comes last -/

section yearLast

variable {d : NumericDate}

theorem isDecimalDigit_of_isSeparator {c : Char} (h : isSeparator c) :
    isDecimalDigit c = false := by
  simp only [isSeparator, Bool.or_eq_true, beq_iff_eq] at h
  rcases h with (rfl | rfl) | rfl <;> decide

theorem endsDigits_sep {sep : Char} (hsep : isSeparator sep) (rest : List Char) :
    EndsDigits (sep :: rest) :=
  endsDigits_cons (isDecimalDigit_of_isSeparator hsep)

section digitPair

variable {digits : List Char} {sep : Char} (h : IsDigitPair digits) (hsep : isSeparator sep)
  (rest : List Char)

include h hsep

theorem IsDigitPair.splitDigits_sep :
    splitDigits 2 (digits ++ sep :: rest) = (digits, sep :: rest) :=
  splitDigits_pair h (endsDigits_sep hsep rest)

theorem IsDigitPair.splitDigitRun_sep :
    splitDigitRun (digits ++ sep :: rest) = (digits, sep :: rest) :=
  splitDigitRun_append h.2.2 (endsDigits_sep hsep rest)

/-- Two digits and a separator are too few for a year that comes first. -/
theorem IsDigitPair.yearFirst?_eq_none : yearFirst? (digits ++ sep :: rest) = none := by
  have hlen := h.2.1
  simp only [yearFirst?, h.splitDigitRun_sep hsep]
  split
  · exact if_neg fun h => absurd h.1 (by omega)
  · rfl

end digitPair

/-- A year of two digits, or of four or more. -/
def IsYear (digits : List Char) : Prop :=
  (digits.length = 2 ∨ 4 ≤ digits.length) ∧ ∀ c ∈ digits, isDecimalDigit c

instance (digits : List Char) : Decidable (IsYear digits) :=
  decidable_of_iff ((digits.length = 2 ∨ 4 ≤ digits.length) ∧ digits.all isDecimalDigit)
    (by rw [IsYear, List.all_eq_true])

/-- A date whose year comes last, spelled out. -/
theorem exists_of_yearLast? (h : yearLast? s = some d) :
    ∃ sep, s = d.first ++ sep :: (d.second ++ sep :: (d.third ++ d.rest)) ∧ isSeparator sep ∧
      IsDigitPair d.first ∧ IsDigitPair d.second ∧ IsYear d.third ∧ EndsDigits d.rest := by
  rcases hfirst : splitDigits 2 s with ⟨first, s₁⟩
  obtain ⟨rfl, hlen, hdigits⟩ := eq_of_splitDigits hfirst
  simp only [yearLast?, hfirst] at h
  split at h
  · next sep s₂ =>
      rcases hsecond : splitDigits 2 s₂ with ⟨second, s₃⟩
      obtain ⟨rfl, hlen', hdigits'⟩ := eq_of_splitDigits hsecond
      simp only [hsecond] at h
      split at h
      · next sep' s₄ =>
          rcases hyear : splitDigitRun s₄ with ⟨year, s₅⟩
          obtain ⟨rfl, hdigits''⟩ := eq_of_splitDigitRun hyear
          have hends := endsDigits_of_splitDigitRun hyear
          simp only [hyear] at h
          split_ifs at h with hfields
          cases h
          obtain ⟨hne, hsep, hne', rfl, hcount, -⟩ := hfields
          exact ⟨_, rfl, hsep, ⟨hne, hlen, hdigits⟩, ⟨hne', hlen', hdigits'⟩,
            ⟨hcount, hdigits''⟩, hends⟩
      · cases h
  · cases h

theorem yearFirst?_eq_none_of_yearLast? (h : yearLast? s = some d) : yearFirst? s = none := by
  obtain ⟨sep, rfl, hsep, hfirst, -⟩ := exists_of_yearLast? h
  exact hfirst.yearFirst?_eq_none hsep _

theorem splitName?_eq_none {c : Char} (hc : isDecimalDigit c) : splitName? (c :: s) = none := by
  have hname : (c :: s).takeWhile foldsToLetter = [] :=
    List.takeWhile_cons_of_neg (by simp [foldsToLetter_of_isDecimalDigit hc])
  simp only [splitName?, hname]
  exact if_neg (by simp)

/-- A gap before a digit is one character if the digit stands behind that. -/
theorem eq_of_dropGap? {commas : Bool} {sep c : Char} {behind : List Char} (hc : isDecimalDigit c)
    (h : dropGap? commas (sep :: c :: s) = some behind) : behind = c :: s := by
  have hgap : (isBlank c || c == '-' || commas && c == ',') = false := by
    have hne : ∀ {d : Char}, isDecimalDigit d = false → (c == d) = false := by
      intro d hd
      rw [beq_eq_false_iff_ne]
      rintro rfl
      exact Bool.false_ne_true (hd.symm.trans hc)
    rw [isBlank_of_isDecimalDigit hc, hne (d := '-') (by decide), hne (d := ',') (by decide),
      Bool.and_false]
    rfl
  simp only [dropGap?, List.takeWhile_cons, List.dropWhile_cons, hgap] at h
  cases hsep : (isBlank sep || sep == '-' || commas && sep == ',') with
  | true =>
      rw [hsep] at h
      exact (Option.some.inj h).symm
  | false =>
      rw [hsep] at h
      cases h

/-- No name of a month stands behind a day and a separator if a digit does. -/
theorem dayFirst?_eq_none_of_digit {first behind : List Char} {sep c : Char}
    (hfirst : IsDigitPair first) (hsep : isSeparator sep) (hc : isDecimalDigit c) :
    dayFirst? (first ++ sep :: c :: behind) = none := by
  rw [← Option.not_isSome_iff_eq_none, Option.isSome_iff_exists]
  rintro ⟨found, hfound⟩
  obtain ⟨-, left, name, rest, year, hleft, hname, -⟩ := dayFirst?_eq_some_iff.mp hfound
  rw [hfirst.splitDigits_sep hsep] at hleft
  rw [eq_of_dropGap? hc hleft, splitName?_eq_none hc] at hname
  exact nomatch hname

theorem dayFirst?_eq_none_of_yearLast? (h : yearLast? s = some d) : dayFirst? (s ++ w) = none := by
  obtain ⟨sep, rfl, hsep, hfirst, ⟨hne, -, hdigits⟩, -⟩ := exists_of_yearLast? h
  obtain ⟨c, second, hsecond⟩ := List.exists_cons_of_ne_nil hne
  rw [hsecond] at hdigits ⊢
  rw [List.append_assoc]
  exact dayFirst?_eq_none_of_digit hfirst hsep (hdigits c List.mem_cons_self)

/-- A year that comes last is not read if its word goes on. -/
theorem spelling?_append_eq_none (hw : EndsDate w) (h : yearLast? s = some d)
    (hword : endsWord (d.rest ++ w) = false) (order : DateOrder) :
    spelling? order (s ++ w) = none := by
  have hday : (splitDigits 2 (s ++ w)).1 ≠ [] := by
    obtain ⟨sep, rfl, hsep, hfirst, -⟩ := exists_of_yearLast? h
    rw [List.append_assoc, List.cons_append, hfirst.splitDigits_sep hsep]
    exact hfirst.1
  unfold spelling?
  rw [yearFirst?_append hw, yearFirst?_eq_none_of_yearLast? h, yearLast?_append hw, h,
    Option.filter_some, if_neg (by simp [hword]), monthFirst?_eq_none hday,
    dayFirst?_eq_none_of_yearLast? h]
  rfl

end yearLast

theorem readDate_of_spelling?_eq_none {type : WireType} {order : DateOrder}
    (h : spelling? order s = none) :
    readDate type order s = .error (.malformed type (String.ofList s)) := by
  rw [readDate_eq, h]
  rfl

/-! ### Times that make up a text -/

theorem le_microsPerDay_of_micros {t : TimeText} {e : CodecError} {micros : Nat}
    (h : t.micros e = .ok micros) : micros ≤ microsPerDay := by
  rw [TimeText.micros_eq] at h
  simp only [bind_eq_ok_iff] at h
  obtain ⟨hour, -, minute, -, second, -, fraction, -, htotal⟩ := h
  unfold totalMicros at htotal
  split at htotal
  · exact nomatch htotal
  · dsimp only at htotal
    split_ifs at htotal with hlimits
    obtain rfl := pure_eq_ok_iff.mp htotal
    omega

/-- A time that is read begins with a digit of its hour. -/
theorem startsWithDigit_of_timeText? {t : TimeText} {e : CodecError} {micros : Nat}
    (h : timeText? s = some t) (hmicros : t.micros e = .ok micros) : startsWithDigit s := by
  obtain ⟨⟨hne, -⟩, -, seconds, meridiem, rfl, -⟩ := spells_of_timeText? h
  rw [TimeText.micros_eq] at hmicros
  obtain ⟨n, hread, -⟩ := bind_eq_ok_iff.mp hmicros
  obtain ⟨-, hdigits⟩ := exists_read?_iff.mp ⟨n, (readField_eq_ok_iff e).mp hread⟩
  obtain ⟨c, digits, hhour⟩ := List.exists_cons_of_ne_nil hne
  rw [hhour] at hdigits ⊢
  exact hdigits c List.mem_cons_self

/-- A time that makes up a whole text, with nothing around it. -/
structure IsTime (text : List Char) (micros : Nat) : Prop where
  readTime : ∀ type, readTime type text = .ok (micros, [])
  le_microsPerDay : micros ≤ microsPerDay
  startsWithDigit : startsWithDigit text
  closes : ∃ c ∈ text.getLast?, ClosesTime c

theorem isTime_of_ofText {text : List Char} {t : TimeOfDay} (htrim : trim text = text)
    (h : TimeOfDay.ofText text = .ok t) :
    ∃ micros, IsTime text micros ∧ .wrapMicros micros = t := by
  obtain ⟨micros, rest, hread, hrest, rfl⟩ := TimeOfDay.ofText_eq_ok_iff.mp h
  rw [htrim] at hread
  obtain ⟨fields, hfields, hmicros, rfl⟩ := readTime_eq_ok_iff.mp hread
  have htakes := takesTime_of_timeText? hfields
  have hnil : fields.rest = [] := by
    obtain ⟨front, c, htext, -⟩ := htakes
    rw [List.append_cons] at htext
    exact eq_nil_of_isBlankText (htrim ▸ last_trim text) htext hrest
  refine ⟨micros, ⟨?_, le_microsPerDay_of_micros hmicros, ?_, ?_⟩, rfl⟩
  · intro type
    exact readTime_eq_ok_iff.mpr ⟨fields, hfields, TimeText.micros_of_ok hmicros, hnil⟩
  · exact startsWithDigit_of_timeText? hfields hmicros
  · rw [hnil] at htakes
    exact last_of_takesTime htakes

/-! ### The text of a timestamp -/

/-- What may stand between a date and a time. -/
def IsJoint (joint : List Char) : Prop :=
  joint ≠ [] ∧ isBlankText joint ∨ joint = ['T'] ∨ joint = ['t']

section joint

variable {text joint : List Char} {micros : Nat}

theorem IsTime.dropJoint (h : IsTime text micros) (hjoint : IsJoint joint) :
    dropJoint (joint ++ text) = text := by
  obtain ⟨c, behind, rfl⟩ : ∃ c behind, text = c :: behind := by
    cases htext : text with
    | nil =>
        have hdigit := h.startsWithDigit
        rw [htext] at hdigit
        exact absurd hdigit Bool.false_ne_true
    | cons c behind => exact ⟨c, behind, rfl⟩
  have hdigit : c.isDigit := h.startsWithDigit
  have hstart : trimStart (c :: behind) = c :: behind := by
    apply trimStart_eq_self
    intro d hd
    cases hd
    exact isBlank_of_isDigit hdigit
  rcases hjoint with ⟨-, hblank⟩ | rfl | rfl
  · rw [dropJoint_of_blank hblank]
    simp only [Literal.dropJoint, hstart]
    rw [if_neg]
    rintro ⟨rfl | rfl, -⟩ <;> exact absurd hdigit Bool.false_ne_true
  · exact if_pos ⟨Or.inl rfl, h.startsWithDigit⟩
  · exact if_pos ⟨Or.inr rfl, h.startsWithDigit⟩

/-- The last word of a text holds its last character. -/
theorem mem_last_word {c : Char} (hc : c ∈ s.getLast?) (hblank : isBlank c = false) :
    c ∈ (s.reverse.takeWhile fun c => !isBlank c).reverse := by
  obtain ⟨init, rfl⟩ := List.getLast?_eq_some_iff.mp hc
  simp [hblank]

/-- Behind a date that starts a trimmed text, a time ends it without an era. -/
theorem IsTime.eraFree_append (h : IsTime text micros) {front : List Char} (hne : front ≠ [])
    (hfront : trim front = front) (htext : trim text = text) (joint : List Char) :
    trim (front ++ (joint ++ text)) = front ++ (joint ++ text) ∧
      EraFree (front ++ (joint ++ text)) ∧ infinity? (front ++ (joint ++ text)) = none := by
  obtain ⟨c, hc, hcloses⟩ := h.closes
  have hne' : text ≠ [] := by
    rintro rfl
    exact nomatch hc
  have hlast : c ∈ (front ++ (joint ++ text)).getLast? := by
    rw [← List.append_assoc, List.getLast?_append_of_ne_nil _ hne']
    exact hc
  have htrim : trim (front ++ (joint ++ text)) = front ++ (joint ++ text) := by
    apply trim_eq_self
    · rw [List.head?_append_of_ne_nil _ hne]
      exact hfront ▸ head_trim front
    · rw [← List.append_assoc, List.getLast?_append_of_ne_nil _ hne']
      exact htext ▸ last_trim text
  have hblank : isBlank c = false := (htext ▸ last_trim text) c hc
  refine ⟨htrim, ?_, ?_⟩
  · have hmarker := eraMarker?_eq_none_of_closesTime (mem_last_word hlast hblank) hcloses
    simp only [EraFree, splitEra, htrim, hmarker]
    exact ite_self _
  · obtain ⟨d, behind, rfl⟩ := List.exists_cons_of_ne_nil hne'
    refine infinity?_eq_none ?_ h.startsWithDigit
    rw [htrim]
    exact List.mem_append_right _ (List.mem_append_right _ List.mem_cons_self)

/-- A letter between a date and a time does not go on with the date, but with a word. -/
theorem IsJoint.letter (hjoint : IsJoint joint) (hblank : ¬isBlankText joint) (text : List Char) :
    EndsDate (joint ++ text) ∧ endsWord (joint ++ text) = false := by
  have hletter : ∀ {c : Char}, c = 'T' ∨ c = 't' →
      EndsDate ([c] ++ text) ∧ endsWord ([c] ++ text) = false := by
    rintro c (rfl | rfl)
    · exact ⟨⟨endsDigits_cons (by decide), fun d hd => Option.mem_some.mp hd ▸ by decide⟩,
        (by decide : (!isWordChar 'T') = false)⟩
    · exact ⟨⟨endsDigits_cons (by decide), fun d hd => Option.mem_some.mp hd ▸ by decide⟩,
        (by decide : (!isWordChar 't') = false)⟩
  rcases hjoint with ⟨-, h⟩ | rfl | rfl
  · exact absurd h hblank
  · exact hletter (Or.inl rfl)
  · exact hletter (Or.inr rfl)

theorem IsJoint.startsBlank (hjoint : IsJoint joint) (hblank : isBlankText joint)
    (text : List Char) : StartsBlank (joint ++ text) := by
  have hne : joint ≠ [] := by
    rcases hjoint with ⟨hne, -⟩ | rfl | rfl
    · exact hne
    · exact List.cons_ne_nil _ _
    · exact List.cons_ne_nil _ _
  intro c hc
  rw [List.head?_append_of_ne_nil _ hne] at hc
  exact List.all_eq_true.mp hblank c (List.mem_of_head? hc)

end joint

/-- A date that makes up a trimmed text with its year last leaves nothing of that text. -/
theorem rest_eq_nil_of_yearLast? {d : NumericDate} {order : DateOrder} {type : WireType}
    {fields : DateFields} (htrim : trim s = s) (h : yearLast? s = some d)
    (hread : readDate type order s = .ok (fields, rest)) (hrest : isBlankText rest) :
    d.rest = [] := by
  have hspelling := readDate_eq_ok_iff.mp hread
  unfold spelling? at hspelling
  rw [yearFirst?_eq_none_of_yearLast? h, h] at hspelling
  obtain rfl : d.rest = rest := (Prod.mk.inj (Option.some.inj hspelling)).1
  obtain ⟨sep, hs, -⟩ := exists_of_yearLast? h
  apply eq_nil_of_isBlankText (htrim ▸ last_trim s) _ hrest
  · exact d.first ++ sep :: (d.second ++ sep :: d.third)
  · rw [hs]
    simp

end Literal

open Literal

namespace Timestamp

variable {ctx : Context} {s : List Char}

/-- A date that cannot be read at the front of a text keeps a timestamp from being read. -/
theorem ofText_of_readDate_error (hinf : infinity? s = none) (hera : EraFree s) {e : CodecError}
    (h : readDate .timestamp ctx.dateOrder (trim s) = .error e) :
    ofText ctx s = .error (.rejected e) := by
  rw [ofText_eq hinf, show splitEra s = (trim s, false) from hera, readTimestamp_eq, h]
  rfl

/-- Once a date and a time are read to the end of a text, only the calendar can be in the way. -/
theorem ofText_of_readClock (hinf : infinity? s = none) (hera : EraFree s) {fields : DateFields}
    {behind : List Char} {date : Date} {micros : Nat}
    (hdate : readDate .timestamp ctx.dateOrder (trim s) = .ok (fields, behind))
    (hday : fields.toDate? false = some date)
    (hclock : readClock .timestamp (dropJoint behind) = .ok (micros, [])) :
    ofText ctx s = moved .timestamp s date micros := by
  have hdate' : (liftM (readDate .timestamp ctx.dateOrder (trim s)) : Except Failure _) =
      .ok (fields, behind) := lift_eq_ok_iff.mpr hdate
  have hday' : (liftM (dayOf .timestamp s false fields) : Except Failure _) = .ok date :=
    lift_eq_ok_iff.mpr (dayOf_eq_ok_iff.mpr hday)
  have hread : readTimestamp ctx .timestamp s (trim s) false =
      (moved .timestamp s date micros >>= fun t => pure (t, [])) := by
    simp only [readTimestamp_eq, bind_eq_of_ok hdate', bind_eq_of_ok hday', bind_eq_of_ok hclock]
  rw [ofText_eq hinf, show splitEra s = (trim s, false) from hera, hread]
  cases moved .timestamp s date micros <;> rfl

section joined

variable {front joint text : List Char} {micros : Nat} (htime : IsTime text micros)
  (hjoint : IsJoint joint) (hne : front ≠ []) (hfront : trim front = front)
  (htext : trim text = text)

include htime hjoint hne hfront htext

/-- Where the date is read off the front, the joint is dropped and the time makes up the rest. -/
theorem ofText_of_readDate_append {fields : DateFields} {rest : List Char} {date : Date}
    (hrest : isBlankText rest) (hday : fields.toDate? false = some date)
    (h : readDate .timestamp ctx.dateOrder (front ++ (joint ++ text)) =
      .ok (fields, rest ++ (joint ++ text))) :
    ofText ctx (front ++ (joint ++ text)) =
      (onDay? date micros).elim
        (throw (.rejected (.outOfRange .timestamp (String.ofList (front ++ (joint ++ text))))))
        pure := by
  obtain ⟨htrim, hera, hinf⟩ := htime.eraFree_append hne hfront htext joint
  have hclock : readClock .timestamp (dropJoint (rest ++ (joint ++ text))) = .ok (micros, []) := by
    rw [dropJoint_of_blank hrest, htime.dropJoint hjoint, readClock, if_pos htime.startsWithDigit]
    exact htime.readTime .timestamp
  rw [← htrim] at h
  rw [ofText_of_readClock hinf hera h hday hclock, moved,
    addMicros?_eq_onDay? htime.le_microsPerDay]

/-- A letter right behind a year that comes last keeps the date from being read. -/
theorem ofText_of_yearLast?_letter {d : NumericDate} (hblank : ¬isBlankText joint)
    (hlast : yearLast? front = some d) (hd : d.rest = []) :
    ofText ctx (front ++ (joint ++ text)) =
      .error (.rejected (.malformed .timestamp (String.ofList (front ++ (joint ++ text))))) := by
  obtain ⟨htrim, hera, hinf⟩ := htime.eraFree_append hne hfront htext joint
  obtain ⟨hends, hword⟩ := hjoint.letter hblank text
  apply ofText_of_readDate_error hinf hera
  rw [htrim]
  apply readDate_of_spelling?_eq_none
  apply spelling?_append_eq_none hends hlast
  rw [hd]
  exact hword

end joined

/-- A date, a joint and a time make up a timestamp: the time on that day, where the midnight that
ends the day is that of the next one, or a refusal if there is none. Only where a year comes last
and a letter follows it is the text not read. -/
theorem ofText_date_joint_time (ctx : Context) {front joint text : List Char} {date : Date}
    {t : TimeOfDay} (hfront : trim front = front) (hera : EraFree front)
    (hinf : infinity? front = none) (hdate : Date.ofText ctx front = .ok date)
    (htext : trim text = text) (htime : TimeOfDay.ofText text = .ok t) (hjoint : IsJoint joint) :
    ∃ micros ≤ microsPerDay,
      readTime .time text = .ok (micros, []) ∧ .wrapMicros micros = t ∧
      ofText ctx (front ++ (joint ++ text)) =
        if (yearLast? front).isSome ∧ ¬isBlankText joint then
          .error (.rejected (.malformed .timestamp (String.ofList (front ++ (joint ++ text)))))
        else
          (onDay? date micros).elim
            (throw (.rejected (.outOfRange .timestamp (String.ofList (front ++ (joint ++ text))))))
            pure := by
  obtain ⟨micros, hclock, hwrap⟩ := isTime_of_ofText htext htime
  refine ⟨micros, hclock.le_microsPerDay, hclock.readTime .time, hwrap, ?_⟩
  obtain ⟨fields, rest, hread, hrest, hday⟩ := (Date.ofText_eq_ok_iff hinf).mp hdate
  rw [show splitEra front = (trim front, false) from hera, hfront] at hread hday
  have hne : front ≠ [] := by
    rintro rfl
    cases hread
  have hjoined : readDate .timestamp ctx.dateOrder _ = _ → ofText ctx _ = _ :=
    ofText_of_readDate_append hclock hjoint hne hfront htext hrest hday
  by_cases hblank : isBlankText joint
  · rw [if_neg fun h => h.2 hblank]
    exact hjoined (readDate_append_blank (hjoint.startsBlank hblank text) .timestamp hread)
  · cases hlast : yearLast? front with
    | none =>
        rw [if_neg fun h => Bool.false_ne_true h.1]
        have hnone : ∀ d ∈ yearLast? front, endsWord (d.rest ++ (joint ++ text)) := by
          intro d hd
          rw [hlast] at hd
          cases hd
        exact hjoined (readDate_append (hjoint.letter hblank text).1 hnone .timestamp hread)
    | some d =>
        rw [if_pos ⟨rfl, hblank⟩]
        exact ofText_of_yearLast?_letter hclock hjoint hne hfront htext hblank hlast
          (rest_eq_nil_of_yearLast? hfront hlast hread hrest)

/-- The midnight that ends a year. -/
theorem ofText_date_joint_time_year_end :
    let ctx : Context := .standard .excerpt
    let front := "2020-12-31".toList
    let text := "24:00:00".toList
    trim front = front ∧ EraFree front ∧ infinity? front = none ∧
      Date.ofText ctx front = .ok ⟨2020, 12, 31, by decide⟩ ∧ trim text = text ∧
      TimeOfDay.ofText text = .ok .midnight ∧ IsJoint ['T'] ∧
      ofText ctx (front ++ (['T'] ++ text)) = .ok ⟨⟨2021, 1, 1, by decide⟩, .midnight⟩ := by
  intro ctx front text
  have hfront : trim front = front := by decide
  have hera : EraFree front := by decide
  have hinf : infinity? front = none := by decide
  have hdate : Date.ofText ctx front = .ok ⟨2020, 12, 31, by decide⟩ := by decide
  have htext : trim text = text := by decide
  have htime : TimeOfDay.ofText text = .ok .midnight := by decide
  have hjoint : IsJoint ['T'] := Or.inr (Or.inl rfl)
  refine ⟨hfront, hera, hinf, hdate, htext, htime, hjoint, ?_⟩
  obtain ⟨micros, -, hread, -, hof⟩ :=
    ofText_date_joint_time ctx hfront hera hinf hdate htext htime hjoint
  have hday : readTime .time text = .ok (microsPerDay, []) := by decide
  obtain rfl : micros = microsPerDay := (Prod.mk.inj (Except.ok.inj (hread.symm.trans hday))).1
  rw [hof, if_neg fun h => absurd h.1 (by decide)]
  rfl

/-- A date whose year comes last, read alone and with a blank behind it but not with a `T`. -/
theorem ofText_year_last_letter :
    let ctx : Context := .standard .excerpt
    let front := "01-06-2020".toList
    let text := "10:00:00".toList
    let date : Date := ⟨2020, 1, 6, by decide⟩
    let t : TimeOfDay := ⟨36000, 0, by decide, by decide⟩
    trim front = front ∧ EraFree front ∧ infinity? front = none ∧
      Date.ofText ctx front = .ok date ∧ trim text = text ∧ TimeOfDay.ofText text = .ok t ∧
      ofText ctx (front ++ ([' '] ++ text)) = .ok ⟨date, t⟩ ∧
      IsJoint ['T'] ∧ ofText ctx (front ++ (['T'] ++ text)) =
        .error (.rejected (.malformed .timestamp "01-06-2020T10:00:00")) := by
  refine ⟨?_, ?_, ?_, ?_, ?_, ?_, ?_, Or.inr (Or.inl rfl), ?_⟩ <;> decide

end Timestamp

end ScalarWire
