import Mathlib.Tactic.SplitIfs
import ScalarWire.Proofs.Error
import ScalarWire.Proofs.Literal.Digits
import ScalarWire.Proofs.Text.Blank
import ScalarWire.Proofs.Text.Letter

/-!
# Dates in front of other text

A date is read off the front of a text in the same way if more stands behind that text, as long as
what stands there starts with neither a digit nor a separator, and ends the word of a year that
comes last: no spelling of a date takes such a character for its last one, and a spelling that does
not fit is not completed by one. So any text that starts with a blank can follow a date.
-/

namespace ScalarWire.Literal

open Text

variable {s w : List Char}

section fields

variable (s) (hw : EndsDigits w)

include hw

theorem splitDigitRun_append_ends :
    splitDigitRun (s ++ w) = ((splitDigitRun s).1, (splitDigitRun s).2 ++ w) := by
  rw [splitDigitRun, takeWhile_append_of_ends hw, dropWhile_append_of_ends hw]
  rfl

theorem splitDigits_append_ends (n : Nat) :
    splitDigits n (s ++ w) = ((splitDigits n s).1, (splitDigits n s).2 ++ w) := by
  have htake : ((s ++ w).take n).takeWhile isDecimalDigit =
      (s.take n).takeWhile isDecimalDigit := by
    rw [List.take_append]
    apply takeWhile_append_of_ends
    intro c hc
    rw [List.head?_take] at hc
    split_ifs at hc
    · exact nomatch hc
    · exact hw c hc
  have hlen : ((s.take n).takeWhile isDecimalDigit).length ≤ s.length :=
    (List.takeWhile_sublist _).length_le.trans (List.length_take_le' n s)
  simp only [splitDigits, htake, List.drop_append_of_le_length hlen]

end fields

/-- The date with more text behind it. -/
def NumericDate.append (d : NumericDate) (w : List Char) : NumericDate :=
  { d with rest := d.rest ++ w }

def NamedDate.append (d : NamedDate) (w : List Char) : NamedDate :=
  { d with rest := d.rest ++ w }

/-- A text that starts with no character of a numeric date. -/
structure EndsDate (w : List Char) : Prop where
  endsDigits : EndsDigits w
  not_separator : ∀ c ∈ w.head?, isSeparator c = false

theorem endsDate_of_startsBlank (hw : StartsBlank w) : EndsDate w := by
  refine ⟨hw.not_decimalDigit, fun c hc => ?_⟩
  have hne : ∀ {d : Char}, isBlank d = false → c ≠ d := by
    rintro d hd rfl
    exact Bool.false_ne_true (hd.symm.trans (hw c hc))
  simp only [isSeparator, Bool.or_eq_false_iff, beq_eq_false_iff_ne]
  exact ⟨⟨hne (by decide), hne (by decide)⟩, hne (by decide)⟩

/-- A separator is not repeated by what can follow a date. -/
theorem EndsDate.ne_separator {c sep : Char} (hw : EndsDate (c :: w)) (hsep : isSeparator sep) :
    c ≠ sep := by
  rintro rfl
  exact Bool.false_ne_true ((hw.not_separator c rfl).symm.trans hsep)

theorem yearFirst?_append (hw : EndsDate w) :
    yearFirst? (s ++ w) = (yearFirst? s).map (·.append w) := by
  simp only [yearFirst?, splitDigitRun_append_ends s hw.endsDigits]
  obtain ⟨year, s⟩ := splitDigitRun s
  cases s with
  | nil =>
      cases w with
      | nil => rfl
      | cons c w =>
          simp only [List.nil_append, hw.not_separator c rfl]
          split <;> simp
  | cons sep s =>
      simp only [List.cons_append, splitDigits_append_ends s hw.endsDigits]
      obtain ⟨month, s⟩ := splitDigits 2 s
      cases s with
      | nil =>
          cases w with
          | nil => rfl
          | cons c w =>
              simp only [List.nil_append]
              rw [if_neg fun h => hw.ne_separator h.2.1 h.2.2.2.1]
              rfl
      | cons sep' s =>
          simp only [List.cons_append, splitDigits_append_ends s hw.endsDigits]
          split_ifs <;> rfl

/-- What ends a word behind a text ends one at the end of that text. -/
theorem endsWord_of_append (h : endsWord (s ++ w)) : endsWord s := by
  cases s with
  | nil => rfl
  | cons c s => exact h

/-- A year that comes last has to end its word also with more text behind it. -/
theorem yearLast?_append (hw : EndsDate w) :
    yearLast? (s ++ w) =
      ((yearLast? s).filter fun d => endsWord (d.rest ++ w)).map (·.append w) := by
  simp only [yearLast?, splitDigits_append_ends s hw.endsDigits]
  obtain ⟨first, s⟩ := splitDigits 2 s
  cases s with
  | nil =>
      cases w with
      | nil => rfl
      | cons c w =>
          simp only [List.nil_append, hw.not_separator c rfl]
          split <;> simp
  | cons sep s =>
      simp only [List.cons_append, splitDigits_append_ends s hw.endsDigits]
      obtain ⟨second, s⟩ := splitDigits 2 s
      cases s with
      | nil =>
          cases w with
          | nil => rfl
          | cons c w =>
              simp only [List.nil_append]
              rw [if_neg fun h => hw.ne_separator h.2.1 h.2.2.2.1]
              rfl
      | cons sep' s =>
          simp only [List.cons_append, splitDigitRun_append_ends s hw.endsDigits]
          by_cases hend : endsWord ((splitDigitRun s).2 ++ w)
          · simp only [hend, endsWord_of_append hend]
            split_ifs
            · rw [Option.filter_some, if_pos hend]
              rfl
            · rfl
          · rw [if_neg fun h => hend h.2.2.2.2.2]
            split_ifs
            · rw [Option.filter_some, if_neg hend]
              rfl
            · rfl

/-- A name that something stands behind already is not made longer. -/
theorem splitName?_append {name rest : List Char} (h : splitName? s = some (name, rest))
    (hrest : rest ≠ []) : splitName? (s ++ w) = some (name, rest ++ w) := by
  simp only [splitName?] at h ⊢
  by_cases hlen : 3 ≤ (s.takeWhile foldsToLetter).length ∧ (s.takeWhile foldsToLetter).length ≤ 9
  · rw [if_pos hlen] at h
    have hne : s.dropWhile foldsToLetter ≠ [] := by
      intro hnil
      rw [hnil] at h
      exact hrest (Prod.mk.inj (Option.some.inj h)).2.symm
    rw [takeWhile_append_of_ne_nil hne, dropWhile_append_of_ne_nil hne, if_pos hlen]
    obtain ⟨c, behind, hbehind⟩ := List.exists_cons_of_ne_nil hne
    rw [hbehind] at h ⊢
    by_cases hstop : c = '.'
    · subst hstop
      cases h
      rfl
    · obtain ⟨rfl, hbehind'⟩ := Prod.mk.inj (Option.some.inj h)
      split at hbehind'
      · next heq => exact absurd (List.cons.inj heq).1 hstop
      · rw [← hbehind']
        simp [hstop]
  · rw [if_neg hlen] at h
    exact nomatch h

/-- What stands between a day and a year behind it: an ending, blanks and a comma. -/
def dropDayEnd (s : List Char) : List Char :=
  trimStart (dropComma (trimStart (dropOrdinal s)))

theorem dropDayEnd_eq (s : List Char) :
    trimStart (dropComma (trimStart (dropOrdinal s))) = dropDayEnd s := by
  rw [dropDayEnd]

theorem length_dropComma_le (s : List Char) : (dropComma s).length ≤ s.length := by
  unfold dropComma
  split
  · exact Nat.le_succ _
  · exact le_rfl

theorem length_trimStart_le (s : List Char) : (trimStart s).length ≤ s.length :=
  (List.dropWhile_sublist _).length_le

theorem length_dropOrdinal_le (s : List Char) : (dropOrdinal s).length ≤ s.length := by
  unfold dropOrdinal
  split_ifs
  · exact (List.drop_sublist 2 s).length_le
  · exact le_rfl

theorem length_dropDayEnd_le (s : List Char) : (dropDayEnd s).length ≤ s.length :=
  ((length_trimStart_le _).trans (length_dropComma_le _)).trans
    ((length_trimStart_le _).trans (length_dropOrdinal_le s))

theorem dropOrdinal_append (hs : 2 ≤ s.length) : dropOrdinal (s ++ w) = dropOrdinal s ++ w := by
  simp only [dropOrdinal, List.take_append_of_le_length hs, List.drop_append_of_le_length hs]
  split_ifs <;> rfl

theorem dropComma_append (hs : s ≠ []) : dropComma (s ++ w) = dropComma s ++ w := by
  obtain ⟨c, s, rfl⟩ := List.exists_cons_of_ne_nil hs
  by_cases hc : c = ','
  · rw [hc]
    rfl
  · simp [dropComma, hc]

/-- Where a year follows, nothing before it is changed by what stands behind. -/
theorem dropDayEnd_append (h : 2 ≤ (dropDayEnd s).length) :
    dropDayEnd (s ++ w) = dropDayEnd s ++ w := by
  have hlen := length_dropDayEnd_le s
  have hne : dropDayEnd s ≠ [] := List.ne_nil_of_length_pos (by omega)
  have hinner : trimStart (dropOrdinal s) ≠ [] := by
    intro hnil
    rw [dropDayEnd, hnil] at hne
    exact hne rfl
  rw [dropDayEnd, dropOrdinal_append (by omega), trimStart_append hinner,
    dropComma_append hinner, trimStart_append hne]
  rfl

/-- A number behind blanks is found whatever stands behind it. -/
theorem splitDigitRun_trimStart_append (hw : EndsDigits w)
    (h : (splitDigitRun (trimStart s)).1 ≠ []) :
    splitDigitRun (trimStart (s ++ w)) =
      ((splitDigitRun (trimStart s)).1, (splitDigitRun (trimStart s)).2 ++ w) := by
  have hne : trimStart s ≠ [] := by
    intro hnil
    rw [hnil] at h
    exact h rfl
  rw [trimStart_append hne, splitDigitRun_append_ends _ hw]

theorem length_splitDigitRun_le (s : List Char) : (splitDigitRun s).1.length ≤ s.length :=
  (List.takeWhile_sublist _).length_le

theorem monthFirst?_append (hw : EndsDigits w) {d : NamedDate} (h : monthFirst? s = some d) :
    monthFirst? (s ++ w) = some (d.append w) := by
  simp only [monthFirst?, dropDayEnd_eq] at h ⊢
  obtain ⟨⟨name, rest⟩, hname, h⟩ := Option.bind_eq_some_iff.mp h
  dsimp only at h
  have hdigits : (splitDigitRun (trimStart rest)).1 ≠ [] := by
    intro hnil
    rw [if_pos (Or.inl hnil)] at h
    exact nomatch h
  have hrest : rest ≠ [] := by
    rintro rfl
    exact hdigits rfl
  rw [splitName?_append hname hrest, Option.bind_some]
  dsimp only
  rw [splitDigitRun_trimStart_append hw hdigits]
  generalize splitDigitRun (trimStart rest) = found at h ⊢
  obtain ⟨digits, behind⟩ := found
  dsimp only at h ⊢
  by_cases hcount : digits = [] ∨ digits.length = 3 ∨ digits.length = 4
  · rw [if_pos hcount] at h
    exact nomatch h
  rw [if_neg hcount] at h ⊢
  by_cases hshort : digits.length ≤ 2
  · rw [if_pos hshort] at h ⊢
    by_cases hyear : 4 ≤ (splitDigitRun (dropDayEnd behind)).1.length
    · have hlen := length_splitDigitRun_le (dropDayEnd behind)
      rw [if_pos hyear] at h
      rw [dropDayEnd_append (by omega), splitDigitRun_append_ends _ hw, if_pos hyear]
      exact congrArg (Option.map (·.append w)) h
    · rw [if_neg hyear] at h
      exact nomatch h
  · rw [if_neg hshort] at h ⊢
    exact congrArg (Option.map (·.append w)) h

theorem dropGap?_append {commas : Bool} {rest : List Char} (h : dropGap? commas s = some rest)
    (hrest : rest ≠ []) : dropGap? commas (s ++ w) = some (rest ++ w) := by
  simp only [dropGap?] at h ⊢
  split_ifs at h with hgap
  cases h
  have hgap' : ((s ++ w).takeWhile fun c => isBlank c || c == '-' || commas && c == ',') ≠ [] := by
    cases s with
    | nil => exact absurd rfl hgap
    | cons c s =>
        rw [List.cons_append, List.takeWhile_cons]
        rw [List.takeWhile_cons] at hgap
        split_ifs at hgap ⊢
        · exact List.cons_ne_nil _ _
        · exact absurd rfl hgap
  rw [if_neg (by simpa using hgap'), dropWhile_append_of_ne_nil hrest]

theorem dayFirst?_eq_some_iff {d : NamedDate} :
    dayFirst? s = some d ↔ (splitDigits 2 s).1 ≠ [] ∧
      ∃ behind name rest year, dropGap? false (splitDigits 2 s).2 = some behind ∧
        splitName? behind = some (name, rest) ∧ dropGap? true rest = some year ∧
          4 ≤ (splitDigitRun year).1.length ∧
            d = ⟨name, (splitDigits 2 s).1, (splitDigitRun year).1, (splitDigitRun year).2⟩ := by
  simp only [dayFirst?, Option.bind_eq_bind]
  by_cases hday : (splitDigits 2 s).1 = []
  · rw [if_pos hday]
    exact ⟨fun h => (nomatch h), fun h => absurd hday h.1⟩
  rw [if_neg hday]
  simp only [Option.bind_eq_some_iff, Option.ite_none_right_eq_some, Prod.exists,
    Option.some.injEq]
  constructor
  · rintro ⟨behind, hbehind, name, rest, hname, year, hyear, hlen, rfl⟩
    exact ⟨hday, behind, name, rest, year, hbehind, hname, hyear, hlen, rfl⟩
  · rintro ⟨-, behind, name, rest, year, hbehind, hname, hyear, hlen, rfl⟩
    exact ⟨behind, hbehind, name, rest, hname, year, hyear, hlen, rfl⟩

theorem dayFirst?_append (hw : EndsDigits w) {d : NamedDate} (h : dayFirst? s = some d) :
    dayFirst? (s ++ w) = some (d.append w) := by
  obtain ⟨hday, behind, name, rest, year, hbehind, hname, hyear, hlen, rfl⟩ :=
    dayFirst?_eq_some_iff.mp h
  have hyear_ne : year ≠ [] := by
    rintro rfl
    exact absurd hlen (by decide)
  have hrest_ne : rest ≠ [] := by
    rintro rfl
    exact nomatch hyear
  have hbehind_ne : behind ≠ [] := by
    rintro rfl
    exact nomatch hname
  refine dayFirst?_eq_some_iff.mpr ⟨?_, behind ++ w, name, rest ++ w, year ++ w, ?_, ?_, ?_, ?_, ?_⟩
  · rwa [splitDigits_append_ends s hw]
  · rw [splitDigits_append_ends s hw]
    exact dropGap?_append hbehind hbehind_ne
  · exact splitName?_append hname hrest_ne
  · exact dropGap?_append hyear hyear_ne
  · rwa [splitDigitRun_append_ends year hw]
  · rw [splitDigits_append_ends s hw, splitDigitRun_append_ends year hw]
    rfl

theorem foldsToLetter_of_isDecimalDigit {c : Char} (h : isDecimalDigit c) :
    foldsToLetter c = false := by
  simp only [foldsToLetter, Bool.or_eq_false_iff, beq_eq_false_iff_ne]
  refine ⟨⟨?_, ?_⟩, ?_⟩
  · have hrange := toNat_of_isDecimalDigit h
    rw [← Bool.not_eq_true, isAlpha_iff]
    omega
  · rintro rfl
    exact absurd h (by decide)
  · rintro rfl
    exact absurd h (by decide)

/-- A letter is neither a digit nor a blank. -/
theorem classes_of_foldsToLetter {c : Char} (h : foldsToLetter c) :
    isDecimalDigit c = false ∧ isBlank c = false := by
  constructor
  · by_contra hdigit
    rw [foldsToLetter_of_isDecimalDigit (eq_true_of_ne_false hdigit)] at h
    exact Bool.false_ne_true h
  · by_contra hblank
    rw [(classes_of_isBlank (eq_true_of_ne_false hblank)).2.1] at h
    exact Bool.false_ne_true h

theorem foldsToLetter_foldLetter (c : Char) : foldsToLetter (foldLetter c) = foldsToLetter c := by
  unfold foldLetter
  split_ifs with hs hk
  · rw [hs]
    decide
  · rw [hk]
    decide
  · exact foldsToLetter_toLower c

/-- An ordinal ends in letters. -/
theorem foldsToLetter_of_mem_ending {ending : List Char} {c : Char}
    (h : ordinalEndings.contains (ending.map foldLetter)) (hc : c ∈ ending) :
    foldsToLetter c := by
  have hendings : ∀ ending ∈ ordinalEndings, ending.all foldsToLetter := by decide
  have hletters := hendings _ (List.contains_iff_mem.mp h)
  rw [← foldsToLetter_foldLetter]
  exact List.all_eq_true.mp hletters _ (List.mem_map_of_mem hc)

/-- A date that starts with a digit has no month in front. -/
theorem monthFirst?_eq_none (h : (splitDigits 2 s).1 ≠ []) : monthFirst? s = none := by
  cases s with
  | nil => exact absurd rfl h
  | cons c s =>
      have hc : isDecimalDigit c := by
        by_contra hc
        apply h
        simp [splitDigits, hc]
      have hname : (c :: s).takeWhile foldsToLetter = [] :=
        List.takeWhile_cons_of_neg (by simp [foldsToLetter_of_isDecimalDigit hc])
      have hnone : splitName? (c :: s) = none := by
        simp only [splitName?, hname]
        exact if_neg (by simp)
      rw [monthFirst?, hnone, Option.bind_none]

theorem named?_eq_some_iff {date : Option NamedDate} {d : NamedDate} {month : Nat} :
    named? date = some (d, month) ↔ date = some d ∧ monthOfName? d.name = some month := by
  simp only [named?, Option.bind_eq_some_iff, Option.map_eq_some_iff, Prod.mk.injEq]
  constructor
  · rintro ⟨e, rfl, m, hm, rfl, rfl⟩
    exact ⟨rfl, hm⟩
  · rintro ⟨rfl, hm⟩
    exact ⟨d, rfl, month, hm, rfl, rfl⟩

/-- The first spelling that fits the front of a text: what it leaves, and its fields if they can be
read. -/
def spelling? (order : DateOrder) (s : List Char) : Option (List Char × Option DateFields) :=
  match yearFirst? s with
  | some d => some (d.rest, yearFirstFields? d)
  | none =>
    match yearLast? s with
    | some d => some (d.rest, yearLastFields? order d)
    | none =>
      (named? (monthFirst? s) <|> named? (dayFirst? s)).map fun (d, month) =>
        (d.rest, namedFields? month d)

theorem readDate_eq (type : WireType) (order : DateOrder) (s : List Char) :
    readDate type order s =
      (spelling? order s).elim (throw (.malformed type (String.ofList s))) fun (rest, fields) =>
        complete type s rest fields := by
  unfold readDate spelling?
  cases yearFirst? s with
  | some d => rfl
  | none =>
      cases yearLast? s with
      | some d => rfl
      | none => cases named? (monthFirst? s) <|> named? (dayFirst? s) <;> rfl

theorem readDate_eq_ok_iff {type : WireType} {order : DateOrder} {fields : DateFields}
    {rest : List Char} : readDate type order s = .ok (fields, rest) ↔
      spelling? order s = some (rest, some fields) := by
  rw [readDate_eq]
  cases spelling? order s with
  | none => exact ⟨fun h => (nomatch h), fun h => (nomatch h)⟩
  | some spelling =>
      obtain ⟨left, _ | found⟩ := spelling
      · simp [complete, throw, throwThe, MonadExceptOf.throw]
      · simp [complete, pure, Except.pure, and_comm]

/-- What a spelling leaves and its fields, where no spelling before it fits. -/
inductive FirstSpelling (order : DateOrder) (s : List Char) :
    List Char → Option DateFields → Prop where
  | yearFirst {d : NumericDate} (h : yearFirst? s = some d) :
      FirstSpelling order s d.rest (yearFirstFields? d)
  | yearLast {d : NumericDate} (hfirst : yearFirst? s = none) (h : yearLast? s = some d) :
      FirstSpelling order s d.rest (yearLastFields? order d)
  | monthFirst {d : NamedDate} {month : Nat} (hfirst : yearFirst? s = none)
      (hlast : yearLast? s = none) (h : monthFirst? s = some d)
      (hname : monthOfName? d.name = some month) :
      FirstSpelling order s d.rest (namedFields? month d)
  | dayFirst {d : NamedDate} {month : Nat} (hfirst : yearFirst? s = none)
      (hlast : yearLast? s = none) (h : dayFirst? s = some d)
      (hname : monthOfName? d.name = some month) :
      FirstSpelling order s d.rest (namedFields? month d)

/-- A text that begins with a day has no month in front. -/
theorem monthFirst?_eq_none_of_dayFirst? {d : NamedDate} (h : dayFirst? s = some d) :
    monthFirst? s = none :=
  monthFirst?_eq_none (dayFirst?_eq_some_iff.mp h).1

theorem spelling?_eq_some_iff {order : DateOrder} {rest : List Char} {fields : Option DateFields} :
    spelling? order s = some (rest, fields) ↔ FirstSpelling order s rest fields := by
  constructor
  · intro h
    unfold spelling? at h
    cases hfirst : yearFirst? s with
    | some d =>
        rw [hfirst] at h
        cases h
        exact .yearFirst hfirst
    | none =>
        rw [hfirst] at h
        cases hlast : yearLast? s with
        | some d =>
            rw [hlast] at h
            cases h
            exact .yearLast hfirst hlast
        | none =>
            rw [hlast] at h
            obtain ⟨⟨d, month⟩, hnamed, heq⟩ := Option.map_eq_some_iff.mp h
            cases heq
            rw [Option.orElse_eq_orElse, Option.orElse_eq_or, Option.or_eq_some_iff] at hnamed
            rcases hnamed with hnamed | ⟨-, hnamed⟩
            · obtain ⟨hmonth, hname⟩ := named?_eq_some_iff.mp hnamed
              exact .monthFirst hfirst hlast hmonth hname
            · obtain ⟨hday, hname⟩ := named?_eq_some_iff.mp hnamed
              exact .dayFirst hfirst hlast hday hname
  · intro h
    unfold spelling?
    cases h with
    | yearFirst h => rw [h]
    | yearLast hfirst h => rw [hfirst, h]
    | monthFirst hfirst hlast h hname =>
        rw [hfirst, hlast, h, named?_eq_some_iff.mpr ⟨rfl, hname⟩]
        rfl
    | dayFirst hfirst hlast h hname =>
        rw [hfirst, hlast, monthFirst?_eq_none_of_dayFirst? h, h,
          named?_eq_some_iff.mpr ⟨rfl, hname⟩]
        rfl

theorem spelling?_append (hw : EndsDate w) (hend : ∀ d ∈ yearLast? s, endsWord (d.rest ++ w))
    {order : DateOrder} {rest : List Char} {fields : Option DateFields}
    (h : spelling? order s = some (rest, fields)) :
    spelling? order (s ++ w) = some (rest ++ w, fields) := by
  have hyear : yearFirst? s = none → yearFirst? (s ++ w) = none := by
    intro hfirst
    rw [yearFirst?_append hw, hfirst, Option.map_none]
  have hlast' : yearLast? s = none → yearLast? (s ++ w) = none := by
    intro hlast
    rw [yearLast?_append hw, hlast, Option.filter_none, Option.map_none]
  rw [spelling?_eq_some_iff] at h ⊢
  cases h with
  | @yearFirst d h =>
      have happend : yearFirst? (s ++ w) = some (d.append w) := by
        rw [yearFirst?_append hw, h, Option.map_some]
      exact .yearFirst happend
  | @yearLast d hfirst h =>
      have happend : yearLast? (s ++ w) = some (d.append w) := by
        rw [yearLast?_append hw, h, Option.filter_some, if_pos (hend d h), Option.map_some]
      exact .yearLast (hyear hfirst) happend
  | monthFirst hfirst hlast h hname =>
      exact .monthFirst (hyear hfirst) (hlast' hlast) (monthFirst?_append hw.endsDigits h) hname
  | dayFirst hfirst hlast h hname =>
      exact .dayFirst (hyear hfirst) (hlast' hlast) (dayFirst?_append hw.endsDigits h) hname

/-- A date is read off the front of a text whatever type asks for it and whatever stands behind. -/
theorem readDate_append (hw : EndsDate w) (hend : ∀ d ∈ yearLast? s, endsWord (d.rest ++ w))
    {type : WireType} (type' : WireType) {order : DateOrder} {fields : DateFields}
    {rest : List Char} (h : readDate type order s = .ok (fields, rest)) :
    readDate type' order (s ++ w) = .ok (fields, rest ++ w) :=
  readDate_eq_ok_iff.mpr (spelling?_append hw hend (readDate_eq_ok_iff.mp h))

theorem endsWord_of_yearLast? {d : NumericDate} (h : yearLast? s = some d) : endsWord d.rest := by
  dsimp only [yearLast?] at h
  split at h
  · split at h
    · split_ifs at h with hyear
      cases h
      exact hyear.2.2.2.2.2
    · exact nomatch h
  · exact nomatch h

theorem readDate_append_blank (hw : StartsBlank w) {type : WireType} (type' : WireType)
    {order : DateOrder} {fields : DateFields} {rest : List Char}
    (h : readDate type order s = .ok (fields, rest)) :
    readDate type' order (s ++ w) = .ok (fields, rest ++ w) := by
  refine readDate_append (endsDate_of_startsBlank hw) (fun d hd => ?_) type' h
  rw [hw.endsWord_append]
  exact endsWord_of_yearLast? hd

end ScalarWire.Literal
