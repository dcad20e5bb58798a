import ScalarWire.Proofs.Literal.AsciiDate
import ScalarWire.Proofs.Literal.DateSpelling

/-!
# What the order of dates changes

Only a date of three numbers with its year last is read by the order of dates. The two orders with
the year last read such a date alike once day and month change places. With the year first the order
matters only to three numbers of which the first and the last have two digits, and these are read as
if the century stood before them.
-/

namespace ScalarWire.Literal

open Text

/-- A text that begins with two numbers and a year, with the same separator twice. -/
def StartsYearLast (s : List Char) : Prop :=
  ∃ first second year sep rest, IsDigitPair first ∧ IsDigitPair second ∧ IsYear year ∧
    isSeparator sep ∧ EndsDigits rest ∧ s = first ++ sep :: (second ++ sep :: (year ++ rest))

/-- A year of two digits with those of its century before them. -/
def fullYear (digits : List Char) : List Char :=
  (if Numeral.value digits < 70 then ['2', '0'] else ['1', '9']) ++ digits

section numbers

variable {first second year rest : List Char} {sep : Char} (hfirst : IsDigitPair first)
  (hsecond : IsDigitPair second) (hsep : isSeparator sep)

include hfirst hsecond hsep

theorem yearLast?_of_pairs (rest : List Char) :
    yearLast? (first ++ sep :: (second ++ sep :: rest)) =
      let year := splitDigitRun rest
      if (year.1.length = 2 ∨ 4 ≤ year.1.length) ∧ endsWord year.2 then
        some ⟨first, second, year.1, year.2⟩
      else none := by
  simp only [yearLast?, hfirst.splitDigits_sep hsep, hsecond.splitDigits_sep hsep, hsep, hfirst.1,
    hsecond.1, ne_eq, not_false_eq_true, true_and]

/-- Two numbers with a separator behind each can only begin a date that has its year last. -/
theorem spelling?_of_pairs (order : DateOrder) (rest : List Char) :
    spelling? order (first ++ sep :: (second ++ sep :: rest)) =
      (yearLast? (first ++ sep :: (second ++ sep :: rest))).map fun d =>
        (d.rest, yearLastFields? order d) := by
  have hmonth : monthFirst? (first ++ sep :: (second ++ sep :: rest)) = none := by
    apply monthFirst?_eq_none
    rw [hfirst.splitDigits_sep hsep]
    exact hfirst.1
  have hday : dayFirst? (first ++ sep :: (second ++ sep :: rest)) = none := by
    obtain ⟨hne, -, hdigits⟩ := hsecond
    obtain ⟨c, digits, rfl⟩ := List.exists_cons_of_ne_nil hne
    exact dayFirst?_eq_none_of_digit hfirst hsep (hdigits c List.mem_cons_self)
  unfold spelling?
  rw [hfirst.yearFirst?_eq_none hsep, hmonth, hday]
  cases yearLast? (first ++ sep :: (second ++ sep :: rest)) <;> rfl

/-- The orders with the year last differ in which number is the day. -/
theorem spelling?_swap (rest : List Char) :
    spelling? .dmy (first ++ sep :: (second ++ sep :: rest)) =
      spelling? .mdy (second ++ sep :: (first ++ sep :: rest)) := by
  rw [spelling?_of_pairs hfirst hsecond hsep, spelling?_of_pairs hsecond hfirst hsep,
    yearLast?_of_pairs hfirst hsecond hsep, yearLast?_of_pairs hsecond hfirst hsep]
  dsimp only
  split_ifs
  · simp only [Option.map_some, yearLastFields?]
    cases Numeral.read? first <;> cases Numeral.read? second <;>
      cases readYear? (splitDigitRun rest).1 <;> rfl
  · rfl

section year

variable (hyear : IsYear year) (hrest : EndsDigits rest)

include hyear hrest

theorem spelling?_of_year (order : DateOrder) :
    spelling? order (first ++ sep :: (second ++ sep :: (year ++ rest))) =
      if endsWord rest then some (rest, yearLastFields? order ⟨first, second, year, rest⟩)
      else none := by
  rw [spelling?_of_pairs hfirst hsecond hsep, yearLast?_of_pairs hfirst hsecond hsep,
    splitDigitRun_append hyear.2 hrest]
  simp only [hyear.1, true_and]
  split_ifs <;> rfl

theorem spelling?_ymd_eq_mdy (h : ¬(year.length = 2 ∧ first.length = 2)) :
    spelling? .ymd (first ++ sep :: (second ++ sep :: (year ++ rest))) =
      spelling? .mdy (first ++ sep :: (second ++ sep :: (year ++ rest))) := by
  rw [spelling?_of_year hfirst hsecond hsep hyear hrest,
    spelling?_of_year hfirst hsecond hsep hyear hrest]
  simp only [yearLastFields?, if_neg h]

end year

end numbers

section fullYear

variable {first second year rest : List Char} {sep : Char}

/-- Numbers of two digits are less than 100. -/
theorem value_lt_hundred {digits : List Char} {n : Nat} (hlen : digits.length = 2)
    (h : Numeral.read? digits = some n) : n < 100 := by
  obtain ⟨-, hdigits, rfl⟩ := Numeral.read?_eq_some_iff.mp h
  have hvalue := Numeral.value_lt hdigits
  rwa [hlen] at hvalue

/-- A number of two digits fits every word that a year has to fit. -/
theorem readYear?_of_length (hlen : year.length = 2) : readYear? year = Numeral.read? year := by
  unfold readYear?
  cases h : Numeral.read? year with
  | none => rfl
  | some n =>
      have hlt := value_lt_hundred hlen h
      exact if_pos (decide_eq_true (by omega))

theorem value_fullYear (hlen : first.length = 2) :
    Numeral.value (fullYear first) = pivotYear (Numeral.value first) := by
  have htwenty : Numeral.value ['2', '0'] = 20 := rfl
  have hnineteen : Numeral.value ['1', '9'] = 19 := rfl
  unfold fullYear pivotYear
  rw [Numeral.value_append, hlen]
  split_ifs
  · omega
  · omega

theorem read?_fullYear (hlen : first.length = 2) :
    Numeral.read? (fullYear first) = (Numeral.read? first).map pivotYear := by
  have hne : first ≠ [] := List.ne_nil_of_length_pos (by omega)
  have hne' : fullYear first ≠ [] := List.append_ne_nil_of_right_ne_nil _ hne
  have hall : (fullYear first).all Char.isDigit = first.all Char.isDigit := by
    unfold fullYear
    rw [List.all_append]
    split_ifs <;> rfl
  rw [Numeral.read?, Numeral.read?, hall, value_fullYear hlen]
  simp only [hne, hne', ne_eq, not_false_eq_true, true_and]
  split_ifs <;> rfl

theorem readYear?_fullYear (hlen : first.length = 2) :
    readYear? (fullYear first) = (Numeral.read? first).map pivotYear := by
  rw [readYear?, read?_fullYear hlen]
  cases h : Numeral.read? first with
  | none => rfl
  | some n =>
      have hlt := value_lt_hundred hlen h
      have hpivot : pivotYear n < 2100 := by
        unfold pivotYear
        split_ifs <;> omega
      exact if_pos (decide_eq_true (by omega))

theorem isDecimalDigit_of_mem_fullYear (hfirst : ∀ c ∈ first, isDecimalDigit c) :
    ∀ c ∈ fullYear first, isDecimalDigit c := by
  have hcentury : ∀ c ∈ ['2', '0'] ++ ['1', '9'], isDecimalDigit c :=
    List.all_eq_true.mp (by decide)
  intro c hc
  unfold fullYear at hc
  rcases List.mem_append.mp hc with hc | hc
  · apply hcentury
    split_ifs at hc
    · exact List.mem_append_left _ hc
    · exact List.mem_append_right _ hc
  · exact hfirst c hc

theorem length_fullYear (first : List Char) : (fullYear first).length = first.length + 2 := by
  unfold fullYear
  rw [List.length_append]
  split_ifs <;> exact Nat.add_comm _ _

/-- Where the first and the last number have two digits, the year comes first and gets its century
from the pivot. -/
theorem spelling?_ymd_eq_fullYear (hfirst : IsDigitPair first) (hsecond : IsDigitPair second)
    (hsep : isSeparator sep) (hyear : IsYear year) (hrest : EndsDigits rest)
    (hlen : first.length = 2) (hlen' : year.length = 2) (hword : endsWord rest)
    (order : DateOrder) :
    spelling? .ymd (first ++ sep :: (second ++ sep :: (year ++ rest))) =
      spelling? order (fullYear first ++ sep :: (second ++ sep :: (year ++ rest))) := by
  have hyear' : yearFirst? (fullYear first ++ sep :: (second ++ sep :: (year ++ rest))) =
      some ⟨fullYear first, second, year, rest⟩ := by
    have hrun := splitDigitRun_append (isDecimalDigit_of_mem_fullYear hfirst.2.2)
      (endsDigits_sep hsep (second ++ sep :: (year ++ rest)))
    have hday := splitDigits_pair ⟨List.ne_nil_of_length_pos (by omega), hlen'.le, hyear.2⟩ hrest
    simp only [yearFirst?, hrun, hsecond.splitDigits_sep hsep, hday]
    exact if_pos ⟨by rw [length_fullYear, hlen], hsep, hsecond.1, trivial,
      List.ne_nil_of_length_pos (by omega)⟩
  rw [spelling?_of_year hfirst hsecond hsep hyear hrest, if_pos hword]
  unfold spelling?
  rw [hyear']
  simp only [yearLastFields?, yearFirstFields?, hlen, hlen', readYear?_fullYear hlen,
    readYear?_of_length hlen']
  cases Numeral.read? first <;> cases Numeral.read? second <;> cases Numeral.read? year <;> rfl

end fullYear

section order

variable {s tail : List Char} {d : NumericDate}

theorem StartsYearLast.length_splitDigitRun (h : StartsYearLast s) :
    (splitDigitRun s).1.length ≤ 2 := by
  obtain ⟨first, second, year, sep, rest, hfirst, -, -, hsep, -, rfl⟩ := h
  rw [hfirst.splitDigitRun_sep hsep]
  exact hfirst.2.1

/-- Without a year that comes last, the order of dates is not asked for. -/
theorem spelling?_eq_of_yearLast?_eq_none (h : yearLast? s = none) (order order' : DateOrder) :
    spelling? order s = spelling? order' s := by
  unfold spelling?
  rw [h]

theorem endsDigits_append {rest : List Char} (hrest : EndsDigits rest) (htail : EndsDigits tail) :
    EndsDigits (rest ++ tail) := by
  cases rest with
  | nil => exact htail
  | cons c rest => exact hrest

theorem startsYearLast_append (h : yearLast? s = some d) (htail : EndsDigits tail) :
    StartsYearLast (s ++ tail) := by
  obtain ⟨sep, rfl, hsep, hfirst, hsecond, hyear, hrest⟩ := exists_of_yearLast? h
  refine ⟨d.first, d.second, d.third, sep, d.rest ++ tail, hfirst, hsecond, hyear, hsep,
    endsDigits_append hrest htail, ?_⟩
  simp only [List.append_assoc, List.cons_append]

end order

section era

variable {front w : List Char}

/-- The beginning of a text with digits and no blanks. -/
structure IsFront (front : List Char) : Prop where
  digit : ∃ c ∈ front, isDecimalDigit c
  visible : ∀ c ∈ front, isBlank c = false

theorem IsFront.ne_nil (h : IsFront front) : front ≠ [] := by
  obtain ⟨c, hc, -⟩ := h.digit
  exact List.ne_nil_of_mem hc

theorem isFront_numbers {first second year : List Char} {sep : Char} (hne : first ≠ [])
    (hfirst : ∀ c ∈ first, isDecimalDigit c) (hsecond : ∀ c ∈ second, isDecimalDigit c)
    (hyear : ∀ c ∈ year, isDecimalDigit c) (hsep : isSeparator sep) :
    IsFront (first ++ sep :: (second ++ sep :: year)) := by
  obtain ⟨d, hd⟩ := List.exists_mem_of_ne_nil _ hne
  refine ⟨⟨d, List.mem_append_left _ hd, hfirst d hd⟩, fun c hc => ?_⟩
  have hvisible : isBlank sep = false := by
    simp only [isSeparator, Bool.or_eq_true, beq_iff_eq] at hsep
    rcases hsep with (rfl | rfl) | rfl <;> decide
  simp only [List.mem_append, List.mem_cons] at hc
  rcases hc with hc | rfl | hc | rfl | hc
  · exact isBlank_of_isDecimalDigit (hfirst c hc)
  · exact hvisible
  · exact isBlank_of_isDecimalDigit (hsecond c hc)
  · exact hvisible
  · exact isBlank_of_isDecimalDigit (hyear c hc)

theorem IsFront.trim_append (h : IsFront front) (w : List Char) :
    trim (front ++ w) = front ++ trimEnd w := by
  rw [trim, trimStart_eq_self, trimEnd_append_of_visible h.visible]
  intro c hc
  rw [List.head?_append_of_ne_nil _ h.ne_nil] at hc
  exact h.visible c (List.mem_of_head? hc)

theorem IsFront.infinity? (h : IsFront front) (w : List Char) : infinity? (front ++ w) = none := by
  obtain ⟨c, hc, hdigit⟩ := h.digit
  have hmem : c ∈ trim (front ++ w) := by
    rw [h.trim_append]
    exact List.mem_append_left _ hc
  cases hinf : Literal.infinity? (front ++ w) with
  | none => rfl
  | some sign =>
      have hascii := asciiDigits_trim_iff.mpr (asciiDigits_of_infinity? hinf) c hmem hdigit
      exact absurd (hinf.symm.trans (infinity?_eq_none hmem hascii)) (Option.some_ne_none sign)

theorem exists_splitEra (w : List Char) :
    ∃ w' bc, w' <+: w ∧ ∀ front, IsFront front → splitEra (front ++ w) = (front ++ w', bc) := by
  obtain ⟨blanks, -, hw⟩ := exists_eq_trimEnd_append w
  have htrim : trimEnd w <+: w := ⟨blanks, hw.symm⟩
  have hword {front : List Char} (h : IsFront front) := splitLastWord_append h.visible (trimEnd w)
  by_cases hhead : (splitLastWord (trimEnd w)).1 = []
  · refine ⟨trimEnd w, false, htrim, fun front h => ?_⟩
    rw [splitEra_eq, h.trim_append, hword h, if_pos hhead, if_pos rfl]
  have hne {front : List Char} (h : IsFront front) : front ++ (splitLastWord (trimEnd w)).1 ≠ [] :=
    List.append_ne_nil_of_left_ne_nil h.ne_nil _
  cases hmarker : eraMarker? (splitLastWord (trimEnd w)).2 with
  | none =>
      refine ⟨trimEnd w, false, htrim, fun front h => ?_⟩
      rw [splitEra_eq, h.trim_append, hword h, if_neg hhead, if_neg (hne h), hmarker]
      rfl
  | some bc =>
      obtain ⟨gap, -, hgap⟩ := exists_eq_trimEnd_append (splitLastWord (trimEnd w)).1
      have hprefix : trimEnd (splitLastWord (trimEnd w)).1 <+: trimEnd w := by
        refine ⟨gap ++ (splitLastWord (trimEnd w)).2, ?_⟩
        rw [← List.append_assoc, ← hgap, append_splitLastWord]
      refine ⟨trimEnd (splitLastWord (trimEnd w)).1, bc, hprefix.trans htrim, fun front h => ?_⟩
      rw [splitEra_eq, h.trim_append, hword h, if_neg hhead, if_neg (hne h), hmarker]
      exact congrArg (·, bc) (trimEnd_append_of_visible h.visible _)

/-- The era is taken off what stands behind the beginning of a text whatever that beginning is, and
what it leaves of it begins in the same way. -/
theorem exists_splitEra_append (w : List Char) :
    ∃ w' bc, endsWord w' = endsWord w ∧ (EndsDigits w → EndsDigits w') ∧
      ∀ front, IsFront front → splitEra (front ++ w) = (front ++ w', bc) := by
  by_cases hw : StartsBlank w
  · obtain ⟨w', bc, hprefix, hsplit⟩ := exists_splitEra w
    have hw' : StartsBlank w' := by
      intro c hc
      cases w' with
      | nil => cases hc
      | cons d w' =>
          obtain ⟨tail, rfl⟩ := hprefix
          exact hw c hc
    refine ⟨w', bc, ?_, fun _ => hw'.not_decimalDigit, hsplit⟩
    exact (hw'.endsWord_append (s := [])).trans (hw.endsWord_append (s := [])).symm
  · cases w with
    | nil => exact absurd startsBlank_nil hw
    | cons c w =>
        have hc : isBlank c = false := by
          by_contra hblank
          exact hw fun d hd => Option.mem_some.mp hd ▸ eq_true_of_ne_false hblank
        obtain ⟨w', bc, -, hsplit⟩ := exists_splitEra w
        refine ⟨c :: w', bc, rfl, fun h => h, fun front h => ?_⟩
        obtain ⟨d, hd, hdigit⟩ := h.digit
        have hfront : IsFront (front ++ [c]) := by
          refine ⟨⟨d, List.mem_append_left _ hd, hdigit⟩, fun e he => ?_⟩
          rcases List.mem_append.mp he with he | he
          · exact h.visible e he
          · exact List.mem_singleton.mp he ▸ hc
        rw [List.append_cons, hsplit _ hfront, List.append_cons front c w']

/-- The era behind three numbers does not depend on them, and they are no infinity. -/
theorem exists_splitEra_numbers (rest : List Char) :
    ∃ rest' bc, endsWord rest' = endsWord rest ∧ (EndsDigits rest → EndsDigits rest') ∧
      ∀ first second year sep, first ≠ [] → (∀ c ∈ first, isDecimalDigit c) →
        (∀ c ∈ second, isDecimalDigit c) → (∀ c ∈ year, isDecimalDigit c) → isSeparator sep →
        splitEra (first ++ sep :: (second ++ sep :: (year ++ rest))) =
            (first ++ sep :: (second ++ sep :: (year ++ rest')), bc) ∧
          infinity? (first ++ sep :: (second ++ sep :: (year ++ rest))) = none := by
  obtain ⟨rest', bc, hword, hends, hsplit⟩ := exists_splitEra_append rest
  refine ⟨rest', bc, hword, hends, fun first second year sep hne hfirst hsecond hyear hsep => ?_⟩
  have hfront := isFront_numbers hne hfirst hsecond hyear hsep
  have hassoc (w : List Char) : first ++ sep :: (second ++ sep :: (year ++ w)) =
      (first ++ sep :: (second ++ sep :: year)) ++ w := by
    simp only [List.append_assoc, List.cons_append]
  rw [hassoc, hassoc]
  exact ⟨hsplit _ hfront, hfront.infinity? rest⟩

/-- What is taken off with the era stands behind a blank. -/
theorem exists_tail_splitEra (s : List Char) :
    ∃ tail, trim s = (splitEra s).1 ++ tail ∧ StartsBlank tail := by
  rcases splitEra_cases s with h | ⟨blanks, word, bc, hne, hblanks, hs, -⟩
  · exact ⟨[], by rw [h, List.append_nil], startsBlank_nil⟩
  · refine ⟨blanks ++ word, hs, fun c hc => ?_⟩
    rw [List.head?_append_of_ne_nil _ hne] at hc
    exact List.all_eq_true.mp hblanks c (List.mem_of_head? hc)

end era

end ScalarWire.Literal
