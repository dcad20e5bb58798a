import ScalarWire.Proofs.Literal.Date
import ScalarWire.Proofs.Literal.Joint
import ScalarWire.Proofs.Zone.Token
import ScalarWire.Zone.Excerpt

/-!
# The spellings of a date

The spellings with numbers only, with the year first or last, and those with the name of a month.
No spelling is taken for another one, so each means the date of its fields and, where no date has
them, is out of range.
-/

namespace ScalarWire

open Text

namespace Literal

/-- One or two digits for a month or a day. -/
def SpellsNumber (n : Nat) (digits : List Char) : Prop :=
  IsClockField digits ∧ Numeral.value digits = n

/-- Four digits or more for a year. -/
def SpellsYear (year : Nat) (digits : List Char) : Prop :=
  4 ≤ digits.length ∧ (∀ c ∈ digits, c.isDigit) ∧ Numeral.value digits = year

/-- Three letters or more from the start of a month's name, in any case. -/
def SpellsMonth (month : Nat) (name : List Char) : Prop :=
  ∃ i full, month = i + 1 ∧ monthNames[i]? = some full ∧ lower name <+: full ∧ 3 ≤ name.length

/-- A comma, blanks, or a comma with blanks around it. -/
def IsCommaGap (gap : List Char) : Prop :=
  gap ≠ [] ∧ ∃ before behind, isBlankText before ∧ isBlankText behind ∧
    (gap = before ++ behind ∨ gap = before ++ ',' :: behind)

/-- A run of blanks and hyphens. -/
def IsHyphenGap (gap : List Char) : Prop :=
  gap ≠ [] ∧ ∀ c ∈ gap, isBlank c ∨ c = '-'

/-- The spellings of a date under an order of day and month, without an era. -/
inductive SpellsDate (order : DateOrder) (year month day : Nat) : List Char → Prop where
  | yearFirst {y m d : List Char} {sep : Char} (hsep : isSeparator sep) (hy : SpellsYear year y)
      (hm : SpellsNumber month m) (hd : SpellsNumber day d) :
      SpellsDate order year month day (y ++ sep :: (m ++ sep :: d))
  | dayFirst {y m d : List Char} {sep : Char} (horder : order = .dmy) (hsep : isSeparator sep)
      (hy : SpellsYear year y) (hm : SpellsNumber month m) (hd : SpellsNumber day d) :
      SpellsDate order year month day (d ++ sep :: (m ++ sep :: y))
  | monthFirst {y m d : List Char} {sep : Char} (horder : order ≠ .dmy) (hsep : isSeparator sep)
      (hy : SpellsYear year y) (hm : SpellsNumber month m) (hd : SpellsNumber day d) :
      SpellsDate order year month day (m ++ sep :: (d ++ sep :: y))
  | nameFirst {y d name stop blanks gap : List Char} (hy : SpellsYear year y)
      (hd : SpellsNumber day d) (hname : SpellsMonth month name) (hstop : stop = [] ∨ stop = ['.'])
      (hblanks : isBlankText blanks) (hgap : IsCommaGap gap) :
      SpellsDate order year month day (name ++ (stop ++ (blanks ++ (d ++ (gap ++ y)))))
  | nameBetween {y d name stop gap gap' : List Char} (hy : SpellsYear year y)
      (hd : SpellsNumber day d) (hname : SpellsMonth month name) (hstop : stop = [] ∨ stop = ['.'])
      (hgap : IsHyphenGap gap) (hgap' : IsHyphenGap gap') :
      SpellsDate order year month day (d ++ (gap ++ (name ++ (stop ++ (gap' ++ y)))))

/-- The markers of an era. -/
def eraMarkers (bc : Bool) : List (List Char) :=
  if bc then ["BC".toList, "B.C.".toList] else ["AD".toList, "A.D.".toList]

/-- The spellings of an era behind a date, in any letter case. -/
inductive SpellsEra : Bool → List Char → Prop where
  | none : SpellsEra false []
  | marker {bc : Bool} {blanks word marker : List Char} (hne : blanks ≠ [])
      (hblanks : isBlankText blanks) (hmarker : marker ∈ eraMarkers bc)
      (hword : sameFold word marker) : SpellsEra bc (blanks ++ word)

section fields

variable {n year month : Nat} {digits name rest : List Char}

theorem SpellsNumber.splitDigits (h : SpellsNumber n digits) (hrest : EndsDigits rest) :
    splitDigits 2 (digits ++ rest) = (digits, rest) :=
  splitDigits_pair h.1.isDigitPair hrest

theorem SpellsNumber.read? (h : SpellsNumber n digits) : Numeral.read? digits = some n :=
  Numeral.read?_eq_some_iff.mpr ⟨h.1.1, h.1.2.2, h.2⟩

namespace SpellsYear

theorem ne_nil (h : SpellsYear year digits) : digits ≠ [] :=
  List.ne_nil_of_length_pos (by have := h.1; omega)

theorem splitDigitRun (h : SpellsYear year digits) (hrest : EndsDigits rest) :
    splitDigitRun (digits ++ rest) = (digits, rest) :=
  splitDigitRun_append (fun c hc => isDecimalDigit_of_isDigit (h.2.1 c hc)) hrest

theorem readYear? (h : SpellsYear year digits) :
    readYear? digits = if year < 0x80000000 then some year else none := by
  rw [Literal.readYear?, Numeral.read?_eq_some_iff.mpr ⟨h.ne_nil, h.2⟩, Option.filter_some]
  simp only [decide_eq_true_eq]

theorem isDigit_head (h : SpellsYear year digits) : ∀ c ∈ digits.head?, c.isDigit :=
  fun c hc => h.2.1 c (List.mem_of_head? hc)

end SpellsYear

/-- The names of months are letters, nine at most. -/
theorem monthNames_all : ∀ full ∈ monthNames, full.length ≤ 9 ∧ full.all foldsToLetter := by
  decide

namespace SpellsMonth

theorem length_le (h : SpellsMonth month name) : name.length ≤ 9 := by
  obtain ⟨i, full, -, hfull, hprefix, -⟩ := h
  have hlen := hprefix.length_le
  rw [length_lower] at hlen
  exact hlen.trans (monthNames_all full (List.mem_of_getElem? hfull)).1

theorem letters (h : SpellsMonth month name) : ∀ c ∈ name, foldsToLetter c := by
  obtain ⟨i, full, -, hfull, hprefix, -⟩ := h
  intro c hc
  have hmem : c.toLower ∈ full := hprefix.subset (List.mem_map_of_mem hc)
  have hletters := (monthNames_all full (List.mem_of_getElem? hfull)).2
  rw [← foldsToLetter_toLower]
  exact List.all_eq_true.mp hletters _ hmem

theorem ne_nil (h : SpellsMonth month name) : name ≠ [] := by
  obtain ⟨-, -, -, -, -, hlen⟩ := h
  exact List.ne_nil_of_length_pos (by omega)

theorem head (h : SpellsMonth month name) (rest : List Char) :
    ∀ c ∈ (name ++ rest).head?, foldsToLetter c := by
  intro c hc
  rw [List.head?_append_of_ne_nil _ h.ne_nil] at hc
  exact h.letters c (List.mem_of_head? hc)

/-- No three letters begin the names of two months. -/
theorem monthOfName? (h : SpellsMonth month name) : monthOfName? name = some month := by
  have hfirst : ∀ i < 12, ∀ n < 10, 3 ≤ n →
      monthNames.findIdx? (fun full => ((monthNames.getD i []).take n).isPrefixOf full) = some i := by
    decide
  have hle := h.length_le
  obtain ⟨i, full, rfl, hfull, hprefix, hlen⟩ := h
  have hi : i < 12 := (List.getElem?_eq_some_iff.mp hfull).1
  have hname : lower name = (monthNames.getD i []).take name.length := by
    rw [List.getD_eq_getElem?_getD, hfull, Option.getD_some, ← length_lower name]
    exact List.prefix_iff_eq_take.mp hprefix
  rw [Literal.monthOfName?, if_neg (by omega), hname, hfirst i hi name.length (by omega) hlen]
  rfl

/-- The name of a month is what ends before something else than a letter, and before a full stop. -/
theorem splitName? {stop : List Char} (h : SpellsMonth month name)
    (hstop : stop = [] ∨ stop = ['.'])
    (hrest : ∀ c ∈ rest.head?, foldsToLetter c = false ∧ c ≠ '.') :
    splitName? (name ++ (stop ++ rest)) = some (name, rest) := by
  have hends : ∀ c ∈ (stop ++ rest).head?, foldsToLetter c = false := by
    rcases hstop with rfl | rfl
    · exact fun c hc => (hrest c hc).1
    · intro c hc
      cases hc
      decide
  have hletters := h.letters
  have hlen := h.length_le
  obtain ⟨-, -, -, -, -, hlen'⟩ := h
  simp only [Literal.splitName?, takeWhile_append_of_head? hletters hends,
    dropWhile_append_of_head? hletters hends]
  rw [if_pos ⟨hlen', hlen⟩]
  rcases hstop with rfl | rfl
  · rw [List.nil_append]
    split
    · exact absurd rfl (hrest '.' rfl).2
    · rfl
  · rfl

end SpellsMonth

end fields

section gaps

variable {gap rest : List Char} {c : Char}

theorem classes_of_isDigit (h : c.isDigit) :
    isBlank c = false ∧ foldsToLetter c = false ∧ c ≠ '.' ∧ c ≠ ',' ∧ c ≠ '-' := by
  refine ⟨isBlank_of_isDigit h, foldsToLetter_of_isDecimalDigit (isDecimalDigit_of_isDigit h), ?_⟩
  refine ⟨?_, ?_, ?_⟩ <;> rintro rfl <;> exact absurd h (by decide)

theorem isDigit_head_append {digits : List Char} (hne : digits ≠ [])
    (hdigits : ∀ c ∈ digits, c.isDigit) (rest : List Char) :
    ∀ c ∈ (digits ++ rest).head?, c.isDigit := by
  intro c hc
  rw [List.head?_append_of_ne_nil _ hne] at hc
  exact hdigits c (List.mem_of_head? hc)

theorem trimStart_of_isDigit (hrest : ∀ c ∈ rest.head?, c.isDigit) : trimStart rest = rest :=
  trimStart_eq_self fun c hc => isBlank_of_isDigit (hrest c hc)

theorem IsCommaGap.head (h : IsCommaGap gap) : ∀ c ∈ (gap ++ rest).head?, isBlank c ∨ c = ',' := by
  obtain ⟨hne, before, behind, hbefore, hbehind, hgap⟩ := h
  intro c hc
  rw [List.head?_append_of_ne_nil _ hne] at hc
  have hmem := List.mem_of_head? hc
  rcases hgap with rfl | rfl
  · rcases List.mem_append.mp hmem with hmem | hmem
    · exact Or.inl (List.all_eq_true.mp hbefore c hmem)
    · exact Or.inl (List.all_eq_true.mp hbehind c hmem)
  · rcases List.mem_append.mp hmem with hmem | hmem
    · exact Or.inl (List.all_eq_true.mp hbefore c hmem)
    · rcases List.mem_cons.mp hmem with rfl | hmem
      · exact Or.inr rfl
      · exact Or.inl (List.all_eq_true.mp hbehind c hmem)

theorem IsHyphenGap.head (h : IsHyphenGap gap) :
    ∀ c ∈ (gap ++ rest).head?, isBlank c ∨ c = '-' := by
  intro c hc
  rw [List.head?_append_of_ne_nil _ h.1] at hc
  exact h.2 c (List.mem_of_head? hc)

/-- No blank, comma or hyphen goes on with a number, a name or a full stop. -/
theorem classes_of_gap (h : isBlank c ∨ c = ',' ∨ c = '-') :
    isDecimalDigit c = false ∧ foldsToLetter c = false ∧ c ≠ '.' := by
  rcases h with hblank | rfl | rfl
  · obtain ⟨hdigit, hletter, -⟩ := classes_of_isBlank hblank
    refine ⟨hdigit, hletter, ?_⟩
    rintro rfl
    exact absurd hblank (by decide)
  all_goals decide

theorem dropOrdinal_of_head {s : List Char} (h : ∀ c ∈ s.head?, foldsToLetter c = false) :
    dropOrdinal s = s := by
  refine if_neg fun hending => ?_
  cases s with
  | nil => exact absurd hending (by decide)
  | cons c s =>
      have hletter := foldsToLetter_of_mem_ending hending List.mem_cons_self
      rw [h c rfl] at hletter
      exact Bool.false_ne_true hletter

theorem IsCommaGap.dropDayEnd (h : IsCommaGap gap) (hrest : ∀ c ∈ rest.head?, c.isDigit) :
    dropDayEnd (gap ++ rest) = rest := by
  have hstart := trimStart_of_isDigit hrest
  have hcomma : dropComma rest = rest := by
    unfold dropComma
    split
    · exact absurd (hrest ',' rfl) (by decide)
    · rfl
  rw [Literal.dropDayEnd, dropOrdinal_of_head]
  · obtain ⟨-, before, behind, hbefore, hbehind, rfl | rfl⟩ := h
    · rw [List.append_assoc, trimStart_append_of_blank hbefore, trimStart_append_of_blank hbehind,
        hstart, hcomma, hstart]
    · have hvisible : trimStart (',' :: (behind ++ rest)) = ',' :: (behind ++ rest) :=
        trimStart_eq_self fun c hc => by cases hc; decide
      rw [List.append_assoc, trimStart_append_of_blank hbefore, List.cons_append, hvisible,
        dropComma, trimStart_append_of_blank hbehind, hstart]
  · exact fun c hc => (classes_of_gap ((h.head c hc).imp_right Or.inl)).2.1

theorem IsHyphenGap.dropGap? (h : IsHyphenGap gap) (commas : Bool)
    (hrest : ∀ c ∈ rest.head?, isBlank c = false ∧ c ≠ '-' ∧ c ≠ ',') :
    dropGap? commas (gap ++ rest) = some rest := by
  have hgap : ∀ c ∈ gap, (isBlank c || c == '-' || commas && c == ',') := by
    intro c hc
    rcases h.2 c hc with hblank | rfl
    · rw [hblank]
      rfl
    · simp
  have hends : ∀ c ∈ rest.head?, (isBlank c || c == '-' || commas && c == ',') = false := by
    intro c hc
    obtain ⟨hblank, hhyphen, hcomma⟩ := hrest c hc
    simp [hblank, hhyphen, hcomma]
  simp only [Literal.dropGap?, takeWhile_append_of_head? hgap hends,
    dropWhile_append_of_head? hgap hends]
  exact if_neg (by simpa using h.1)

end gaps

section spelling

variable {order : DateOrder} {year month day : Nat} {y m d name stop blanks gap gap' : List Char}
  {sep : Char}

theorem splitDigits_of_endsDigits {s : List Char} (h : EndsDigits s) :
    splitDigits 2 s = ([], s) :=
  @splitDigits_append 2 [] s (fun _ hc => nomatch hc) (Nat.zero_le 2) fun _ => h

theorem splitDigitRun_of_endsDigits {s : List Char} (h : EndsDigits s) :
    splitDigitRun s = ([], s) :=
  @splitDigitRun_append [] s (fun _ hc => nomatch hc) h

theorem SpellsNumber.splitDigits_sep {n : Nat} {digits : List Char} (h : SpellsNumber n digits)
    (hsep : isSeparator sep) (rest : List Char) :
    Literal.splitDigits 2 (digits ++ sep :: rest) = (digits, sep :: rest) :=
  h.splitDigits (endsDigits_sep hsep rest)

theorem yearFirst?_of_spells (hsep : isSeparator sep) (hy : SpellsYear year y)
    (hm : SpellsNumber month m) (hd : SpellsNumber day d) :
    yearFirst? (y ++ sep :: (m ++ sep :: d)) = some ⟨y, m, d, []⟩ := by
  have hyear := hy.splitDigitRun (endsDigits_sep hsep (m ++ sep :: d))
  have hday := hd.splitDigits endsDigits_nil
  rw [List.append_nil] at hday
  simp only [yearFirst?, hyear, hm.splitDigits_sep hsep, hday]
  exact if_pos ⟨hy.1, hsep, hm.1.1, trivial, hd.1.1⟩

/-- Two numbers and a year, of which the order tells what they are. -/
theorem yearLast?_of_spells {k l : Nat} {first second : List Char} (hsep : isSeparator sep)
    (hfirst : SpellsNumber k first) (hsecond : SpellsNumber l second) (hy : SpellsYear year y) :
    yearLast? (first ++ sep :: (second ++ sep :: y)) = some ⟨first, second, y, []⟩ := by
  have hyear := hy.splitDigitRun endsDigits_nil
  rw [List.append_nil] at hyear
  simp only [yearLast?, hfirst.splitDigits_sep hsep, hsecond.splitDigits_sep hsep, hyear]
  exact if_pos ⟨hfirst.1.1, hsep, hsecond.1.1, trivial, Or.inr hy.1, rfl⟩

theorem yearLastFields?_of_spells (order : DateOrder) {k l : Nat} {first second : List Char}
    (hfirst : SpellsNumber k first) (hsecond : SpellsNumber l second) (hy : SpellsYear year y) :
    yearLastFields? order ⟨first, second, y, []⟩ =
      if year < 0x80000000 then
        some (if order = .dmy then ⟨year, l, k⟩ else ⟨year, k, l⟩)
      else none := by
  have hlen : y.length ≠ 2 := by have := hy.1; omega
  have hshort : ¬(y.length = 2 ∧ first.length = 2) := fun h => hlen h.1
  simp only [yearLastFields?, hfirst.read?, hsecond.read?, hy.readYear?, if_neg hlen,
    if_neg hshort]
  by_cases hyear : year < 0x80000000
  · rw [if_pos hyear, if_pos hyear]
    cases order <;> rfl
  · rw [if_neg hyear, if_neg hyear]
    rfl

theorem yearFirst?_eq_none_of_length {s : List Char} (h : (splitDigitRun s).1.length < 4) :
    yearFirst? s = none := by
  simp only [yearFirst?]
  split
  · split
    · exact if_neg fun hfields => absurd hfields.1 (by omega)
    · rfl
  · rfl

theorem yearLast?_eq_none_of_first {s : List Char} (h : (splitDigits 2 s).1 = []) :
    yearLast? s = none := by
  simp only [yearLast?]
  split
  · split
    · exact if_neg fun hfields => hfields.1 h
    · rfl
  · rfl

theorem yearLast?_eq_none_of_second {s first behind : List Char}
    (h : splitDigits 2 s = (first, sep :: behind)) (hbehind : EndsDigits behind) :
    yearLast? s = none := by
  simp only [yearLast?, h, splitDigits_of_endsDigits hbehind]
  split
  · exact if_neg fun hfields => hfields.2.2.1 rfl
  · rfl

theorem monthFirst?_of_spells (hy : SpellsYear year y) (hd : SpellsNumber day d)
    (hname : SpellsMonth month name) (hstop : stop = [] ∨ stop = ['.'])
    (hblanks : isBlankText blanks) (hgap : IsCommaGap gap) :
    monthFirst? (name ++ (stop ++ (blanks ++ (d ++ (gap ++ y))))) = some ⟨name, d, y, []⟩ := by
  have hday := isDigit_head_append hd.1.1 hd.1.2.2 (gap ++ y)
  have hhead : ∀ c ∈ (blanks ++ (d ++ (gap ++ y))).head?, foldsToLetter c = false ∧ c ≠ '.' := by
    intro c hc
    cases blanks with
    | nil =>
        obtain ⟨-, hletter, hpoint, -⟩ := classes_of_isDigit (hday c hc)
        exact ⟨hletter, hpoint⟩
    | cons b blanks =>
        cases hc
        exact (classes_of_gap (Or.inl (List.all_eq_true.mp hblanks c List.mem_cons_self))).2
  have hends : EndsDigits (gap ++ y) :=
    fun c hc => (classes_of_gap ((hgap.head c hc).imp_right Or.inl)).1
  have hyear := hy.splitDigitRun endsDigits_nil
  rw [List.append_nil] at hyear
  simp only [monthFirst?, dropDayEnd_eq, hname.splitName? hstop hhead, Option.bind_some,
    trimStart_append_of_blank hblanks, trimStart_of_isDigit hday,
    splitDigitRun_append hd.1.isDigitPair.2.2 hends, hgap.dropDayEnd hy.isDigit_head, hyear]
  obtain ⟨⟨hne, hlen, -⟩, -⟩ := hd
  have hcount : ¬(d = [] ∨ d.length = 3 ∨ d.length = 4) := by
    rintro (hnil | hthree)
    · exact hne hnil
    · omega
  rw [if_neg hcount, if_pos hlen, if_pos hy.1]

theorem dayFirst?_of_spells (hy : SpellsYear year y) (hd : SpellsNumber day d)
    (hname : SpellsMonth month name) (hstop : stop = [] ∨ stop = ['.']) (hgap : IsHyphenGap gap)
    (hgap' : IsHyphenGap gap') :
    dayFirst? (d ++ (gap ++ (name ++ (stop ++ (gap' ++ y))))) = some ⟨name, d, y, []⟩ := by
  have hends : EndsDigits (gap ++ (name ++ (stop ++ (gap' ++ y)))) :=
    fun c hc => (classes_of_gap ((hgap.head c hc).imp_right Or.inr)).1
  have hday := hd.splitDigits hends
  have hyear := hy.splitDigitRun endsDigits_nil
  rw [List.append_nil] at hyear
  refine dayFirst?_eq_some_iff.mpr
    ⟨?_, name ++ (stop ++ (gap' ++ y)), name, gap' ++ y, y, ?_, ?_, ?_, ?_, ?_⟩
  · rw [hday]
    exact hd.1.1
  · rw [hday]
    refine hgap.dropGap? false fun c hc => ?_
    have hletter := hname.head _ c hc
    refine ⟨(classes_of_foldsToLetter hletter).2, ?_, ?_⟩
    · rintro rfl
      exact absurd hletter (by decide)
    · rintro rfl
      exact absurd hletter (by decide)
  · refine hname.splitName? hstop fun c hc => ?_
    exact (classes_of_gap ((hgap'.head c hc).imp_right Or.inr)).2
  · refine hgap'.dropGap? true fun c hc => ?_
    obtain ⟨hblank, -, -, hcomma, hhyphen⟩ := classes_of_isDigit (hy.isDigit_head c hc)
    exact ⟨hblank, hhyphen, hcomma⟩
  · rw [hyear]
    exact hy.1
  · rw [hday, hyear]

theorem namedFields?_of_spells (hy : SpellsYear year y) (hd : SpellsNumber day d) :
    namedFields? month ⟨name, d, y, []⟩ =
      if year < 0x80000000 then some ⟨year, month, day⟩ else none := by
  simp only [namedFields?, hy.readYear?, hd.read?]
  split_ifs <;> rfl

theorem yearFirstFields?_of_spells (hy : SpellsYear year y) (hm : SpellsNumber month m)
    (hd : SpellsNumber day d) :
    yearFirstFields? ⟨y, m, d, []⟩ =
      if year < 0x80000000 then some ⟨year, month, day⟩ else none := by
  simp only [yearFirstFields?, hy.readYear?, hm.read?, hd.read?]
  split_ifs <;> rfl

/-- Every spelling is found as such and leaves nothing. Only a year too large for its word keeps
the fields from being read. -/
theorem spelling?_of_spellsDate {s : List Char} (h : SpellsDate order year month day s) :
    spelling? order s =
      some ([], if year < 0x80000000 then some ⟨year, month, day⟩ else none) := by
  rw [spelling?_eq_some_iff]
  cases h with
  | yearFirst hsep hy hm hd =>
      rw [← yearFirstFields?_of_spells hy hm hd]
      exact .yearFirst (yearFirst?_of_spells hsep hy hm hd)
  | dayFirst horder hsep hy hm hd =>
      have hlast := yearLast?_of_spells hsep hd hm hy
      have hfields := yearLastFields?_of_spells order hd hm hy
      rw [if_pos horder] at hfields
      rw [← hfields]
      exact .yearLast (yearFirst?_eq_none_of_yearLast? hlast) hlast
  | monthFirst horder hsep hy hm hd =>
      have hlast := yearLast?_of_spells hsep hm hd hy
      have hfields := yearLastFields?_of_spells order hm hd hy
      rw [if_neg horder] at hfields
      rw [← hfields]
      exact .yearLast (yearFirst?_eq_none_of_yearLast? hlast) hlast
  | @nameFirst y d name stop blanks gap hy hd hname hstop hblanks hgap =>
      have hends : EndsDigits (name ++ (stop ++ (blanks ++ (d ++ (gap ++ y))))) :=
        fun c hc => (classes_of_foldsToLetter (hname.head _ c hc)).1
      have hfirst : yearFirst? (name ++ (stop ++ (blanks ++ (d ++ (gap ++ y))))) = none := by
        apply yearFirst?_eq_none_of_length
        rw [splitDigitRun_of_endsDigits hends]
        exact Nat.zero_lt_succ 3
      have hlast : yearLast? (name ++ (stop ++ (blanks ++ (d ++ (gap ++ y))))) = none :=
        yearLast?_eq_none_of_first (by rw [splitDigits_of_endsDigits hends])
      rw [← namedFields?_of_spells hy hd]
      exact .monthFirst hfirst hlast (monthFirst?_of_spells hy hd hname hstop hblanks hgap)
        hname.monthOfName?
  | @nameBetween y d name stop gap gap' hy hd hname hstop hgap hgap' =>
      have hends : EndsDigits (gap ++ (name ++ (stop ++ (gap' ++ y)))) :=
        fun c hc => (classes_of_gap ((hgap.head c hc).imp_right Or.inr)).1
      have hfirst : yearFirst? (d ++ (gap ++ (name ++ (stop ++ (gap' ++ y))))) = none := by
        apply yearFirst?_eq_none_of_length
        rw [splitDigitRun_append hd.1.isDigitPair.2.2 hends]
        exact Nat.lt_of_le_of_lt hd.1.2.1 (by decide)
      have hlast : yearLast? (d ++ (gap ++ (name ++ (stop ++ (gap' ++ y))))) = none := by
        -- Behind the first character of a gap stands no digit, so no second number.
        have hfield := hd.splitDigits hends
        obtain ⟨sep, gap, rfl⟩ := List.exists_cons_of_ne_nil hgap.1
        refine yearLast?_eq_none_of_second hfield fun c hc => ?_
        cases gap with
        | nil => exact (classes_of_foldsToLetter (hname.head _ c hc)).1
        | cons b gap =>
            cases hc
            exact (classes_of_gap ((hgap.2 c (by simp)).imp_right Or.inr)).1
      rw [← namedFields?_of_spells hy hd]
      exact .dayFirst hfirst hlast (dayFirst?_of_spells hy hd hname hstop hgap hgap')
        hname.monthOfName?

end spelling

section era

variable {order : DateOrder} {year month day : Nat} {s era : List Char} {bc : Bool}

theorem lastDigit_of_digits (front : List Char) {digits : List Char} (hs : s = front ++ digits)
    (hhead : ∀ c ∈ s.head?, isBlank c = false) (hne : digits ≠ [])
    (hdigits : ∀ c ∈ digits, c.isDigit) : LastDigit s := by
  refine ⟨hhead, digits.getLast hne, ?_, hdigits _ (List.getLast_mem hne)⟩
  rw [hs, List.getLast?_append_of_ne_nil _ hne, List.getLast?_eq_some_getLast hne]

theorem isBlank_head_append {digits : List Char} (hne : digits ≠ [])
    (hdigits : ∀ c ∈ digits, c.isDigit) (rest : List Char) :
    ∀ c ∈ (digits ++ rest).head?, isBlank c = false :=
  fun c hc => isBlank_of_isDigit (isDigit_head_append hne hdigits rest c hc)

/-- A spelling ends in the digits of a day or a year. -/
theorem lastDigit_of_spellsDate (h : SpellsDate order year month day s) : LastDigit s := by
  cases h with
  | @yearFirst y m d sep hsep hy hm hd =>
      exact lastDigit_of_digits (y ++ sep :: (m ++ [sep])) (by simp)
        (isBlank_head_append hy.ne_nil hy.2.1 _) hd.1.1 hd.1.2.2
  | @dayFirst y m d sep horder hsep hy hm hd =>
      exact lastDigit_of_digits (d ++ sep :: (m ++ [sep])) (by simp)
        (isBlank_head_append hd.1.1 hd.1.2.2 _) hy.ne_nil hy.2.1
  | @monthFirst y m d sep horder hsep hy hm hd =>
      exact lastDigit_of_digits (m ++ sep :: (d ++ [sep])) (by simp)
        (isBlank_head_append hm.1.1 hm.1.2.2 _) hy.ne_nil hy.2.1
  | @nameFirst y d name stop blanks gap hy hd hname hstop hblanks hgap =>
      refine lastDigit_of_digits (name ++ (stop ++ (blanks ++ (d ++ gap)))) (by simp) ?_
        hy.ne_nil hy.2.1
      exact fun c hc => (classes_of_foldsToLetter (hname.head _ c hc)).2
  | @nameBetween y d name stop gap gap' hy hd hname hstop hgap hgap' =>
      exact lastDigit_of_digits (d ++ (gap ++ (name ++ (stop ++ gap')))) (by simp)
        (isBlank_head_append hd.1.1 hd.1.2.2 _) hy.ne_nil hy.2.1

theorem eraMarker?_of_marker {word marker : List Char} (hmarker : marker ∈ eraMarkers bc)
    (hword : sameFold word marker) : eraMarker? word = some bc := by
  have hmarkers : ∀ bc, ∀ marker ∈ eraMarkers bc, eraMarker? (lower marker) = some bc := by decide
  rw [← eraMarker?_lower, beq_iff_eq.mp hword]
  exact hmarkers bc marker hmarker

/-- The era is split off any text that ends in a digit. -/
theorem splitEra_of_spellsEra (hs : LastDigit s) (h : SpellsEra bc era) :
    infinity? (s ++ era) = none ∧ splitEra (s ++ era) = (s, bc) := by
  cases h with
  | none =>
      rw [List.append_nil]
      exact ⟨infinity?_of_lastDigit hs, splitEra_of_lastDigit hs⟩
  | marker hne hblanks hmarker hword =>
      have hera := eraMarker?_of_marker hmarker hword
      exact ⟨infinity?_append_marker hs hera, splitEra_append_marker hs hne hblanks hera⟩

theorem toDate?_eq_some_iff {date : Date} :
    DateFields.toDate? bc ⟨year, month, day⟩ = some date ↔
      eraYear date.year = (year, bc) ∧ date.month = month ∧ date.day = day := by
  constructor
  · intro h
    rw [DateFields.toDate?] at h
    obtain ⟨hzero, h⟩ := Option.ite_none_left_eq_some.mp h
    obtain ⟨hyear, hmonth, hday⟩ := Date.of_ofFields?_eq_some h
    refine ⟨?_, hmonth, hday⟩
    rw [eraYear, hyear]
    dsimp only at hzero ⊢
    cases bc with
    | true =>
        rw [if_pos rfl, if_pos (by omega)]
        exact congrArg (·, true) (by omega)
    | false =>
        rw [if_neg Bool.false_ne_true, if_neg (by omega)]
        exact congrArg (·, false) (by omega)
  · rintro ⟨hyear, rfl, rfl⟩
    have h := toDate?_isoFields date
    rwa [hyear] at h

end era

end Literal

open Literal

namespace Date

/-- A spelling that is found and leaves nothing settles what a date is read as. -/
theorem ofText_of_spelling? {ctx : Context} {s body : List Char} {bc : Bool}
    {found : Option DateFields} (hinf : infinity? s = none) (hera : splitEra s = (body, bc))
    (h : spelling? ctx.dateOrder body = some ([], found)) :
    ofText ctx s = complete .date body [] found >>= fun (fields, _) => dayOf .date s bc fields := by
  simp only [ofText, hinf, hera, readDate_eq, h]
  cases found <;> rfl

/-- A date in any of its spellings, with an era behind it or without, is read as the date that has
its fields. If no date has them, above all if the year is 0, it is out of range. -/
theorem ofText_of_spellsDate (ctx : Context) {year month day : Nat} {bc : Bool}
    {s era : List Char} (hs : SpellsDate ctx.dateOrder year month day s) (hera : SpellsEra bc era) :
    (∀ date : Date, eraYear date.year = (year, bc) → date.month = month → date.day = day →
      ofText ctx (s ++ era) = .ok date) ∧
    ((year = 0 ∨ ∀ date : Date,
        ¬(eraYear date.year = (year, bc) ∧ date.month = month ∧ date.day = day)) →
      ∃ text, ofText ctx (s ++ era) = .error (.outOfRange .date text)) := by
  obtain ⟨hinf, hsplit⟩ := splitEra_of_spellsEra (lastDigit_of_spellsDate hs) hera
  rw [ofText_of_spelling? hinf hsplit (spelling?_of_spellsDate hs)]
  constructor
  · intro date hyear hmonth hday
    have hlt : year < 0x80000000 := by
      have := eraYear_lt date
      rwa [hyear] at this
    rw [if_pos hlt]
    exact dayOf_eq_ok_iff.mpr (toDate?_eq_some_iff.mpr ⟨hyear, hmonth, hday⟩)
  · intro hnone
    have hday : DateFields.toDate? bc ⟨year, month, day⟩ = none := by
      rcases hnone with rfl | hnone
      · rfl
      · rw [Option.eq_none_iff_forall_ne_some]
        exact fun date hdate => hnone date (toDate?_eq_some_iff.mp hdate)
    split_ifs
    · refine ⟨String.ofList (s ++ era), ?_⟩
      change dayOf .date (s ++ era) bc ⟨year, month, day⟩ = _
      rw [dayOf, hday]
      rfl
    · exact ⟨_, rfl⟩

/-- The leap day of 5 BC with its month in the middle, and the day that 4 BC lacks. -/
theorem ofText_leap_day_bc :
    let ctx : Context := ⟨.ymd, .builtin, .excerpt, .fixed .utc⟩
    let leap := "29-fEb. 0005".toList
    let missing := "Febr 29, 0004".toList
    let era := " b.C.".toList
    SpellsDate .ymd 5 2 29 leap ∧ SpellsDate .ymd 4 2 29 missing ∧ SpellsEra true era ∧
      ofText ctx (leap ++ era) = .ok ⟨-4, 2, 29, by decide⟩ ∧
      ∃ text, ofText ctx (missing ++ era) = .error (.outOfRange .date text) := by
  intro ctx leap missing era
  have hday : SpellsNumber 29 "29".toList :=
    ⟨⟨by decide, by decide, List.all_eq_true.mp rfl⟩, by decide⟩
  have hleap : SpellsDate .ymd 5 2 29 leap :=
    @SpellsDate.nameBetween .ymd 5 2 29 "0005".toList "29".toList "fEb".toList ['.'] ['-'] [' ']
      ⟨by decide, List.all_eq_true.mp rfl, by decide⟩ hday
      ⟨1, "february".toList, rfl, rfl, by decide, by decide⟩ (Or.inr rfl)
      ⟨by decide, List.forall_mem_singleton.mpr (Or.inr rfl)⟩
      ⟨by decide, List.forall_mem_singleton.mpr (Or.inl rfl)⟩
  have hmissing : SpellsDate .ymd 4 2 29 missing :=
    @SpellsDate.nameFirst .ymd 4 2 29 "0004".toList "29".toList "Febr".toList [] [' '] [',', ' ']
      ⟨by decide, List.all_eq_true.mp rfl, by decide⟩ hday
      ⟨1, "february".toList, rfl, rfl, by decide, by decide⟩ (Or.inl rfl) rfl
      ⟨by decide, [], [' '], rfl, rfl, Or.inr rfl⟩
  have hera : SpellsEra true era :=
    @SpellsEra.marker true [' '] "b.C.".toList "B.C.".toList (by decide) rfl (by decide) (by decide)
  have hnone : DateFields.toDate? true ⟨4, 2, 29⟩ = none := by decide
  refine ⟨hleap, hmissing, hera, ?_, ?_⟩
  · exact (ofText_of_spellsDate ctx hleap hera).1 ⟨-4, 2, 29, by decide⟩ rfl rfl rfl
  · refine (ofText_of_spellsDate ctx hmissing hera).2 (Or.inr fun date hdate => ?_)
    exact nomatch hnone.symm.trans (toDate?_eq_some_iff.mpr hdate)

end Date

end ScalarWire
