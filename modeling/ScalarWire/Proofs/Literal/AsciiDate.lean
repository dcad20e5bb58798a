import ScalarWire.Proofs.Literal.Joint
import ScalarWire.Proofs.Text.AsciiDigit

/-!
# Digits of dates, eras and zones

The fields of a date are numbers in ASCII digits, and nothing between them is a digit. Nor is
there one in an era marker or in the name of an infinity, and the zones that can be named have none
but ASCII digits. So no digit of another script stands in a part of a text that is read as one of
these.
-/

namespace ScalarWire.Literal

open Text

/-- What is taken off the front of a text has no digits of other scripts. -/
def TakesAscii (s rest : List Char) : Prop :=
  ∃ front, s = front ++ rest ∧ AsciiDigits front

namespace TakesAscii

variable {s mid rest digits : List Char} {c : Char} {p : Char → Bool}

theorem refl (s : List Char) : TakesAscii s s :=
  ⟨[], rfl, asciiDigits_nil⟩

theorem trans (h : TakesAscii s mid) (h' : TakesAscii mid rest) : TakesAscii s rest := by
  obtain ⟨front, rfl, hfront⟩ := h
  obtain ⟨behind, rfl, hbehind⟩ := h'
  exact ⟨front ++ behind, (List.append_assoc _ _ _).symm,
    asciiDigits_append_iff.mpr ⟨hfront, hbehind⟩⟩

theorem asciiDigits (h : TakesAscii s rest) (hrest : AsciiDigits rest) : AsciiDigits s := by
  obtain ⟨front, rfl, hfront⟩ := h
  exact asciiDigits_append_iff.mpr ⟨hfront, hrest⟩

theorem append (h : AsciiDigits digits) (rest : List Char) : TakesAscii (digits ++ rest) rest :=
  ⟨digits, rfl, h⟩

theorem cons (hc : isDecimalDigit c = false) (rest : List Char) : TakesAscii (c :: rest) rest :=
  append (asciiDigits_singleton hc) rest

theorem dropWhile (hp : ∀ c, p c → isDecimalDigit c = false) (s : List Char) :
    TakesAscii s (s.dropWhile p) := by
  refine ⟨s.takeWhile p, List.takeWhile_append_dropWhile.symm, ?_⟩
  exact asciiDigits_of_not_decimalDigit fun c hc => hp c (List.mem_takeWhile_imp hc)

theorem trimStart (s : List Char) : TakesAscii s (trimStart s) :=
  dropWhile (fun _ hc => (classes_of_isBlank hc).1) s

theorem of_splitDigitRun (h : splitDigitRun s = (digits, rest)) (hdigits : ∀ c ∈ digits, c.isDigit) :
    TakesAscii s rest := by
  exact ⟨digits, (eq_of_splitDigitRun h).1, asciiDigits_of_isDigit hdigits⟩

theorem of_splitDigits {n : Nat} (h : splitDigits n s = (digits, rest))
    (hdigits : ∀ c ∈ digits, c.isDigit) : TakesAscii s rest :=
  ⟨digits, (eq_of_splitDigits h).1, asciiDigits_of_isDigit hdigits⟩

end TakesAscii

section numeric

variable {s : List Char} {n : Nat} {d : NumericDate} {fields : DateFields}

theorem isDigit_of_read? (h : Numeral.read? s = some n) : ∀ c ∈ s, c.isDigit :=
  (Numeral.read?_eq_some_iff.mp h).2.1

theorem isDigit_of_readYear? (h : readYear? s = some n) : ∀ c ∈ s, c.isDigit :=
  isDigit_of_read? (Option.filter_eq_some_iff.mp h).1

/-- A date whose year comes first, spelled out. -/
theorem exists_of_yearFirst? (h : yearFirst? s = some d) :
    ∃ sep, s = d.first ++ sep :: (d.second ++ sep :: (d.third ++ d.rest)) ∧ isSeparator sep := by
  rcases hyear : splitDigitRun s with ⟨year, s₁⟩
  simp only [yearFirst?, hyear] at h
  split at h
  · next sep s₂ =>
      rcases hmonth : splitDigits 2 s₂ with ⟨month, s₃⟩
      simp only [hmonth] at h
      split at h
      · next sep' s₄ =>
          rcases hday : splitDigits 2 s₄ with ⟨day, s₅⟩
          simp only [hday] at h
          split_ifs at h with hfields
          cases h
          obtain ⟨-, hsep, -, rfl, -⟩ := hfields
          refine ⟨_, ?_, hsep⟩
          rw [(eq_of_splitDigitRun hyear).1, (eq_of_splitDigits hmonth).1,
            (eq_of_splitDigits hday).1]
      · cases h
  · cases h

/-- Three numbers in ASCII digits with separators between them. -/
theorem takesAscii_of_numeric {sep : Char}
    (hs : s = d.first ++ sep :: (d.second ++ sep :: (d.third ++ d.rest))) (hsep : isSeparator sep)
    (hfirst : ∀ c ∈ d.first, c.isDigit) (hsecond : ∀ c ∈ d.second, c.isDigit)
    (hthird : ∀ c ∈ d.third, c.isDigit) : TakesAscii s d.rest := by
  have hsep' := isDecimalDigit_of_isSeparator hsep
  rw [hs]
  exact (((((TakesAscii.append (asciiDigits_of_isDigit hfirst) _).trans (.cons hsep' _)).trans
    (.append (asciiDigits_of_isDigit hsecond) _)).trans (.cons hsep' _)).trans
      (.append (asciiDigits_of_isDigit hthird) _))

theorem takesAscii_of_yearFirst? (h : yearFirst? s = some d)
    (hfields : yearFirstFields? d = some fields) : TakesAscii s d.rest := by
  obtain ⟨sep, hs, hsep⟩ := exists_of_yearFirst? h
  simp only [yearFirstFields?, Option.bind_eq_bind, Option.bind_eq_some_iff] at hfields
  obtain ⟨year, hyear, month, hmonth, day, hday, -⟩ := hfields
  exact takesAscii_of_numeric hs hsep (isDigit_of_readYear? hyear) (isDigit_of_read? hmonth)
    (isDigit_of_read? hday)

theorem takesAscii_of_yearLast? {order : DateOrder} (h : yearLast? s = some d)
    (hfields : yearLastFields? order d = some fields) : TakesAscii s d.rest := by
  obtain ⟨sep, hs, hsep, -⟩ := exists_of_yearLast? h
  simp only [yearLastFields?, Option.bind_eq_bind, Option.bind_eq_some_iff] at hfields
  obtain ⟨first, hfirst, second, hsecond, third, hthird, -⟩ := hfields
  exact takesAscii_of_numeric hs hsep (isDigit_of_read? hfirst) (isDigit_of_read? hsecond)
    (isDigit_of_readYear? hthird)

end numeric

section named

variable {s rest name : List Char} {d : NamedDate} {fields : DateFields} {month : Nat}

theorem takesAscii_of_splitName? (h : splitName? s = some (name, rest)) : TakesAscii s rest := by
  have hname : TakesAscii s (s.dropWhile foldsToLetter) :=
    .dropWhile (fun _ hc => (classes_of_foldsToLetter hc).1) s
  simp only [splitName?] at h
  obtain ⟨-, h⟩ := Option.ite_none_right_eq_some.mp h
  obtain ⟨-, rfl⟩ := Prod.mk.inj (Option.some.inj h)
  generalize s.dropWhile foldsToLetter = behind at hname ⊢
  split
  · exact hname.trans (.cons (by decide) _)
  · exact hname

theorem takesAscii_dropOrdinal (s : List Char) : TakesAscii s (dropOrdinal s) := by
  unfold dropOrdinal
  split_ifs with hending
  · refine ⟨s.take 2, (List.take_append_drop 2 s).symm, asciiDigits_of_not_decimalDigit ?_⟩
    exact fun c hc => (classes_of_foldsToLetter (foldsToLetter_of_mem_ending hending hc)).1
  · exact .refl s

theorem takesAscii_dropDayEnd (s : List Char) : TakesAscii s (dropDayEnd s) := by
  refine ((takesAscii_dropOrdinal s).trans (.trimStart _)).trans (.trans ?_ (.trimStart _))
  generalize trimStart (dropOrdinal s) = behind
  unfold dropComma
  split
  · exact .cons (by decide) _
  · exact .refl _

theorem takesAscii_of_dropGap? {commas : Bool} (h : dropGap? commas s = some rest) :
    TakesAscii s rest := by
  simp only [dropGap?] at h
  split_ifs at h
  cases h
  refine .dropWhile (fun c hc => ?_) s
  simp only [Bool.or_eq_true, Bool.and_eq_true, beq_iff_eq, or_assoc] at hc
  rcases hc with hblank | rfl | ⟨-, rfl⟩
  · exact (classes_of_isBlank hblank).1
  · decide
  · decide

theorem isDigit_of_namedFields? (h : namedFields? month d = some fields) :
    (∀ c ∈ d.year, c.isDigit) ∧ ∀ c ∈ d.day, c.isDigit := by
  simp only [namedFields?, Option.bind_eq_bind, Option.bind_eq_some_iff] at h
  obtain ⟨year, hyear, day, hday, -⟩ := h
  exact ⟨isDigit_of_readYear? hyear, isDigit_of_read? hday⟩

theorem takesAscii_of_monthFirst? (h : monthFirst? s = some d)
    (hfields : namedFields? month d = some fields) : TakesAscii s d.rest := by
  obtain ⟨hyear, hday⟩ := isDigit_of_namedFields? hfields
  simp only [monthFirst?, dropDayEnd_eq] at h
  obtain ⟨⟨name, behind⟩, hname, h⟩ := Option.bind_eq_some_iff.mp h
  have hskip := (takesAscii_of_splitName? hname).trans (.trimStart behind)
  rcases hdigits : splitDigitRun (trimStart behind) with ⟨digits, left⟩
  simp only [hdigits] at h
  split_ifs at h with hcount hshort hlong
  · cases h
    exact (hskip.trans (.of_splitDigitRun hdigits hday)).trans
      ((takesAscii_dropDayEnd left).trans (.of_splitDigitRun rfl hyear))
  -- A run of five digits or more holds the day and the year.
  all_goals
    cases h
    refine hskip.trans (.of_splitDigitRun hdigits fun c hc => ?_)
    rw [← List.take_append_drop _ digits] at hc
    exact (List.mem_append.mp hc).elim (hday c) (hyear c)

theorem takesAscii_of_dayFirst? (h : dayFirst? s = some d)
    (hfields : namedFields? month d = some fields) : TakesAscii s d.rest := by
  obtain ⟨hyear, hday⟩ := isDigit_of_namedFields? hfields
  obtain ⟨-, behind, name, left, year, hbehind, hname, hgap, -, rfl⟩ := dayFirst?_eq_some_iff.mp h
  exact ((((TakesAscii.of_splitDigits rfl hday).trans (takesAscii_of_dropGap? hbehind)).trans
    (takesAscii_of_splitName? hname)).trans (takesAscii_of_dropGap? hgap)).trans
      (.of_splitDigitRun rfl hyear)

end named

theorem takesAscii_of_readDate {s rest : List Char} {type : WireType} {order : DateOrder}
    {fields : DateFields} (h : readDate type order s = .ok (fields, rest)) : TakesAscii s rest := by
  have hspelling := spelling?_eq_some_iff.mp (readDate_eq_ok_iff.mp h)
  generalize hfields : some fields = found at hspelling
  cases hspelling with
  | yearFirst hdate => exact takesAscii_of_yearFirst? hdate hfields.symm
  | yearLast _ hdate => exact takesAscii_of_yearLast? hdate hfields.symm
  | monthFirst _ _ hdate => exact takesAscii_of_monthFirst? hdate hfields.symm
  | dayFirst _ _ hdate => exact takesAscii_of_dayFirst? hdate hfields.symm

section era

variable {s : List Char}

theorem asciiDigits_of_infinity? {sign : Infinity} (h : infinity? s = some sign) :
    AsciiDigits s := by
  have hascii : ∀ name ∈ ["infinity", "+infinity", "-infinity"], AsciiDigits name.toList := by
    decide
  have hnames : ∀ name ∈ ["infinity", "+infinity", "-infinity"],
      String.ofList (lower (trim s)) = name → AsciiDigits s := by
    intro name hmem heq
    have hlower : lower (trim s) = name.toList := by rw [← heq, String.toList_ofList]
    rw [← asciiDigits_trim_iff, ← asciiDigits_lower_iff, hlower]
    exact hascii name hmem
  unfold infinity? at h
  split at h
  · next heq => exact hnames _ (by decide) heq
  · next heq => exact hnames _ (by decide) heq
  · next heq => exact hnames _ (by decide) heq
  · cases h

theorem asciiDigits_of_eraMarker? {word : List Char} {bc : Bool} (h : eraMarker? word = some bc) :
    AsciiDigits word := by
  refine asciiDigits_of_not_decimalDigit fun c hc => ?_
  by_contra hdigit
  rw [eraMarker?_eq_none_of_closesTime hc (Or.inl (eq_true_of_ne_false hdigit))] at h
  cases h

theorem takesAscii_splitEra (s : List Char) :
    ∃ tail, trim s = (splitEra s).1 ++ tail ∧ AsciiDigits tail := by
  rcases splitEra_cases s with h | ⟨blanks, word, bc, -, hblanks, hs, hmarker⟩
  · exact ⟨[], by rw [h, List.append_nil], asciiDigits_nil⟩
  · exact ⟨blanks ++ word, hs, asciiDigits_append_iff.mpr
      ⟨asciiDigits_of_isBlankText hblanks, asciiDigits_of_eraMarker? hmarker⟩⟩

end era

section zone

variable {word token : List Char}

theorem asciiDigits_of_readSeconds? {east : Int} (h : Offset.readSeconds? word = some east) :
    AsciiDigits word := by
  obtain ⟨sign, rest, rfl, hsign, hrest⟩ := Offset.exists_sign_of_readSeconds? h
  intro c hc hdigit
  have hchar : Offset.IsOffsetChar c := by
    rcases List.mem_cons.mp hc with rfl | hc
    · exact Or.inr (Or.inr hsign)
    · exact hrest c hc
  rcases hchar with hascii | rfl | rfl | rfl
  · exact hascii
  all_goals exact absurd hdigit (by decide)

theorem asciiDigits_of_zoneOf {ctx : Context} {type : WireType} {zone : Zone}
    (hzones : ctx.zones = .builtin) (h : zoneOf ctx type token = .ok zone) : AsciiDigits token := by
  unfold zoneOf at h
  split_ifs at h with hblank
  · exact asciiDigits_of_isBlankText hblank
  rw [hzones, ZoneTable.resolve_eq_ok_iff, ZoneTable.zone?] at h
  rw [← asciiDigits_trim_iff]
  split_ifs at h
  · obtain ⟨offset, hoffset, -⟩ := Option.map_eq_some_iff.mp h
    obtain ⟨east, hread, -⟩ := Option.bind_eq_some_iff.mp hoffset
    exact asciiDigits_of_readSeconds? hread
  · rcases Option.or_eq_some_iff.mp h with hfixed | ⟨-, hregion⟩
    · obtain ⟨offset, hget, -⟩ := Option.map_eq_some_iff.mp hfixed
      exact (ZoneTable.isZoneName_of_get? hget).asciiDigits
    · obtain ⟨region, hname, -⟩ := Option.map_eq_some_iff.mp hregion
      exact (RegionDatabase.isZoneName_of_region? hname).asciiDigits

end zone

end ScalarWire.Literal
