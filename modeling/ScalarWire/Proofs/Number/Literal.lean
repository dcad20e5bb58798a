import ScalarWire.Number.Literal
import ScalarWire.Proofs.Number.Numeral
import ScalarWire.Proofs.Text.Blank

/-!
# The spelling of decimal literals

A text spells a literal as a sign, digits with a point among or beside them, and an exponent with
a sign of its own. Sign, point and exponent may be left out. `read?` finds exactly the literal
that its text spells.
-/

namespace ScalarWire.DecimalLiteral

/-- The spellings of a sign, and whether it is a minus. -/
inductive SpellsSign : Bool → List Char → Prop where
  | none : SpellsSign false []
  | plus : SpellsSign false ['+']
  | minus : SpellsSign true ['-']

/-- The spellings of the digits behind the point. A point may stand without any. -/
inductive SpellsFraction : List Char → List Char → Prop where
  | none : SpellsFraction [] []
  | point {digits : List Char} (hdigits : ∀ c ∈ digits, c.isDigit) :
      SpellsFraction digits ('.' :: digits)

/-- The spellings of an exponent, given by its sign and its digits. -/
inductive SpellsExponent : Bool → List Char → List Char → Prop where
  | none : SpellsExponent false [] []
  | marked {marker : Char} {negative : Bool} {sign digits : List Char}
      (hmarker : marker = 'e' ∨ marker = 'E') (hsign : SpellsSign negative sign)
      (hne : digits ≠ []) (hdigits : ∀ c ∈ digits, c.isDigit) :
      SpellsExponent negative digits (marker :: (sign ++ digits))

/-- A text that is a sign, digits, a fraction and an exponent, with at least one digit before the
exponent. -/
def Spells (l : DecimalLiteral) (s : List Char) : Prop :=
  (∀ c ∈ l.whole, c.isDigit) ∧ (l.whole ≠ [] ∨ l.fraction ≠ []) ∧
    ∃ sign fraction exponent, s = sign ++ (l.whole ++ (fraction ++ exponent)) ∧
      SpellsSign l.negative sign ∧ SpellsFraction l.fraction fraction ∧
      SpellsExponent l.exponentNegative l.exponentDigits exponent

theorem exists_splitSign (s : List Char) :
    ∃ sign, s = sign ++ (Numeral.splitSign s).2 ∧ SpellsSign (Numeral.splitSign s).1 sign := by
  fun_cases Numeral.splitSign s with
  | case1 s => exact ⟨['-'], rfl, .minus⟩
  | case2 s => exact ⟨['+'], rfl, .plus⟩
  | case3 s => exact ⟨[], rfl, .none⟩

theorem SpellsSign.splitSign_append {negative : Bool} {sign s : List Char}
    (h : SpellsSign negative sign) (hs : ∀ c ∈ s.head?, c ≠ '-' ∧ c ≠ '+') :
    Numeral.splitSign (sign ++ s) = (negative, s) := by
  cases h with
  | plus => rfl
  | minus => rfl
  | none =>
      rw [List.nil_append, Numeral.splitSign]
      · rintro s' rfl
        exact (hs '-' rfl).1 rfl
      · rintro s' rfl
        exact (hs '+' rfl).2 rfl

theorem not_sign_of_isDigit {c : Char} (hc : c.isDigit) : c ≠ '-' ∧ c ≠ '+' := by
  constructor <;> rintro rfl <;> exact absurd hc (by decide)

theorem splitDigits_append {digits rest : List Char} (hd : ∀ c ∈ digits, c.isDigit)
    (hr : ∀ c ∈ rest.head?, c.isDigit = false) :
    splitDigits (digits ++ rest) = (digits, rest) := by
  rw [splitDigits, Text.takeWhile_append_of_head? hd hr, Text.dropWhile_append_of_head? hd hr]

theorem append_splitDigits (s : List Char) : (splitDigits s).1 ++ (splitDigits s).2 = s :=
  List.takeWhile_append_dropWhile

theorem isDigit_of_mem_splitDigits {s : List Char} : ∀ c ∈ (splitDigits s).1, c.isDigit :=
  fun _ => List.mem_takeWhile_imp

section SpellsExponent

variable {negative : Bool} {digits s : List Char}

theorem SpellsExponent.head (h : SpellsExponent negative digits s) :
    ∀ c ∈ s.head?, c = 'e' ∨ c = 'E' := by
  cases h with
  | none => simp
  | marked hmarker => simpa using hmarker

theorem SpellsExponent.endsDigits (h : SpellsExponent negative digits s) :
    ∀ c ∈ s.head?, c.isDigit = false := by
  intro c hc
  rcases h.head c hc with rfl | rfl <;> rfl

theorem splitExponent?_eq_some_iff :
    splitExponent? s = some (negative, digits) ↔ SpellsExponent negative digits s := by
  constructor
  · intro h
    cases s with
    | nil =>
        cases h
        exact .none
    | cons marker s =>
        obtain ⟨sign, hs, hsign⟩ := exists_splitSign s
        simp only [splitExponent?] at h
        split_ifs at h with hc
        obtain ⟨hmarker, hne, hall⟩ := hc
        cases h
        nth_rewrite 3 [hs]
        exact .marked hmarker hsign hne (List.all_eq_true.mp hall)
  · intro h
    cases h with
    | none => rfl
    | marked hmarker hsign hne hdigits =>
        have hhead : ∀ c ∈ digits.head?, c ≠ '-' ∧ c ≠ '+' :=
          fun c hc => not_sign_of_isDigit (hdigits c (List.mem_of_head? hc))
        simp only [splitExponent?, hsign.splitSign_append hhead]
        exact if_pos ⟨hmarker, hne, List.all_eq_true.mpr hdigits⟩

end SpellsExponent

/-- Takes a point with the digits behind it off the front. -/
def splitFraction : List Char → List Char × List Char
  | '.' :: s => splitDigits s
  | s => ([], s)

theorem exists_splitFraction (s : List Char) :
    ∃ fraction, s = fraction ++ (splitFraction s).2 ∧
      SpellsFraction (splitFraction s).1 fraction := by
  fun_cases splitFraction s with
  | case1 s =>
      exact ⟨'.' :: (splitDigits s).1, congrArg (List.cons '.') (append_splitDigits s).symm,
        .point isDigit_of_mem_splitDigits⟩
  | case2 s => exact ⟨[], rfl, .none⟩

section Spells

variable {negative : Bool} {whole digits fraction exponentDigits exponent : List Char}

theorem SpellsFraction.isDigit (hfraction : SpellsFraction digits fraction) :
    ∀ c ∈ digits, c.isDigit := by
  cases hfraction with
  | none => simp
  | point hdigits => exact hdigits

theorem SpellsFraction.subset (hfraction : SpellsFraction digits fraction) : digits ⊆ fraction := by
  cases hfraction with
  | none => exact List.Subset.refl _
  | point => exact List.subset_cons_self _ _

theorem SpellsFraction.splitFraction_append (hfraction : SpellsFraction digits fraction)
    (hexponent : SpellsExponent negative exponentDigits exponent) :
    splitFraction (fraction ++ exponent) = (digits, exponent) := by
  cases hfraction with
  | point hdigits => exact splitDigits_append hdigits hexponent.endsDigits
  | none =>
      rw [List.nil_append, splitFraction]
      rintro s rfl
      exact absurd (hexponent.head '.' rfl) (by decide)

theorem SpellsFraction.endsDigits_append (hfraction : SpellsFraction digits fraction)
    (hexponent : SpellsExponent negative exponentDigits exponent) :
    ∀ c ∈ (fraction ++ exponent).head?, c.isDigit = false := by
  cases hfraction with
  | none => exact hexponent.endsDigits
  | point =>
      rintro c ⟨⟩
      rfl

/-- Behind the sign comes a digit or, where there is none before it, the point. -/
theorem SpellsFraction.not_sign_append (hfraction : SpellsFraction digits fraction)
    (hwhole : ∀ c ∈ whole, c.isDigit) (hne : whole ≠ [] ∨ digits ≠ []) (rest : List Char) :
    ∀ c ∈ (whole ++ (fraction ++ rest)).head?, c ≠ '-' ∧ c ≠ '+' := by
  intro c hc
  by_cases h : whole = []
  · cases hfraction with
    | none => exact absurd rfl (hne.resolve_left (not_not_intro h))
    | point =>
        rw [h] at hc
        obtain rfl : '.' = c := Option.some.inj hc
        decide
  · rw [List.head?_append_of_ne_nil _ h] at hc
    exact not_sign_of_isDigit (hwhole c (List.mem_of_head? hc))

end Spells

theorem read?_eq (s : List Char) :
    read? s =
      let sign := Numeral.splitSign s
      let whole := splitDigits sign.2
      let fraction := splitFraction whole.2
      if whole.1 = [] ∧ fraction.1 = [] then none
      else (splitExponent? fraction.2).map fun exponent =>
        ⟨sign.1, whole.1, fraction.1, exponent.1, exponent.2⟩ := by
  rfl

/-- Reading a literal finds the one that the text spells. -/
theorem read?_eq_some_iff {s : List Char} {l : DecimalLiteral} :
    read? s = some l ↔ l.Spells s := by
  rw [read?_eq]
  constructor
  · intro h
    obtain ⟨sign, hs, hsign⟩ := exists_splitSign s
    have hwhole := append_splitDigits (Numeral.splitSign s).2
    obtain ⟨fraction, hrest, hfraction⟩ :=
      exists_splitFraction (splitDigits (Numeral.splitSign s).2).2
    simp only at h
    split_ifs at h with hne
    obtain ⟨exponent, hexponent, rfl⟩ := Option.map_eq_some_iff.mp h
    refine ⟨isDigit_of_mem_splitDigits, not_and_or.mp hne, sign, fraction, _, ?_, hsign,
      hfraction, splitExponent?_eq_some_iff.mp hexponent⟩
    rw [← hrest, hwhole, ← hs]
  · obtain ⟨negative, whole, digits, exponentNegative, exponentDigits⟩ := l
    rintro ⟨hwhole, hne, sign, fraction, exponent, rfl, hsign, hfraction, hexponent⟩
    have hhead := hfraction.not_sign_append hwhole hne exponent
    simp only [hsign.splitSign_append hhead,
      splitDigits_append hwhole (hfraction.endsDigits_append hexponent),
      hfraction.splitFraction_append hexponent, splitExponent?_eq_some_iff.mpr hexponent]
    exact if_neg (not_and_or.mpr hne)

theorem Spells.isDigit_of_mem_digits {l : DecimalLiteral} {s : List Char} (h : l.Spells s) :
    ∀ c ∈ l.digits, c.isDigit := by
  obtain ⟨hwhole, -, sign, fraction, exponent, -, -, hfraction, -⟩ := h
  intro c hc
  exact (List.mem_append.mp hc).elim (hwhole c) (hfraction.isDigit c)

theorem Spells.exists_isDigit {l : DecimalLiteral} {s : List Char} (h : l.Spells s) :
    ∃ c ∈ s, c.isDigit := by
  obtain ⟨hwhole, hne, sign, fraction, exponent, rfl, -, hfraction, -⟩ := h
  by_cases hnil : l.whole = []
  · obtain ⟨c, hc⟩ := List.exists_mem_of_ne_nil _ (hne.resolve_left (not_not_intro hnil))
    exact ⟨c, by simp [hfraction.subset hc], hfraction.isDigit c hc⟩
  · obtain ⟨c, hc⟩ := List.exists_mem_of_ne_nil _ hnil
    exact ⟨c, by simp [hc], hwhole c hc⟩

/-- A text spells one literal at most. -/
theorem Spells.unique {l l' : DecimalLiteral} {s : List Char} (h : l.Spells s)
    (h' : l'.Spells s) : l = l' :=
  Option.some.inj ((read?_eq_some_iff.mpr h).symm.trans (read?_eq_some_iff.mpr h'))

section isBlank

variable {negative : Bool} {digits s : List Char}

theorem SpellsSign.isBlank (h : SpellsSign negative s) : ∀ c ∈ s, Text.isBlank c = false := by
  cases h with
  | none => simp
  | plus | minus => exact List.forall_mem_singleton.mpr rfl

theorem SpellsFraction.isBlank (h : SpellsFraction digits s) :
    ∀ c ∈ s, Text.isBlank c = false := by
  cases h with
  | none => simp
  | point hdigits =>
      exact List.forall_mem_cons.mpr ⟨rfl, fun c hc => Text.isBlank_of_isDigit (hdigits c hc)⟩

theorem SpellsExponent.isBlank (h : SpellsExponent negative digits s) :
    ∀ c ∈ s, Text.isBlank c = false := by
  cases h with
  | none => simp
  | marked hmarker hsign _ hdigits =>
      refine List.forall_mem_cons.mpr ⟨?_, List.forall_mem_append.mpr
        ⟨hsign.isBlank, fun c hc => Text.isBlank_of_isDigit (hdigits c hc)⟩⟩
      rcases hmarker with rfl | rfl <;> rfl

end isBlank

/-- No blank stands in the spelling of a literal. -/
theorem Spells.isBlank {l : DecimalLiteral} {s : List Char} (h : l.Spells s) :
    ∀ c ∈ s, Text.isBlank c = false := by
  obtain ⟨hwhole, -, sign, fraction, exponent, rfl, hsign, hfraction, hexponent⟩ := h
  simp only [List.forall_mem_append]
  exact ⟨hsign.isBlank, fun c hc => Text.isBlank_of_isDigit (hwhole c hc), hfraction.isBlank,
    hexponent.isBlank⟩

theorem Spells.trim_eq {l : DecimalLiteral} {s : List Char} (h : l.Spells s) : Text.trim s = s :=
  Text.trim_eq_self (fun c hc => h.isBlank c (List.mem_of_head? hc))
    fun c hc => h.isBlank c (List.mem_of_getLast? hc)

/-- A point with digits behind it; nothing where there are none. -/
def pointFraction (fraction : List Char) : List Char :=
  if fraction = [] then [] else '.' :: fraction

theorem read?_positional {negative : Bool} {whole fraction : List Char} (hne : whole ≠ [])
    (hw : ∀ c ∈ whole, c.isDigit) (hf : ∀ c ∈ fraction, c.isDigit) :
    read? ((if negative then ['-'] else []) ++ (whole ++ pointFraction fraction)) =
      some ⟨negative, whole, fraction, false, []⟩ := by
  have hsign : SpellsSign negative (if negative then ['-'] else []) := by
    cases negative
    · exact .none
    · exact .minus
  have hfraction : SpellsFraction fraction (pointFraction fraction) := by
    unfold pointFraction
    split_ifs with h
    · rw [h]
      exact .none
    · exact .point hf
  apply read?_eq_some_iff.mpr
  refine ⟨hw, Or.inl hne, _, _, [], ?_, hsign, hfraction, .none⟩
  rw [List.append_nil]

end ScalarWire.DecimalLiteral
