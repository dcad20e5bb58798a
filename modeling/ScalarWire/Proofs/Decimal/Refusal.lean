import ScalarWire.Proofs.Decimal.WordOverflow

/-!
# What a refused decimal is refused for

A text that is no number is malformed, and a number that no decimal of the wire can be is out of
range: NaN, the infinities and literals beyond the limits. Two kinds of text stand on the wrong
side. An infinity is one behind any run of signs, not only behind a single one, and a literal whose
scale no 64-bit word holds counts as malformed.
-/

namespace ScalarWire

namespace Decimal

open Text

def IsNaN (s : List Char) : Prop :=
  sameFold s "nan".toList

/-- Infinity in any letter case behind this many signs. -/
def SpellsInfinity (signs : Nat) (s : List Char) : Prop :=
  ∃ sign word, s = sign ++ word ∧ sign.length = signs ∧ (∀ c ∈ sign, c = '+' ∨ c = '-') ∧
    sameFold word "infinity".toList

/-- A decimal literal, NaN, or infinity with at most one sign. -/
def IsNumber (s : List Char) : Prop :=
  (∃ l : DecimalLiteral, l.Spells s) ∨ IsNaN s ∨ ∃ signs ≤ 1, SpellsInfinity signs s

/-- The name of infinity does not start with a sign. -/
theorem not_sign_of_sameFold {word : List Char} (h : sameFold word "infinity".toList) :
    ∀ c ∈ word.head?, (c == '+' || c == '-') = false := by
  have hlower : lower word = "infinity".toList := beq_iff_eq.mp h
  obtain ⟨c, rest, rfl, hc, -⟩ := List.map_eq_cons_iff.mp hlower
  intro d hd
  cases hd
  rw [Bool.or_eq_false_iff, beq_eq_false_iff_ne, beq_eq_false_iff_ne]
  constructor <;> rintro rfl <;> exact absurd hc (by decide)

theorem isSpecial_iff {s : List Char} :
    isSpecial s ↔ IsNaN s ∨ ∃ signs, SpellsInfinity signs s := by
  rw [isSpecial, Bool.or_eq_true]
  refine or_congr_right ⟨fun h => ?_, ?_⟩
  · refine ⟨_, s.takeWhile fun c => c == '+' || c == '-', _,
      List.takeWhile_append_dropWhile.symm, rfl, fun c hc => ?_, h⟩
    simpa using List.mem_takeWhile_imp hc
  · rintro ⟨_, sign, word, rfl, -, hsign, hword⟩
    rwa [dropWhile_append_of_head? (by simpa using hsign) (not_sign_of_sameFold hword)]

section ofText

variable {s : List Char}

theorem ofText_of_isSpecial (h : isSpecial (trim s)) :
    ofText s = .error (.rejected (.outOfRange .numeric (String.ofList (trim s)))) := by
  simp only [ofText, h]
  rfl

theorem ofText_of_no_literal (h : isSpecial (trim s) = false)
    (hnone : ∀ l : DecimalLiteral, ¬l.Spells (trim s)) :
    ofText s = .error (.rejected (.malformed .numeric (String.ofList s))) := by
  have hread : DecimalLiteral.read? (trim s) = none :=
    Option.eq_none_iff_forall_ne_some.mpr fun l hl =>
      hnone l (DecimalLiteral.read?_eq_some_iff.mp hl)
  simp only [ofText, h, hread]
  rfl

/-- A literal is malformed if its scale exceeds a word, and never otherwise. -/
theorem ofText_of_not_inWord {l : DecimalLiteral} (hl : l.Spells (trim s))
    (h : ¬InWord l.scale) :
    ofText s = .error (.rejected (.malformed .numeric (String.ofList s))) := by
  have hscale : l.scale < -0x8000000000000000 ∨ 0x8000000000000000 ≤ l.scale := by
    unfold InWord at h
    omega
  simp only [ofText, isSpecial_of_spells hl, DecimalLiteral.read?_eq_some_iff.mpr hl, if_pos hscale]
  rfl

theorem eq_outOfRange_of_inWord {l : DecimalLiteral} (hl : l.Spells (trim s))
    (h : InWord l.scale) {e : CodecError} (he : ofText s = .error (.rejected e)) :
    e = .outOfRange .numeric (abbreviate (trim s)) := by
  rw [ofText_of_spells hl h.1 h.2] at he
  split_ifs at he <;> cases he
  rfl

theorem ofText_eq_malformed_iff :
    ofText s = .error (.rejected (.malformed .numeric (String.ofList s))) ↔
      isSpecial (trim s) = false ∧ ∀ l : DecimalLiteral, l.Spells (trim s) → ¬InWord l.scale := by
  constructor
  · intro h
    refine ⟨?_, fun l hl hscale => ?_⟩
    · by_contra hspecial
      rw [ofText_of_isSpecial (eq_true_of_ne_false hspecial)] at h
      cases h
    · cases eq_outOfRange_of_inWord hl hscale h
  · rintro ⟨hspecial, hliteral⟩
    by_cases h : ∃ l : DecimalLiteral, l.Spells (trim s)
    · obtain ⟨l, hl⟩ := h
      exact ofText_of_not_inWord hl (hliteral l hl)
    · exact ofText_of_no_literal hspecial (not_exists.mp h)

theorem eq_malformed_or_outOfRange {e : CodecError} (he : ofText s = .error (.rejected e)) :
    e = .malformed .numeric (String.ofList s) ∨ ∃ value, e = .outOfRange .numeric value := by
  by_cases hspecial : isSpecial (trim s)
  · rw [ofText_of_isSpecial hspecial] at he
    cases he
    exact Or.inr ⟨_, rfl⟩
  by_cases hliteral : ∃ l : DecimalLiteral, l.Spells (trim s) ∧ InWord l.scale
  · obtain ⟨l, hl, hscale⟩ := hliteral
    exact Or.inr ⟨_, eq_outOfRange_of_inWord hl hscale he⟩
  · have hmalformed := ofText_eq_malformed_iff.mpr
      ⟨eq_false_of_ne_true hspecial, fun l hl hscale => hliteral ⟨l, hl, hscale⟩⟩
    rw [hmalformed] at he
    cases he
    exact Or.inl rfl

end ofText

/-- NaN and infinity behind any run of signs are out of range. A text is malformed if it is no
number at all, and no infinity behind more signs either, or if it is a literal whose scale no word
holds. What else is rejected is out of range. -/
theorem ofText_malformed_iff_and_outOfRange (s : List Char) :
    (IsNaN (trim s) ∨ (∃ signs, SpellsInfinity signs (trim s)) →
      ofText s = .error (.rejected (.outOfRange .numeric (String.ofList (trim s))))) ∧
    (ofText s = .error (.rejected (.malformed .numeric (String.ofList s))) ↔
      (¬IsNumber (trim s) ∧ ∀ signs, ¬SpellsInfinity signs (trim s)) ∨
        ∃ l : DecimalLiteral, l.Spells (trim s) ∧ ¬InWord l.scale) ∧
    (∀ e, ofText s = .error (.rejected e) →
      e = .malformed .numeric (String.ofList s) ∨ ∃ value, e = .outOfRange .numeric value) := by
  refine ⟨fun h => ofText_of_isSpecial (isSpecial_iff.mpr h), ?_,
    fun _ => eq_malformed_or_outOfRange⟩
  rw [ofText_eq_malformed_iff]
  constructor
  · rintro ⟨hspecial, hscale⟩
    by_cases h : ∃ l : DecimalLiteral, l.Spells (trim s)
    · obtain ⟨l, hl⟩ := h
      exact Or.inr ⟨l, hl, hscale l hl⟩
    · have hnone := isSpecial_iff.not.mp (ne_true_of_eq_false hspecial)
      refine Or.inl ⟨?_, fun signs hsigns => hnone (Or.inr ⟨signs, hsigns⟩)⟩
      rintro (hliteral | hnan | ⟨signs, -, hsigns⟩)
      · exact h hliteral
      · exact hnone (Or.inl hnan)
      · exact hnone (Or.inr ⟨signs, hsigns⟩)
  · rintro (⟨hnumber, hinfinity⟩ | ⟨l, hl, hscale⟩)
    · refine ⟨eq_false_of_ne_true fun h => ?_, fun l hl => absurd (Or.inl ⟨l, hl⟩) hnumber⟩
      rcases isSpecial_iff.mp h with hnan | ⟨signs, hsigns⟩
      · exact hnumber (Or.inr (Or.inl hnan))
      · exact hinfinity signs hsigns
    · refine ⟨isSpecial_of_spells hl, fun l' hl' => ?_⟩
      rwa [← hl.unique hl']

/-- Two signs in front of infinity are let through, and a tiny number counts as malformed. -/
theorem exists_misclassified :
    (¬IsNumber "++infinity".toList ∧
      ofText "++infinity".toList = .error (.rejected (.outOfRange .numeric "++infinity"))) ∧
    (∃ l : DecimalLiteral, l.Spells "1e-9223372036854775808".toList) ∧
      ofText "1e-9223372036854775808".toList =
        .error (.rejected (.malformed .numeric "1e-9223372036854775808")) := by
  have hread : (DecimalLiteral.read? "1e-9223372036854775808".toList).isSome := by decide
  refine ⟨⟨?_, by decide⟩, ?_, by decide +kernel⟩
  · rintro (⟨l, hl⟩ | hnan | ⟨signs, hle, sign, word, hs, hlen, -, hword⟩)
    · have hnone : DecimalLiteral.read? "++infinity".toList = none := by decide
      rw [DecimalLiteral.read?_eq_some_iff.mpr hl] at hnone
      cases hnone
    · exact absurd (show sameFold _ _ = true from hnan) (by decide)
    · -- At most one sign in front leaves a sign at the head of the name.
      have hhead : ("++infinity".toList.drop signs).head? = some '+' := by
        interval_cases signs <;> rfl
      rw [hs, ← hlen, List.drop_left] at hhead
      exact absurd (not_sign_of_sameFold hword '+' hhead) (by decide)
  · obtain ⟨l, hl⟩ := Option.isSome_iff_exists.mp hread
    exact ⟨l, DecimalLiteral.read?_eq_some_iff.mp hl⟩

end Decimal

end ScalarWire
