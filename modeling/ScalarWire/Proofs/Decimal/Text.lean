import ScalarWire.Proofs.Decimal.Limits
import ScalarWire.Proofs.Decimal.Value
import ScalarWire.Proofs.Number.Literal
import ScalarWire.Proofs.Text.Blank
import ScalarWire.Proofs.Text.Letter

/-!
# Reading back decimals

The positional text of a decimal is a literal with the digits, the sign and the scale of that
decimal. It is read back unless it exceeds the limits on the digits before and behind the point.
-/

namespace ScalarWire.Decimal

/-- The cut of a list of digits at its point. -/
theorem pointed_eq {digits : List Char} (hne : digits ≠ []) (scale : Nat) :
    ∃ k whole fraction, pointed digits scale = whole ++ DecimalLiteral.pointFraction fraction ∧
      whole ++ fraction = List.replicate k '0' ++ digits ∧ whole ≠ [] ∧
      fraction.length = scale := by
  have hpos := List.length_pos_iff.mpr hne
  by_cases hs : scale = 0
  · refine ⟨0, digits, [], ?_, by simp, hne, by simp [hs]⟩
    simp [pointed, hs, DecimalLiteral.pointFraction]
  · have hlen : scale + 1 ≤ (digits.leftpad (scale + 1) '0').length := by
      rw [List.length_leftpad]
      omega
    refine ⟨scale + 1 - digits.length,
      (digits.leftpad (scale + 1) '0').take ((digits.leftpad (scale + 1) '0').length - scale),
      (digits.leftpad (scale + 1) '0').drop ((digits.leftpad (scale + 1) '0').length - scale),
      ?_, ?_, ?_, ?_⟩
    · rw [pointed, if_neg hs, DecimalLiteral.pointFraction, if_neg]
      rw [List.drop_eq_nil_iff]
      omega
    · rw [List.take_append_drop]
      rfl
    · rw [← List.length_pos_iff, List.length_take]
      omega
    · rw [List.length_drop]
      omega

theorem toText_eq (d : Decimal) :
    d.toText = (if d.unscaled < 0 then ['-'] else []) ++
      pointed (Numeral.digits d.expand.unscaled.natAbs) d.scale.toNat := by
  have hdigits : Numeral.digits d.unscaled.natAbs ++
      List.replicate (if d.unscaled = 0 then 0 else (-d.scale).toNat) '0' =
        Numeral.digits d.expand.unscaled.natAbs := by
    rcases lt_or_ge d.scale 0 with hs | hs
    · have hexpand : d.expand = d.withScale 0 := if_pos hs
      rw [hexpand, natAbs_withScale_of_le hs.le, Int.zero_sub]
      split_ifs with h0
      · simp [h0]
      · rw [Numeral.digits_mul_pow (by omega)]
    · rw [expand_of_scale_nonneg hs, show (-d.scale).toNat = 0 by omega]
      simp
  simp only [toText]
  rw [hdigits]

/-- Sign, digits before the point and digits behind it in the text of a decimal. -/
theorem exists_toText_eq (d : Decimal) :
    ∃ k whole fraction,
      d.toText = (if decide (d.unscaled < 0) then ['-'] else []) ++
        (whole ++ DecimalLiteral.pointFraction fraction) ∧
      whole ++ fraction = List.replicate k '0' ++ Numeral.digits d.expand.unscaled.natAbs ∧
      whole ≠ [] ∧ fraction.length = d.scale.toNat ∧ (∀ c ∈ whole, c.isDigit) ∧
      ∀ c ∈ fraction, c.isDigit := by
  obtain ⟨k, whole, fraction, hpointed, hdigits, hne, hlen⟩ :=
    pointed_eq (Numeral.digits_ne_nil d.expand.unscaled.natAbs) d.scale.toNat
  have hall : ∀ c ∈ whole ++ fraction, c.isDigit := by
    intro c hc
    rw [hdigits, List.mem_append] at hc
    rcases hc with hc | hc
    · rw [List.eq_of_mem_replicate hc]
      rfl
    · exact Numeral.isDigit_of_mem_digits c hc
  refine ⟨k, whole, fraction, ?_, hdigits, hne, hlen,
    fun c hc => hall c (List.mem_append_left _ hc), fun c hc => hall c (List.mem_append_right _ hc)⟩
  rw [toText_eq, hpointed]
  simp

/-- The text of a decimal is a literal of the same number. -/
theorem read?_toText (d : Decimal) :
    ∃ l, DecimalLiteral.read? d.toText = some l ∧ l.unscaled = d.expand.unscaled ∧
      l.scale = max d.scale 0 ∧
      digitCount l.digits = (Numeral.digits d.expand.unscaled.natAbs).length := by
  obtain ⟨k, whole, fraction, htext, hdigits, hne, hlen, hw, hf⟩ := d.exists_toText_eq
  have hmagnitude : Numeral.value (whole ++ fraction) = d.expand.unscaled.natAbs := by
    rw [hdigits, Numeral.value_append, Numeral.value_replicate_zero, Numeral.value_digits]
    simp
  refine ⟨⟨decide (d.unscaled < 0), whole, fraction, false, []⟩, ?_, ?_, ?_, ?_⟩
  · rw [htext, DecimalLiteral.read?_positional hne hw hf]
  · have hneg := d.expand_unscaled_neg_iff
    simp only [DecimalLiteral.unscaled, DecimalLiteral.magnitude, DecimalLiteral.digits, hmagnitude,
      Numeral.negateIf, decide_eq_true_eq]
    split_ifs <;> omega
  · simp only [DecimalLiteral.scale, DecimalLiteral.exponent, hlen, Numeral.negateIf]
    change ((d.scale.toNat : Int) - (0 : Nat)) = _
    omega
  · have hall : ∀ c ∈ whole ++ fraction, c.isDigit :=
      fun c hc => (List.mem_append.mp hc).elim (hw c) (hf c)
    rw [← hmagnitude]
    exact Numeral.length_dropWhile_zero hall

theorem trim_toText (d : Decimal) : Text.trim d.toText = d.toText := by
  obtain ⟨l, hread, -⟩ := d.read?_toText
  exact (DecimalLiteral.read?_eq_some_iff.mp hread).trim_eq

/-- A literal is neither NaN nor an infinity, whose names have no digits. -/
theorem isSpecial_of_spells {l : DecimalLiteral} {s : List Char} (h : l.Spells s) :
    isSpecial s = false := by
  obtain ⟨c, hc, hdigit⟩ := h.exists_isDigit
  have hdrop : c ∈ s.dropWhile fun c => c == '+' || c == '-' := by
    have hsplit := List.takeWhile_append_dropWhile (p := fun c => c == '+' || c == '-') (l := s)
    rw [← hsplit, List.mem_append] at hc
    refine hc.resolve_left fun h => ?_
    have := List.mem_takeWhile_imp h
    simp only [Bool.or_eq_true, beq_iff_eq] at this
    rcases this with rfl | rfl <;> exact absurd hdigit (by decide)
  rw [isSpecial, Text.sameFold_eq_false_of_isDigit hc hdigit (by decide),
    Text.sameFold_eq_false_of_isDigit hdrop hdigit (by decide), Bool.or_false]

theorem isSpecial_toText (d : Decimal) : isSpecial d.toText = false := by
  obtain ⟨l, hread, -⟩ := d.read?_toText
  exact isSpecial_of_spells (DecimalLiteral.read?_eq_some_iff.mp hread)

/-- Groups of four digits that the digits before the point and those behind it fill, each side
rounded up. -/
def textGroups (d : Decimal) : Int :=
  (max ((Numeral.digits d.expand.unscaled.natAbs).length - max d.scale 0) 0 + 3) / 4 +
    (max d.scale 0 + 3) / 4

/-- The text of a decimal is read back within the limits and out of range beyond them. Texts so
long that 64-bit words cannot count their digits are left aside. -/
theorem ofText_toText {d : Decimal} (hscale : d.scale < 2 ^ 62)
    (hlen : (Numeral.digits d.expand.unscaled.natAbs).length < 2 ^ 62) :
    ofText d.toText =
      if d.scale ≤ 16383 ∧ d.textGroups ≤ 32767 then .ok d.expand
      else .error (.rejected (.outOfRange .numeric (abbreviate d.toText))) := by
  obtain ⟨l, hread, hunscaled, hl, hcount⟩ := d.read?_toText
  have hword : wordDigits l =
      (Numeral.digits d.expand.unscaled.natAbs).length - max d.scale 0 := by
    rw [wordDigits, hcount, hl]
    exact Int.bmod_eq_of_le (by omega) (by omega)
  have hlimits := exceedsLimits_eq_false_iff (l := l) (by omega) (by omega)
  rw [hword, hl] at hlimits
  have hdecimal : (⟨l.unscaled, l.scale⟩ : Decimal) = d.expand := by
    rw [hunscaled, hl, ← expand_scale]
  have hrange : ¬(l.scale < -0x8000000000000000 ∨ 0x8000000000000000 ≤ l.scale) := by omega
  have hzeros : ¬(l.unscaled ≠ 0 ∧ l.scale < -maxZeros) := by
    rw [maxZeros]
    omega
  simp only [ofText, trim_toText, isSpecial_toText, hread, hdecimal, if_neg hrange, if_neg hzeros]
  by_cases hexceeds : exceedsLimits l = false
  · have hmax := hlimits.mp hexceeds
    have hfits : d.scale ≤ 16383 ∧ d.textGroups ≤ 32767 := by
      rw [textGroups]
      omega
    rw [if_pos hfits, hexceeds, expand_of_scale_nonneg]
    · rfl
    · rw [expand_scale]
      omega
  · have hmax := mt hlimits.mpr hexceeds
    have hfits : ¬(d.scale ≤ 16383 ∧ d.textGroups ≤ 32767) := by
      rw [textGroups]
      omega
    rw [if_neg hfits, eq_true_of_ne_false hexceeds]
    rfl

end ScalarWire.Decimal
