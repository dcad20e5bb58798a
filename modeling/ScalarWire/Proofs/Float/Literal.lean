import ScalarWire.Float.Text
import ScalarWire.Proofs.Decimal.Exact
import ScalarWire.Proofs.Float.Pattern
import ScalarWire.Proofs.Float.Shortest

/-!
# Literals rounded from their exact value

A literal is rounded to the pattern nearest to the number that it denotes. Its digits and its
exponent settle the literals beyond every number of a format, on either side. The digits of an
exponent that are passed over change nothing, unless the literal has tens of thousands of other
digits to make up for such an exponent.
-/

namespace ScalarWire

namespace DecimalLiteral

/-- The number of a literal without its sign, by all its digits. -/
theorem abs_toRat (l : DecimalLiteral) :
    |l.toRat| = Numeral.value l.digits * 10 ^ (l.exponent - l.fraction.length) := by
  rw [← Decimal.toRat_ofLiteral, Decimal.ofLiteral, Decimal.toRat_mk, scale, neg_sub, abs_mul,
    abs_zpow, Nat.abs_ofNat, ← Int.cast_abs, Int.abs_eq_natAbs, Decimal.natAbs_unscaled,
    Int.cast_natCast]

theorem toRat_eq_zero_iff (l : DecimalLiteral) : l.toRat = 0 ↔ l.magnitude = 0 := by
  rw [← abs_eq_zero, abs_toRat, mul_eq_zero, or_iff_left (zpow_ne_zero _ (by norm_num)),
    Nat.cast_eq_zero, magnitude]

end DecimalLiteral

namespace FloatFormat

variable {f : FloatFormat}

section settled

variable {digits : List Char} {exponent : Int}

/-- A number whose first digit stands this far behind the point rounds to zero. -/
theorem isNearest_zero_of_top_lt (hf : f.WithinDouble) (hdigits : ∀ c ∈ digits, c.isDigit)
    (htop : digits.length + exponent < -400) :
    f.IsNearest (Numeral.value digits * 10 ^ exponent) 0 := by
  have hvalue : (Numeral.value digits : ℚ) ≤ 10 ^ digits.length := by
    exact_mod_cast (Numeral.value_lt hdigits).le
  refine isNearest_zero (by positivity) ?_
  calc 2 * (Numeral.value digits * 10 ^ exponent : ℚ)
      ≤ 2 * (10 ^ digits.length * 10 ^ exponent) := by gcongr
    _ = 2 * 10 ^ (digits.length + exponent) := by rw [zpow_add₀ (by norm_num), zpow_natCast]
    _ ≤ 2 * 10 ^ (-400 : Int) := by
        gcongr
        · norm_num
    _ ≤ 2 ^ (-1074 : Int) := by
        rw [zpow_neg, zpow_neg, ← div_eq_mul_inv, div_le_iff₀ (by norm_num), inv_mul_eq_div,
          le_div_iff₀ (by norm_num)]
        exact_mod_cast (by decide +kernel : 2 * 2 ^ 1074 ≤ 10 ^ 400)
    _ ≤ 2 ^ f.minExponent := zpow_le_zpow_right₀ (by norm_num) (minExponent_ge hf)
    _ = f.unit 0 := by simp [unit, unitExponent]

/-- A number with so many digits before the point rounds to infinity. -/
theorem isNearest_infinityBits_of_lt_top (hf : f.WithinDouble)
    (hdigits : ∀ c ∈ digits, c.isDigit) (hne : digits ≠ []) (hhead : digits.head? ≠ some '0')
    (htop : 400 < digits.length + exponent) :
    f.IsNearest (Numeral.value digits * 10 ^ exponent) f.infinityBits := by
  have hlow : (10 : ℚ) ^ (digits.length - 1 : Int) ≤ Numeral.value digits := by
    rw [Numeral.zpow_le_iff (Numeral.value_ne_zero hdigits hne hhead),
      Numeral.digits_value hdigits hne hhead]
    exact Int.sub_one_lt_of_le le_rfl
  refine isNearest_infinityBits ?_
  have hpow : 2 ^ (f.exponentBits - 1) ≤ 2 ^ 10 :=
    Nat.pow_le_pow_right (by decide) (Nat.sub_le_sub_right hf.exponentBits_le 1)
  calc f.magnitude f.infinityBits
      = 2 ^ 2 ^ (f.exponentBits - 1) := magnitude_infinityBits hf
    _ ≤ 2 ^ 2 ^ 10 := pow_le_pow_right₀ (by norm_num) hpow
    _ ≤ 10 ^ 400 := by exact_mod_cast (by decide +kernel : 2 ^ 2 ^ 10 ≤ 10 ^ 400)
    _ ≤ 10 ^ (digits.length - 1 + exponent) := by
        rw [← zpow_natCast]
        exact zpow_le_zpow_right₀ (by norm_num) (by omega)
    _ = 10 ^ (digits.length - 1 : Int) * 10 ^ exponent := zpow_add₀ (by norm_num) _ _
    _ ≤ Numeral.value digits * 10 ^ exponent := by gcongr

end settled

/-- An exponent counts in full, or it has reached the cap with a digit left over. -/
theorem cappedValue_cases (digits : List Char) :
    cappedValue digits = Numeral.value digits ∨
      exponentCap ≤ cappedValue digits ∧ 10 * exponentCap ≤ Numeral.value digits := by
  induction digits using List.reverseRecOn with
  | nil => exact Or.inl rfl
  | append_singleton digits c ih =>
      have hvalue : Numeral.value (digits ++ [c]) =
          10 * Numeral.value digits + Numeral.digitValue c := by
        rw [Numeral.value_append, Nat.mul_comm]
        simp [Numeral.value, Radix.value_cons]
      have hcapped : cappedValue (digits ++ [c]) =
          if cappedValue digits < exponentCap then
            10 * cappedValue digits + Numeral.digitValue c
          else cappedValue digits := by
        rw [cappedValue, List.foldl_append]
        rfl
      rw [hvalue, hcapped]
      split_ifs <;> omega

variable (f) in
/-- A literal is read, its sign aside, as the pattern nearest to the number that it denotes. -/
def ReadsNearest (l : DecimalLiteral) : Prop :=
  ∃ bits, f.ofLiteral l = f.signed l.negative bits ∧ f.IsNearest |l.toRat| bits

section ofLiteral

variable {l : DecimalLiteral}

/-- The place of the first digit that is not zero, counted from the point, for some exponent. -/
def topPlace (l : DecimalLiteral) (exponent : Int) : Int :=
  (l.digits.dropWhile (· == '0')).length + (exponent - l.fraction.length)

/-- A literal is rounded right if its exponent counts in full, or if it is beyond every number by
the exponent that counts as well as by the one that is written. -/
theorem readsNearest_of_topPlace (hf : f.WithinDouble) (hdigits : ∀ c ∈ l.digits, c.isDigit)
    (h : cappedExponent l = l.exponent ∨
      (topPlace l (cappedExponent l) < -400 ∧ topPlace l l.exponent < -400) ∨
      (400 < topPlace l (cappedExponent l) ∧ 400 < topPlace l l.exponent)) :
    f.ReadsNearest l := by
  refine ⟨_, rfl, ?_⟩
  have hkept : ∀ c ∈ l.digits.dropWhile (· == '0'), c.isDigit :=
    fun c hc => hdigits c ((List.dropWhile_sublist _).subset hc)
  rw [topPlace, topPlace] at h
  rw [l.abs_toRat, ← Numeral.value_dropWhile_zero]
  have hhead := Numeral.head?_dropWhile_zero l.digits
  generalize l.digits.dropWhile (· == '0') = kept at *
  split_ifs with hsmall hlarge
  · rcases hsmall with rfl | hsmall
    · rw [show Numeral.value [] = 0 from rfl, Nat.cast_zero, zero_mul]
      exact isNearest_zero_zero
    · exact isNearest_zero_of_top_lt hf hkept (by omega)
  · exact isNearest_infinityBits_of_lt_top hf hkept (fun hnil => hsmall (Or.inl hnil)) hhead
      (by omega)
  · have hexponent : cappedExponent l = l.exponent := by omega
    rw [hexponent]
    exact isNearest_roundDecimal hf _ _

/-- A literal is rounded right unless an exponent of six digits stands beside more digits than
that exponent counts at least. -/
theorem readsNearest (hf : f.WithinDouble) (hdigits : ∀ c ∈ l.digits, c.isDigit)
    (h : Numeral.value l.exponentDigits < 655360 ∨ l.digits.length ≤ 65000) :
    f.ReadsNearest l := by
  refine readsNearest_of_topPlace hf hdigits ?_
  have hkept := (List.dropWhile_sublist (· == '0') (l := l.digits)).length_le
  have hfraction : l.fraction.length ≤ l.digits.length := by
    rw [DecimalLiteral.digits, List.length_append]
    omega
  rcases cappedValue_cases l.exponentDigits with hfull | ⟨hcapped, hwritten⟩
  · left
    rw [cappedExponent, hfull]
    rfl
  · rw [exponentCap] at hcapped hwritten
    rw [topPlace, topPlace, cappedExponent, DecimalLiteral.exponent, Numeral.negateIf,
      Numeral.negateIf]
    split_ifs <;> omega

end ofLiteral

end FloatFormat

end ScalarWire
