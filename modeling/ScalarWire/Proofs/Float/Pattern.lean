import ScalarWire.Proofs.Float.Round
import ScalarWire.Value

/-!
# Patterns and numbers

A pattern is a sign and a magnitude. Up to infinity it stands for a number, which has no other
pattern; then come infinity and the patterns that are no number. Carried over to another format a
number is rounded, and every number of a format no wider than a double is one of the doubles.
-/

namespace ScalarWire

/-- The number that a finite value is, and its sign, which zero has too. -/
def FloatValue.Denotes (v : FloatValue) (negative : Bool) (x : ℚ) : Prop :=
  ∃ mantissa exponent, v = .finite negative mantissa exponent ∧ x = mantissa * 2 ^ exponent

namespace FloatFormat

variable {f g : FloatFormat} {negative : Bool} {bits : Nat} {x : ℚ}

theorem infinityBits_lt_signBit (f : FloatFormat) : f.infinityBits < f.signBit := by
  rw [infinityBits, signBit, pow_add]
  exact Nat.mul_lt_mul_of_pos_right (Nat.sub_lt (Nat.two_pow_pos _) Nat.one_pos)
    (Nat.two_pow_pos _)

theorem isNegative_signed (h : bits < f.signBit) :
    f.isNegative (f.signed negative bits) = negative := by
  cases negative with
  | false => exact decide_eq_false h.not_ge
  | true => exact decide_eq_true (Nat.le_add_left _ _)

theorem signed_mod (h : bits < f.signBit) : f.signed negative bits % f.signBit = bits := by
  cases negative with
  | false => exact Nat.mod_eq_of_lt h
  | true => exact (Nat.add_mod_right _ _).trans (Nat.mod_eq_of_lt h)

theorem signed_lt (h : bits < f.signBit) : f.signed negative bits < 2 * f.signBit := by
  cases negative with
  | false => exact h.trans_le (Nat.le_mul_of_pos_left _ Nat.two_pos)
  | true =>
      change bits + f.signBit < 2 * f.signBit
      omega

/-- Every pattern is a sign and a pattern without one. -/
theorem signed_isNegative (h : bits < 2 * f.signBit) :
    f.signed (f.isNegative bits) (bits % f.signBit) = bits := by
  rcases Nat.lt_or_ge bits f.signBit with hlt | hge
  · rw [isNegative, decide_eq_false hlt.not_ge, Nat.mod_eq_of_lt hlt]
    rfl
  · rw [isNegative, decide_eq_true hge, Nat.mod_eq_sub_mod hge, Nat.mod_eq_of_lt (by omega)]
    exact Nat.sub_add_cancel hge

theorem decode_signed (h : bits < f.infinityBits) :
    f.decode (f.signed negative bits) =
      .finite negative (f.significand bits) (f.unitExponent bits) := by
  have hsign := h.trans (infinityBits_lt_signBit f)
  simp only [decode, isNegative_signed hsign, signed_mod hsign]
  rw [if_neg h.not_gt, if_neg h.ne, significand, unitExponent]
  split_ifs with hfield
  · rw [hfield]
    simp
  · rw [Nat.cast_sub (Nat.one_le_iff_ne_zero.mpr hfield), Nat.cast_one, add_sub_assoc]

theorem decode_signed_infinityBits :
    f.decode (f.signed negative f.infinityBits) = .infinite negative := by
  have hsign := infinityBits_lt_signBit f
  simp [decode, isNegative_signed hsign, signed_mod hsign]

theorem decode_of_infinityBits_lt (h : f.infinityBits < bits % f.signBit) :
    f.decode bits = .nan :=
  if_pos h

/-- A pattern is a number, an infinity or no number. -/
theorem pattern_cases (h : bits < 2 * f.signBit) :
    (∃ negative magnitude, magnitude < f.infinityBits ∧ bits = f.signed negative magnitude) ∨
      (∃ negative, bits = f.signed negative f.infinityBits) ∨ f.decode bits = .nan := by
  have hsigned := signed_isNegative h
  rcases lt_trichotomy (bits % f.signBit) f.infinityBits with hlt | heq | hgt
  · exact Or.inl ⟨_, _, hlt, hsigned.symm⟩
  · rw [heq] at hsigned
    exact Or.inr (Or.inl ⟨_, hsigned.symm⟩)
  · exact Or.inr (Or.inr (decode_of_infinityBits_lt hgt))

theorem denotes_decode_signed (h : bits < f.infinityBits) :
    (f.decode (f.signed negative bits)).Denotes negative (f.magnitude bits) :=
  ⟨_, _, decode_signed h, rfl⟩

/-- A number has only the pattern of its sign and its magnitude. -/
theorem exists_of_denotes (hbits : bits < 2 * f.signBit)
    (h : (f.decode bits).Denotes negative x) :
    ∃ magnitude < f.infinityBits, bits = f.signed negative magnitude ∧
      x = f.magnitude magnitude := by
  obtain ⟨mantissa, exponent, hdecode, rfl⟩ := h
  rcases pattern_cases hbits with ⟨sign, magnitude, hlt, rfl⟩ | ⟨sign, rfl⟩ | hnan
  · rw [decode_signed hlt] at hdecode
    cases hdecode
    exact ⟨magnitude, hlt, rfl, rfl⟩
  · exact nomatch decode_signed_infinityBits.symm.trans hdecode
  · exact nomatch hnan.symm.trans hdecode

/-- The product of a mantissa and a power of two is rounded to the nearest pattern. -/
theorem isNearest_roundBinary (hf : f.WithinDouble) (mantissa : Nat) (exponent : Int) :
    f.IsNearest (mantissa * 2 ^ exponent) (f.roundBinary mantissa exponent) := by
  have h := isNearest_round hf (mantissa * 2 ^ exponent.toNat)
    (Nat.two_pow_pos (-exponent).toNat).ne'
  rw [cast_mul_pow_div_pow (by decide : 2 ≠ 0), Nat.cast_ofNat] at h
  exact h

/-- A number of one format is rounded to the nearest pattern of another one. -/
theorem exists_convert_signed (hg : g.WithinDouble) (h : bits < f.infinityBits)
    (negative : Bool) :
    ∃ nearest, f.convert g (f.signed negative bits) = g.signed negative nearest ∧
      g.IsNearest (f.magnitude bits) nearest := by
  refine ⟨_, ?_, isNearest_roundBinary hg (f.significand bits) (f.unitExponent bits)⟩
  rw [convert, decode_signed h]

theorem convert_signed_infinityBits :
    f.convert g (f.signed negative f.infinityBits) = g.signed negative g.infinityBits := by
  rw [convert, decode_signed_infinityBits]

/-- Infinity stands where the next power of two would. -/
theorem magnitude_infinityBits (hf : f.WithinDouble) :
    f.magnitude f.infinityBits = 2 ^ (2 ^ (f.exponentBits - 1)) := by
  obtain ⟨n, hn⟩ := Nat.exists_eq_succ_of_ne_zero
    (Nat.one_le_iff_ne_zero.mp (Nat.le_of_succ_le hf.two_le_exponentBits))
  have hpow : 2 ^ f.exponentBits = 2 * 2 ^ n := by rw [hn, pow_succ, mul_comm]
  have hpos := Nat.two_pow_pos n
  have hbits : f.infinityBits =
      (2 * 2 ^ n - 2) * 2 ^ f.fractionBits + 2 ^ f.fractionBits := by
    rw [infinityBits, hpow, ← Nat.succ_mul]
    congr 1
    omega
  have hmin : f.minExponent = 2 - (2 ^ n : Nat) - f.fractionBits := by
    rw [minExponent, hn]
    push_cast
    rfl
  rw [hbits, magnitude_mul_add_of_lt (Or.inr le_rfl) (Nat.pow_lt_pow_right (by omega) (by omega)),
    hn, Nat.succ_sub_one]
  push_cast
  rw [← zpow_natCast, ← zpow_natCast, ← zpow_add₀ (by norm_num)]
  congr 1
  omega

/-- The bounds of the exponents of a format no wider than a double. -/
theorem minExponent_ge (hf : f.WithinDouble) : -1074 ≤ f.minExponent := by
  have hpow : 2 ^ (f.exponentBits - 1) ≤ 2 ^ 10 :=
    Nat.pow_le_pow_right (by decide) (Nat.sub_le_sub_right hf.exponentBits_le 1)
  have hfraction := hf.fractionBits_le
  have hcast : ((2 ^ (f.exponentBits - 1) : Nat) : Int) ≤ 1024 := by exact_mod_cast hpow
  push_cast at hcast
  rw [minExponent]
  omega

/-- Every number of a format no wider than a double is a double. -/
theorem exists_double_magnitude_eq (hf : f.WithinDouble) (h : bits < f.infinityBits) :
    ∃ wide < double.infinityBits, double.magnitude wide = f.magnitude bits := by
  have hmin := minExponent_ge hf
  have hwidth : f.significand bits < 2 ^ (double.fractionBits + 1) :=
    (significand_lt bits).trans_le
      (Nat.pow_le_pow_right (by decide) (Nat.succ_le_succ hf.fractionBits_le))
  obtain ⟨k, hk⟩ : ∃ k : Nat, f.unitExponent bits = double.minExponent + k := by
    refine ⟨(f.unitExponent bits + 1074).toNat, ?_⟩
    have hdouble : double.minExponent = -1074 := by decide
    rw [hdouble, unitExponent]
    omega
  obtain ⟨wide, hwide⟩ := exists_magnitude_eq (f := double) k hwidth
  rw [← hk] at hwide
  have hmagnitude : double.magnitude wide = f.magnitude bits := hwide
  have htop : f.magnitude f.infinityBits ≤ double.magnitude double.infinityBits := by
    rw [magnitude_infinityBits hf, magnitude_infinityBits withinDouble_double]
    exact pow_le_pow_right₀ (by norm_num) (Nat.pow_le_pow_right (by decide)
      (Nat.sub_le_sub_right hf.exponentBits_le 1))
  refine ⟨wide, (magnitude_strictMono (f := double)).lt_iff_lt.mp ?_, hmagnitude⟩
  rw [hmagnitude]
  exact (magnitude_strictMono h).trans_le htop

/-- A number carried over to a double is the same number. -/
theorem exists_convert_double (hf : f.WithinDouble) (h : bits < f.infinityBits)
    (negative : Bool) :
    ∃ wide < double.infinityBits,
      f.convert double (f.signed negative bits) = double.signed negative wide ∧
        double.magnitude wide = f.magnitude bits := by
  obtain ⟨nearest, hconvert, hnearest⟩ := exists_convert_signed withinDouble_double h negative
  obtain ⟨wide, hlt, hwide⟩ := exists_double_magnitude_eq hf h
  rw [← hwide] at hnearest
  rw [hnearest.unique (isNearest_magnitude hlt.le)] at hconvert
  exact ⟨wide, hlt, hconvert, hwide⟩

end FloatFormat

namespace Double

open FloatFormat

variable {v w : Double} {negative : Bool} {x : ℚ}

theorem two_mul_signBit_double : 2 * double.signBit = UInt64.size := by
  decide

theorem toNat_lt (v : Double) : v.toNat < 2 * double.signBit :=
  two_mul_signBit_double ▸ v.bits.toNat_lt_size

theorem ofNat_toNat (v : Double) : ofNat v.toNat = v :=
  congrArg Double.mk UInt64.ofNat_toNat

theorem toNat_ofNat {bits : Nat} (h : bits < 2 * double.signBit) : (ofNat bits).toNat = bits :=
  UInt64.toNat_ofNat_of_lt' (h.trans_eq two_mul_signBit_double)

/-- A double is a number, an infinity or no number. -/
theorem value_cases (v : Double) :
    (∃ negative bits, bits < double.infinityBits ∧ v = ofNat (double.signed negative bits)) ∨
      (∃ negative, v = ofNat (double.signed negative double.infinityBits)) ∨ v.value = .nan := by
  rcases pattern_cases v.toNat_lt with ⟨negative, bits, hlt, h⟩ | ⟨negative, h⟩ | h
  · exact Or.inl ⟨negative, bits, hlt, h ▸ v.ofNat_toNat.symm⟩
  · exact Or.inr (Or.inl ⟨negative, h ▸ v.ofNat_toNat.symm⟩)
  · exact Or.inr (Or.inr h)

theorem toNat_ofNat_signed {bits : Nat} (h : bits ≤ double.infinityBits) :
    (ofNat (double.signed negative bits)).toNat = double.signed negative bits :=
  toNat_ofNat (signed_lt (h.trans_lt (infinityBits_lt_signBit double)))

theorem denotes_ofNat_signed {bits : Nat} (h : bits < double.infinityBits) :
    (ofNat (double.signed negative bits)).value.Denotes negative (double.magnitude bits) := by
  rw [value, toNat_ofNat_signed h.le]
  exact denotes_decode_signed h

theorem value_ofNat_infinityBits :
    (ofNat (double.signed negative double.infinityBits)).value = .infinite negative := by
  rw [value, toNat_ofNat_signed le_rfl]
  exact decode_signed_infinityBits

theorem exists_of_denotes (h : v.value.Denotes negative x) :
    ∃ bits < double.infinityBits, v = ofNat (double.signed negative bits) ∧
      x = double.magnitude bits := by
  obtain ⟨bits, hlt, hv, hx⟩ := FloatFormat.exists_of_denotes v.toNat_lt h
  exact ⟨bits, hlt, hv ▸ v.ofNat_toNat.symm, hx⟩

/-- A number is one double only. -/
theorem eq_of_denotes (hv : v.value.Denotes negative x) (hw : w.value.Denotes negative x) :
    v = w := by
  obtain ⟨bits, -, rfl, rfl⟩ := exists_of_denotes hv
  obtain ⟨other, -, rfl, hx⟩ := exists_of_denotes hw
  rw [magnitude_strictMono.injective hx]

/-- A number read in the precision of a format is kept as the double that is the same number. -/
theorem denotes_ofNat_convert {f : FloatFormat} (hf : f.WithinDouble) {bits : Nat}
    (h : bits < f.infinityBits) :
    (ofNat (f.convert .double (f.signed negative bits))).value.Denotes negative
      (f.magnitude bits) := by
  obtain ⟨wide, hlt, hconvert, hwide⟩ := exists_convert_double hf h negative
  rw [hconvert, ← hwide]
  exact denotes_ofNat_signed hlt

end Double

end ScalarWire
