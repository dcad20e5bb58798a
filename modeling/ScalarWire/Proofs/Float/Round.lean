import ScalarWire.Proofs.Float.Nearest
import ScalarWire.Proofs.Number.Quotient

/-!
# Rounding to the nearest pattern

`round` finds the nearest pattern of every quotient. The quotient is counted in the unit of the
power of two that it lies in, but never in one below the least, and the count is rounded to a whole
number. This is the nearest pattern because the two whole numbers around the count are neighbours
also as patterns.
-/

namespace ScalarWire

/-- A quotient lies from the power of two that is found for it up to the next one. -/
theorem floorLog2_spec {num den : Nat} (hnum : num ≠ 0) (hden : den ≠ 0) :
    (2 : ℚ) ^ floorLog2 num den ≤ num / den ∧ (num / den : ℚ) < 2 ^ (floorLog2 num den + 1) := by
  have hnumLow : (2 : ℚ) ^ (num.log2 : Int) ≤ num := by
    rw [zpow_natCast]
    exact_mod_cast Nat.log2_self_le hnum
  have hnumHigh : (num : ℚ) < 2 ^ (num.log2 + 1 : Int) := by
    exact_mod_cast Nat.lt_log2_self (n := num)
  have hdenLow : (2 : ℚ) ^ (den.log2 : Int) ≤ den := by
    rw [zpow_natCast]
    exact_mod_cast Nat.log2_self_le hden
  have hdenHigh : (den : ℚ) < 2 ^ (den.log2 + 1 : Int) := by
    exact_mod_cast Nat.lt_log2_self (n := den)
  have hpos : (0 : ℚ) < den := Nat.cast_pos.mpr (Nat.pos_of_ne_zero hden)
  have htest := mul_pow_le_mul_pow_iff (by decide : 2 ≠ 0) num hden (num.log2 - den.log2)
  rw [Nat.cast_ofNat] at htest
  simp only [floorLog2]
  split_ifs with h
  · refine ⟨htest.mp h, ?_⟩
    rw [div_lt_iff₀ hpos]
    calc (num : ℚ) < 2 ^ (num.log2 + 1 : Int) := hnumHigh
      _ = 2 ^ ((num.log2 : Int) - den.log2 + 1) * 2 ^ (den.log2 : Int) := by
          rw [← zpow_add₀ (by norm_num)]
          congr 1
          ring
      _ ≤ 2 ^ ((num.log2 : Int) - den.log2 + 1) * den := by gcongr
  · rw [sub_add_cancel]
    refine ⟨?_, not_le.mp fun hle => h (htest.mpr hle)⟩
    rw [le_div_iff₀ hpos]
    calc 2 ^ ((num.log2 : Int) - den.log2 - 1) * (den : ℚ)
        ≤ 2 ^ ((num.log2 : Int) - den.log2 - 1) * 2 ^ (den.log2 + 1 : Int) := by gcongr
      _ = 2 ^ (num.log2 : Int) := by
          rw [← zpow_add₀ (by norm_num)]
          congr 1
          ring
      _ ≤ num := hnumLow

/-- A count is rounded to the whole number below it up to the middle, to the one above it from
there, and in the middle to the even one. -/
def IsRoundedFrom (below : Nat) (count : ℚ) (whole : Nat) : Prop :=
  whole = below ∧ (2 * (count - below) < 1 ∨ 2 * (count - below) = 1 ∧ below % 2 = 0) ∨
    whole = below + 1 ∧ (1 < 2 * (count - below) ∨ 1 = 2 * (count - below) ∧ below % 2 = 1)

theorem exists_isRoundedFrom (num : Nat) {den : Nat} (hden : den ≠ 0) (shift : Int) :
    ∃ below : Nat, (below : ℚ) ≤ num / den / 2 ^ shift ∧
      (num / den / 2 ^ shift : ℚ) < below + 1 ∧
      IsRoundedFrom below (num / den / 2 ^ shift) (roundScaled num den shift) := by
  have hvalue := cast_mul_pow_div (by decide : 2 ≠ 0) num den shift
  rw [Nat.cast_ofNat] at hvalue
  simp only [roundScaled]
  rw [← hvalue]
  have hpos : 0 < den * 2 ^ shift.toNat := by positivity
  generalize num * 2 ^ (-shift).toNat = n at *
  generalize den * 2 ^ shift.toNat = d at *
  have hd : (0 : ℚ) < d := Nat.cast_pos.mpr hpos
  have hdivide : (n : ℚ) / d = (n / d : Nat) + (n % d : Nat) / d := by
    rw [div_eq_iff hd.ne', add_mul, div_mul_cancel₀ _ hd.ne']
    exact_mod_cast (Nat.div_add_mod' n d).symm
  have hrest : 2 * ((n : ℚ) / d - (n / d : Nat)) = (2 * (n % d) : Nat) / d := by
    rw [hdivide]
    push_cast
    ring
  refine ⟨n / d, ?_, ?_, ?_⟩
  · rw [hdivide]
    exact le_add_of_nonneg_right (by positivity)
  · rw [hdivide, add_lt_add_iff_left, div_lt_one hd]
    exact_mod_cast Nat.mod_lt n hpos
  · rw [IsRoundedFrom, hrest, div_lt_one hd, div_eq_one_iff_eq hd.ne', one_lt_div hd,
      eq_comm (a := (1 : ℚ)), div_eq_one_iff_eq hd.ne', Nat.cast_lt, Nat.cast_inj, Nat.cast_lt]
    split_ifs with h
    · exact Or.inl ⟨rfl, h⟩
    · exact Or.inr ⟨rfl, by omega⟩

namespace FloatFormat

variable {f : FloatFormat}

/-- The number of units in a quotient has the width of a significand. It falls short of it only
where the unit is the least one. -/
theorem count_bounds {x y : ℚ} {top : Int} {k : Nat} (hlow : (2 : ℚ) ^ top ≤ x)
    (hhigh : x < 2 ^ (top + 1)) (hk : max f.minExponent (top - f.fractionBits) = f.minExponent + k)
    (hy : x = y * 2 ^ (f.minExponent + k : Int)) :
    y < 2 ^ (f.fractionBits + 1) ∧ (k = 0 ∨ 2 ^ f.fractionBits ≤ y) := by
  have hunit : (0 : ℚ) < 2 ^ (f.minExponent + k : Int) := zpow_pos (by norm_num) _
  rw [hy] at hlow hhigh
  constructor
  · apply lt_of_mul_lt_mul_right _ hunit.le
    calc y * 2 ^ (f.minExponent + k : Int) < 2 ^ (top + 1) := hhigh
      _ ≤ 2 ^ ((f.fractionBits + 1 : Nat) + (f.minExponent + k : Int)) :=
          zpow_le_zpow_right₀ (by norm_num) (by omega)
      _ = 2 ^ (f.fractionBits + 1) * 2 ^ (f.minExponent + k : Int) := by
          rw [zpow_add₀ (by norm_num), zpow_natCast]
  · rcases Nat.eq_zero_or_pos k with h0 | hpos
    · exact Or.inl h0
    · right
      apply le_of_mul_le_mul_right _ hunit
      calc 2 ^ f.fractionBits * 2 ^ (f.minExponent + k : Int)
          = 2 ^ ((f.fractionBits : Int) + (f.minExponent + k : Int)) := by
            rw [← zpow_natCast, ← zpow_add₀ (by norm_num)]
        _ = (2 : ℚ) ^ top := by
            congr 1
            omega
        _ ≤ y * 2 ^ (f.minExponent + k : Int) := hlow

/-- The two whole numbers around a count of units are neighbours as patterns, so the one that the
count is rounded to is the nearest pattern. -/
theorem closer_of_isRoundedFrom (hf : f.WithinDouble) {k below whole : Nat} {count : ℚ}
    (hfull : k = 0 ∨ 2 ^ f.fractionBits ≤ below) (hbelow : below < 2 ^ (f.fractionBits + 1))
    (hle : below ≤ count) (hlt : count < below + 1) (hround : IsRoundedFrom below count whole)
    {other : Nat} (hother : other ≠ k * 2 ^ f.fractionBits + whole) :
    f.Closer (count * 2 ^ (f.minExponent + k : Int)) (k * 2 ^ f.fractionBits + whole) other := by
  have hpow : (0 : ℚ) < 2 ^ (f.minExponent + k : Int) := zpow_pos (by norm_num) _
  have hmagnitude := magnitude_mul_add_of_lt hfull hbelow
  have hunit : f.unit (k * 2 ^ f.fractionBits + below) = 2 ^ (f.minExponent + k : Int) := by
    rw [unit, (significand_and_unitExponent hfull hbelow).2]
  have hdist : 2 * (count * 2 ^ (f.minExponent + k : Int) -
      f.magnitude (k * 2 ^ f.fractionBits + below)) =
        2 * (count - below) * 2 ^ (f.minExponent + k : Int) := by
    rw [hmagnitude]
    ring
  have hparity : (k * 2 ^ f.fractionBits + below) % 2 = below % 2 := by
    obtain ⟨p, hp⟩ := Nat.exists_eq_succ_of_ne_zero (Nat.one_le_iff_ne_zero.mp hf.1)
    rw [hp, Nat.pow_succ, ← Nat.mul_assoc, Nat.mul_add_mod_self_right]
  rcases hround with ⟨rfl, hhalf⟩ | ⟨rfl, hhalf⟩
  · refine closer_of_le_half ?_ ?_ hother
    · rw [hmagnitude]
      gcongr
    · rw [hdist, hunit, hparity]
      refine hhalf.imp (mul_lt_of_lt_one_left hpow) (And.imp_left fun h => ?_)
      rw [h, one_mul]
  · rw [← add_assoc] at hother ⊢
    refine closer_succ_of_half_le ?_ ?_ hother
    · rw [magnitude_succ, hmagnitude, hunit, ← add_one_mul]
      gcongr
    · rw [hdist, hunit, hparity]
      refine hhalf.imp (lt_mul_of_one_lt_left hpow) (And.imp_left fun h => ?_)
      rw [← h, one_mul]

/-- The pattern that a quotient is rounded to is the nearest one. -/
theorem isNearest_round (hf : f.WithinDouble) (num : Nat) {den : Nat} (hden : den ≠ 0) :
    f.IsNearest (num / den) (f.round num den) := by
  rw [round]
  split_ifs with hnum
  · rw [hnum, Nat.cast_zero, zero_div]
    exact isNearest_zero_zero
  · obtain ⟨hlow, hhigh⟩ := floorLog2_spec hnum hden
    obtain ⟨k, hk⟩ : ∃ k : Nat,
        max f.minExponent (floorLog2 num den - f.fractionBits) = f.minExponent + k :=
      ⟨_, by rw [Int.toNat_of_nonneg (sub_nonneg.mpr (le_max_left _ _)), add_sub_cancel]⟩
    simp only [hk, add_sub_cancel_left, Int.toNat_natCast]
    obtain ⟨below, hle, hlt, hround⟩ := exists_isRoundedFrom num hden (f.minExponent + k)
    have hpow : (2 : ℚ) ^ (f.minExponent + k : Int) ≠ 0 := zpow_ne_zero _ (by norm_num)
    have hx := (div_mul_cancel₀ (num / den : ℚ) hpow).symm
    obtain ⟨hcount, hhidden⟩ := count_bounds hlow hhigh hk hx
    have hbelow : below < 2 ^ (f.fractionBits + 1) := by
      exact_mod_cast hle.trans_lt hcount
    have hfull : k = 0 ∨ 2 ^ f.fractionBits ≤ below := by
      refine hhidden.imp_right fun h => Nat.lt_succ_iff.mp ?_
      exact_mod_cast h.trans_lt hlt
    rw [hx]
    exact isNearest_min fun other => closer_of_isRoundedFrom hf hfull hbelow hle hlt hround

end FloatFormat

end ScalarWire
