import Mathlib.Algebra.Order.Field.Power
import Mathlib.Data.Rat.Cast.Order
import Mathlib.Tactic.Positivity
import Mathlib.Tactic.Ring
import ScalarWire.Proofs.Number.Numeral

/-!
# Quotients and powers

A whole number or a quotient of two, times a power of a base with an exponent of either sign, is a
quotient of whole numbers: the power goes to the side where it is whole. The number of digits of a
whole number says which powers of ten it reaches.
-/

namespace ScalarWire

/-- A quotient counted in powers of a base, with the power on the side where it is whole. -/
theorem cast_mul_pow_div {base : Nat} (hbase : base ≠ 0) (num den : Nat) (exponent : Int) :
    ((num * base ^ (-exponent).toNat : Nat) : ℚ) / (den * base ^ exponent.toNat : Nat) =
      num / den / base ^ exponent := by
  have hcast : (base : ℚ) ≠ 0 := Nat.cast_ne_zero.mpr hbase
  obtain ⟨n, rfl | rfl⟩ := exponent.eq_nat_or_neg
  · simp only [Int.toNat_neg_natCast, Int.toNat_natCast, pow_zero, mul_one, zpow_natCast]
    push_cast
    rw [div_div]
  · simp only [neg_neg, Int.toNat_neg_natCast, Int.toNat_natCast, pow_zero, mul_one, zpow_neg,
      zpow_natCast]
    push_cast
    rw [div_inv_eq_mul, mul_div_right_comm]

/-- A product with a power of a base, as a quotient of whole numbers. -/
theorem cast_mul_pow_div_pow {base : Nat} (hbase : base ≠ 0) (n : Nat) (exponent : Int) :
    ((n * base ^ exponent.toNat : Nat) : ℚ) / (base ^ (-exponent).toNat : Nat) =
      n * base ^ exponent := by
  have h := cast_mul_pow_div hbase n 1 (-exponent)
  rw [neg_neg, Nat.one_mul, Nat.cast_one, div_one, zpow_neg, div_inv_eq_mul] at h
  exact h

/-- A quotient holds a power of a base exactly if it does so in whole numbers. -/
theorem mul_pow_le_mul_pow_iff {base : Nat} (hbase : base ≠ 0) (num : Nat) {den : Nat}
    (hden : den ≠ 0) (exponent : Int) :
    den * base ^ exponent.toNat ≤ num * base ^ (-exponent).toNat ↔
      (base : ℚ) ^ exponent ≤ num / den := by
  have hpos : 0 < den * base ^ exponent.toNat := by positivity
  have hpow : (0 : ℚ) < (base : ℚ) ^ exponent := by positivity
  rw [← Nat.cast_le (α := ℚ), ← one_le_div (Nat.cast_pos.mpr hpos),
    cast_mul_pow_div hbase num den exponent, one_le_div hpow]

/-- The powers of ten up to a number are those below the number of its digits. -/
theorem Numeral.zpow_le_iff {n : Nat} (hn : n ≠ 0) (e : Int) :
    (10 : ℚ) ^ e ≤ n ↔ e < (digits n).length := by
  rcases lt_or_ge e 0 with he | he
  · have hone : (10 : ℚ) ^ e ≤ 1 := zpow_le_one_of_nonpos₀ (by norm_num) he.le
    have hle : (1 : ℚ) ≤ n := by exact_mod_cast Nat.one_le_iff_ne_zero.mpr hn
    exact iff_of_true (hone.trans hle) (by omega)
  · obtain ⟨k, rfl⟩ := Int.eq_ofNat_of_zero_le he
    rw [zpow_natCast, Int.ofNat_lt]
    have hcast : (10 : ℚ) ^ k ≤ n ↔ 10 ^ k ≤ n := by
      rw [← Nat.cast_le (α := ℚ), Nat.cast_pow, Nat.cast_ofNat]
    rw [hcast]
    by_cases hk : k = 0
    · have hlen := List.length_pos_iff.mpr (digits_ne_nil n)
      rw [hk, pow_zero]
      omega
    · rw [← not_lt, ← length_digits_le_iff (Nat.pos_of_ne_zero hk), not_le]

end ScalarWire
