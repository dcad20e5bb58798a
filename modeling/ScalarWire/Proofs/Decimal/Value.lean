import Mathlib.Algebra.Order.Field.Power
import Mathlib.Data.Rat.Cast.Order
import Mathlib.Tactic.Ring
import ScalarWire.Decimal.Basic

/-!
# The rational value of a decimal

`Decimal.toRat` is the number that a decimal denotes. A decimal is determined by its value and
its scale, so a change of scale that keeps the value is determined by it.
-/

namespace ScalarWire.Decimal

/-- The number that a decimal denotes. -/
def toRat (d : Decimal) : ℚ :=
  d.unscaled * 10 ^ (-d.scale)

theorem toRat_mk (u s : Int) : toRat ⟨u, s⟩ = u * 10 ^ (-s) := rfl

theorem toRat_eq_zero_iff {d : Decimal} : d.toRat = 0 ↔ d.unscaled = 0 := by
  simp [toRat, zpow_ne_zero]

/-- Digits behind the point may be added and, where they are zeros, taken away. -/
theorem mul_pow_of_toRat_eq {u v s t : Int} (hst : s ≤ t) (h : toRat ⟨u, s⟩ = toRat ⟨v, t⟩) :
    v = u * 10 ^ (t - s).toNat := by
  have hpow : (10 : ℚ) ^ (-s) = 10 ^ (t - s).toNat * 10 ^ (-t) := by
    rw [← zpow_natCast, ← zpow_add₀ (by norm_num), Int.toNat_of_nonneg (by omega)]
    congr 1
    omega
  rw [toRat_mk, toRat_mk, hpow, ← mul_assoc, mul_left_inj' (zpow_ne_zero _ (by norm_num))] at h
  exact_mod_cast h.symm

theorem withScale_scale (d : Decimal) (s : Int) : (d.withScale s).scale = s := by
  unfold withScale
  split_ifs <;> rfl

theorem withScale_of_scale_le {d : Decimal} {s : Int} (h : d.scale ≤ s) :
    d.withScale s = ⟨d.unscaled * 10 ^ (s - d.scale).toNat, s⟩ := by
  unfold withScale
  split_ifs with h0
  · rw [h0, Int.zero_mul]
  · rfl

theorem withScale_of_lt_scale {d : Decimal} {s : Int} (h : s < d.scale) :
    d.withScale s = ⟨d.unscaled.tdiv (10 ^ (d.scale - s).toNat), s⟩ := by
  unfold withScale
  split_ifs with h0 hle
  · rw [h0, Int.zero_tdiv]
  · omega
  · rfl

/-- A number that has an exact form at the new scale takes that form. -/
theorem withScale_eq {d e : Decimal} (h : d.toRat = e.toRat) : d.withScale e.scale = e := by
  obtain ⟨u, s⟩ := e
  change d.withScale s = ⟨u, s⟩
  rcases le_or_gt d.scale s with hs | hs
  · rw [withScale_of_scale_le hs, mul_pow_of_toRat_eq hs h]
  · rw [withScale_of_lt_scale hs, mul_pow_of_toRat_eq hs.le h.symm,
      Int.mul_tdiv_cancel _ (pow_ne_zero _ (by decide))]

theorem toRat_withScale {d : Decimal} {s : Int} (h : d.scale ≤ s) :
    (d.withScale s).toRat = d.toRat := by
  have hpow : (10 : ℚ) ^ (-d.scale) = 10 ^ (s - d.scale).toNat * 10 ^ (-s) := by
    rw [← zpow_natCast, ← zpow_add₀ (by norm_num), Int.toNat_of_nonneg (by omega)]
    congr 1
    omega
  rw [withScale_of_scale_le h, toRat_mk, toRat, hpow]
  push_cast
  ring

theorem natAbs_withScale_of_lt {d : Decimal} {s : Int} (h : s < d.scale) :
    (d.withScale s).unscaled.natAbs = d.unscaled.natAbs / 10 ^ (d.scale - s).toNat := by
  rw [withScale_of_lt_scale h, Int.natAbs_tdiv, Int.natAbs_pow]
  rfl

theorem natAbs_withScale_of_le {d : Decimal} {s : Int} (h : d.scale ≤ s) :
    (d.withScale s).unscaled.natAbs = d.unscaled.natAbs * 10 ^ (s - d.scale).toNat := by
  rw [withScale_of_scale_le h, Int.natAbs_mul, Int.natAbs_pow]
  rfl

@[simp] theorem expand_scale (d : Decimal) : d.expand.scale = max d.scale 0 := by
  unfold expand
  split_ifs with h
  · rw [withScale_scale]
    omega
  · omega

@[simp] theorem toRat_expand (d : Decimal) : d.expand.toRat = d.toRat := by
  unfold expand
  split_ifs with h
  · exact toRat_withScale (by omega)
  · rfl

theorem expand_of_scale_nonneg {d : Decimal} (h : 0 ≤ d.scale) : d.expand = d :=
  if_neg (by omega)

theorem expand_unscaled_neg_iff (d : Decimal) : d.expand.unscaled < 0 ↔ d.unscaled < 0 := by
  unfold expand
  split_ifs with h
  · have hpos : (0 : Int) < 10 ^ (0 - d.scale).toNat := Int.pow_pos (by decide)
    rw [withScale_of_scale_le (by omega)]
    change d.unscaled * _ < 0 ↔ _
    refine ⟨fun hneg => ?_, fun hneg => Int.mul_neg_of_neg_of_pos hneg hpos⟩
    by_contra hnonneg
    have := Int.mul_nonneg (not_lt.mp hnonneg) hpos.le
    omega
  · rfl

theorem expand_unscaled_eq_zero_iff (d : Decimal) : d.expand.unscaled = 0 ↔ d.unscaled = 0 := by
  rw [← toRat_eq_zero_iff, toRat_expand, toRat_eq_zero_iff]

end ScalarWire.Decimal
