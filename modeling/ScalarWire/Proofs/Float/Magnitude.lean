import Mathlib.Algebra.Order.Field.Power
import Mathlib.Data.Rat.Cast.Order
import Mathlib.Order.Monotone.Basic
import Mathlib.Tactic.FieldSimp
import Mathlib.Tactic.Linarith
import Mathlib.Tactic.Positivity
import Mathlib.Tactic.Ring
import ScalarWire.Float.Format

/-!
# Magnitudes of patterns

A pattern without its sign is a significand times a power of two. Each pattern is one unit above the
pattern before it, so that patterns are ordered as the numbers that they stand for. Infinity stands
where the number behind the greatest one would.
-/

namespace ScalarWire.FloatFormat

variable {f : FloatFormat}

/-- A format no wider than a double, with a fraction and an exponent of some width. -/
structure WithinDouble (f : FloatFormat) : Prop where
  one_le_fractionBits : 1 ≤ f.fractionBits
  fractionBits_le : f.fractionBits ≤ 52
  two_le_exponentBits : 2 ≤ f.exponentBits
  exponentBits_le : f.exponentBits ≤ 11

theorem withinDouble_single : single.WithinDouble :=
  ⟨by decide, by decide, by decide, by decide⟩

theorem withinDouble_double : double.WithinDouble :=
  ⟨by decide, by decide, by decide, by decide⟩

variable (f) in
/-- The fraction of a pattern with the hidden bit, which only the least numbers lack. -/
def significand (bits : Nat) : Nat :=
  bits % 2 ^ f.fractionBits + if bits / 2 ^ f.fractionBits = 0 then 0 else 2 ^ f.fractionBits

variable (f) in
/-- The power of two that the last bit of a pattern counts. -/
def unitExponent (bits : Nat) : Int :=
  f.minExponent + (bits / 2 ^ f.fractionBits - 1 : Nat)

variable (f) in
/-- The distance from a pattern to the next one. -/
def unit (bits : Nat) : ℚ :=
  2 ^ f.unitExponent bits

variable (f) in
/-- The number that a pattern without its sign stands for. -/
def magnitude (bits : Nat) : ℚ :=
  f.significand bits * f.unit bits

theorem unit_pos (bits : Nat) : 0 < f.unit bits :=
  zpow_pos (by norm_num) _

theorem significand_lt (bits : Nat) : f.significand bits < 2 ^ (f.fractionBits + 1) := by
  have hfraction := Nat.mod_lt bits (Nat.two_pow_pos f.fractionBits)
  rw [significand, pow_succ]
  split_ifs <;> omega

/-- A significand is put back behind the power of two that its last bit counts. -/
theorem eq_mul_add_significand (bits : Nat) :
    bits = (bits / 2 ^ f.fractionBits - 1) * 2 ^ f.fractionBits + f.significand bits := by
  have hsplit := Nat.div_add_mod' bits (2 ^ f.fractionBits)
  rw [significand]
  split_ifs with h
  · rw [h, Nat.zero_mul] at hsplit
    rw [h]
    omega
  · obtain ⟨k, hk⟩ := Nat.exists_eq_succ_of_ne_zero h
    rw [hk, Nat.succ_mul] at hsplit
    rw [hk, Nat.succ_sub_one]
    omega

theorem hidden_le_significand (bits : Nat) :
    bits / 2 ^ f.fractionBits - 1 = 0 ∨ 2 ^ f.fractionBits ≤ f.significand bits := by
  rw [significand]
  split_ifs <;> omega

section scaled

variable {k m : Nat} (hk : k = 0 ∨ 2 ^ f.fractionBits ≤ m)
include hk

/-- The pattern of a significand that is within its width. -/
theorem significand_and_unitExponent (hm : m < 2 ^ (f.fractionBits + 1)) :
    f.significand (k * 2 ^ f.fractionBits + m) = m ∧
      f.unitExponent (k * 2 ^ f.fractionBits + m) = f.minExponent + k := by
  have hpos := Nat.two_pow_pos f.fractionBits
  rw [pow_succ] at hm
  rw [significand, unitExponent, Nat.mul_add_mod_self_right, Nat.add_comm (k * _),
    Nat.add_mul_div_right _ _ hpos]
  rcases Nat.lt_or_ge m (2 ^ f.fractionBits) with hlow | hhigh
  · obtain rfl : k = 0 := hk.resolve_right hlow.not_ge
    simp [Nat.mod_eq_of_lt hlow, Nat.div_eq_of_lt hlow]
  · have hdiv : m / 2 ^ f.fractionBits = 1 := Nat.div_eq_of_lt_le (by omega) (by omega)
    have hmod : m % 2 ^ f.fractionBits = m - 2 ^ f.fractionBits := by
      rw [Nat.mod_eq_sub_mod hhigh, Nat.mod_eq_of_lt (by omega)]
    rw [hdiv, hmod, if_neg (by omega)]
    omega

theorem magnitude_mul_add_of_lt (hm : m < 2 ^ (f.fractionBits + 1)) :
    f.magnitude (k * 2 ^ f.fractionBits + m) = m * 2 ^ (f.minExponent + k) := by
  obtain ⟨hsignificand, hunit⟩ := significand_and_unitExponent hk hm
  rw [magnitude, unit, hsignificand, hunit]

/-- A significand that has grown by one bit belongs to the next power of two. -/
theorem magnitude_mul_add (hm : m ≤ 2 ^ (f.fractionBits + 1)) :
    f.magnitude (k * 2 ^ f.fractionBits + m) = m * 2 ^ (f.minExponent + k) := by
  rcases hm.lt_or_eq with hlt | rfl
  · exact magnitude_mul_add_of_lt hk hlt
  · have hcarry : k * 2 ^ f.fractionBits + 2 ^ (f.fractionBits + 1) =
        (k + 1) * 2 ^ f.fractionBits + 2 ^ f.fractionBits := by
      ring
    rw [hcarry, magnitude_mul_add_of_lt (Or.inr le_rfl)
      (Nat.pow_lt_pow_right (by omega) (by omega))]
    push_cast
    rw [← add_assoc, zpow_add_one₀ (by norm_num)]
    ring

end scaled

theorem magnitude_succ (bits : Nat) : f.magnitude (bits + 1) = f.magnitude bits + f.unit bits := by
  have h := magnitude_mul_add (m := f.significand bits + 1)
    ((hidden_le_significand bits).imp_right Nat.le_succ_of_le) (significand_lt bits)
  rw [← add_assoc, ← eq_mul_add_significand] at h
  rw [h, magnitude, unit, unitExponent]
  push_cast
  ring

theorem magnitude_strictMono : StrictMono f.magnitude := by
  apply strictMono_nat_of_lt_succ
  intro bits
  rw [magnitude_succ]
  exact lt_add_of_pos_right _ (unit_pos bits)

@[simp] theorem magnitude_zero : f.magnitude 0 = 0 := by
  simp [magnitude, significand]

theorem magnitude_nonneg (bits : Nat) : 0 ≤ f.magnitude bits :=
  mul_nonneg (Nat.cast_nonneg _) (unit_pos bits).le

theorem magnitude_pos {bits : Nat} (h : bits ≠ 0) : 0 < f.magnitude bits := by
  rw [← magnitude_zero (f := f)]
  exact magnitude_strictMono (Nat.pos_of_ne_zero h)

/-- A magnitude is less than the unit times the numbers that a significand can be. -/
theorem magnitude_add_unit_le (bits : Nat) :
    f.magnitude bits + f.unit bits ≤ 2 ^ (f.fractionBits + 1) * f.unit bits := by
  have h : ((f.significand bits + 1 : Nat) : ℚ) ≤ ((2 ^ (f.fractionBits + 1) : Nat) : ℚ) :=
    Nat.cast_le.mpr (significand_lt bits)
  push_cast at h
  calc f.magnitude bits + f.unit bits = (f.significand bits + 1) * f.unit bits := by
        rw [magnitude]
        ring
    _ ≤ 2 ^ (f.fractionBits + 1) * f.unit bits :=
        mul_le_mul_of_nonneg_right h (unit_pos bits).le

/-- Every product of a significand and a power of two that is not too small is a magnitude. -/
theorem exists_magnitude_eq (k : Nat) {m : Nat} (hm : m < 2 ^ (f.fractionBits + 1)) :
    ∃ bits, f.magnitude bits = m * 2 ^ (f.minExponent + k) := by
  induction k generalizing m with
  | zero => exact ⟨_, magnitude_mul_add_of_lt (Or.inl rfl) hm⟩
  | succ k ih =>
      rcases Nat.lt_or_ge m (2 ^ f.fractionBits) with hlow | hhigh
      · have hdouble : 2 * m < 2 ^ (f.fractionBits + 1) := by
          rw [pow_succ]
          omega
        obtain ⟨bits, hbits⟩ := ih hdouble
        refine ⟨bits, hbits.trans ?_⟩
        push_cast
        rw [← add_assoc, zpow_add_one₀ (by norm_num)]
        ring
      · exact ⟨_, magnitude_mul_add_of_lt (Or.inr hhigh) hm⟩

end ScalarWire.FloatFormat
