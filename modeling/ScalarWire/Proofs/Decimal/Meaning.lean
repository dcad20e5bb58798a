import Mathlib.Algebra.BigOperators.Fin
import Mathlib.Data.Rat.Floor
import ScalarWire.Proofs.Decimal.Groups

/-!
# The meaning of binary decimals

A well-formed payload stands for the sum of its groups, each of which counts a power of 10000, and
is read as this sum with the digits of its scale. The digits beyond the scale are cut off, whatever
their number is and wherever the zero groups are. Every other payload is refused.
-/

namespace ScalarWire.Decimal

open BigEndian

/-- The whole number next to a rational number on the side of zero. -/
def towardZero (q : ℚ) : ℤ :=
  if 0 ≤ q then ⌊q⌋ else ⌈q⌉

theorem towardZero_intCast (z : ℤ) : towardZero z = z := by
  rw [towardZero, Int.floor_intCast, Int.ceil_intCast, ite_self]

theorem towardZero_div (z : ℤ) {n : ℕ} (hn : 0 < n) : towardZero (z / n) = z.tdiv n := by
  have hpos : (0 : ℚ) < n := by exact_mod_cast hn
  by_cases hz : 0 ≤ z
  · have hquot : 0 ≤ (z / n : ℚ) := div_nonneg (by exact_mod_cast hz) hpos.le
    rw [towardZero, if_pos hquot, Rat.floor_intCast_div_natCast, Int.tdiv_eq_ediv_of_nonneg hz]
  · have hquot : ¬0 ≤ (z / n : ℚ) :=
      not_le.mpr (div_neg_of_neg_of_pos (by exact_mod_cast not_le.mp hz) hpos)
    have hneg : (-(z / n) : ℚ) = (-z : ℤ) / n := by
      push_cast
      ring
    rw [towardZero, if_neg hquot, ← neg_neg (z / n : ℚ), Int.ceil_neg, hneg,
      Rat.floor_intCast_div_natCast, ← Int.tdiv_eq_ediv_of_nonneg (by omega), Int.neg_tdiv, neg_neg]

/-- A number at a new scale is the number with its digits beyond the scale cut off. -/
theorem unscaled_withScale (d : Decimal) (s : Int) :
    (d.withScale s).unscaled = towardZero (d.toRat * 10 ^ s) := by
  have hshift : d.toRat * 10 ^ s = d.unscaled * 10 ^ (s - d.scale) := by
    rw [toRat, mul_assoc, ← zpow_add₀ (by norm_num), neg_add_eq_sub]
  rcases le_or_gt d.scale s with h | h
  · have hexact : (d.unscaled * 10 ^ (s - d.scale) : ℚ) =
        (d.unscaled * 10 ^ (s - d.scale).toNat : ℤ) := by
      rw [show s - d.scale = ((s - d.scale).toNat : ℤ) by omega, zpow_natCast, Int.toNat_natCast]
      push_cast
      rfl
    rw [withScale_of_scale_le h, hshift, hexact, towardZero_intCast]
  · have hquot : (d.unscaled * 10 ^ (s - d.scale) : ℚ) =
        d.unscaled / (10 ^ (d.scale - s).toNat : ℕ) := by
      rw [show s - d.scale = -((d.scale - s).toNat : ℤ) by omega, zpow_neg, zpow_natCast,
        div_eq_mul_inv]
      push_cast
      rfl
    rw [withScale_of_lt_scale h, hshift, hquot, towardZero_div _ (Nat.pow_pos (by decide))]
    push_cast
    rfl

/-- The sum of groups, of which the first counts this power of 10000, the next the power below, and
so on. -/
def groupSum (weight : Int) (groups : List Nat) : ℚ :=
  ∑ i : Fin groups.length, (groups[i] : ℚ) * 10000 ^ (weight - (i : ℕ))

theorem groupSum_cons (weight : Int) (g : Nat) (groups : List Nat) :
    groupSum weight (g :: groups) = g * 10000 ^ weight + groupSum (weight - 1) groups := by
  simp only [groupSum, List.length_cons, Fin.sum_univ_succ]
  congr 1
  · simp
  · refine Finset.sum_congr rfl fun i _ => ?_
    rw [show weight - ((i.succ : Fin (groups.length + 1)) : ℕ) = weight - 1 - (i : ℕ) by
      rw [Fin.val_succ]; omega]
    rfl

/-- The groups make up one number in base 10000, whose last digit counts the power of the last
group. -/
theorem groupSum_eq (weight : Int) (groups : List Nat) :
    groupSum weight groups =
      Radix.value 10000 groups * 10 ^ (4 * (weight - groups.length + 1)) := by
  induction groups generalizing weight with
  | nil => simp [groupSum]
  | cons g groups ih =>
      have hbase : (10000 : ℚ) ^ weight =
          10000 ^ groups.length * 10 ^ (4 * (weight - groups.length)) := by
        rw [zpow_mul, show (10 : ℚ) ^ (4 : ℤ) = 10000 by norm_num, ← zpow_natCast,
          ← zpow_add₀ (by norm_num)]
        congr 1
        omega
      rw [groupSum_cons, ih, Radix.value_cons, List.length_cons, hbase]
      rw [show weight - 1 - groups.length + 1 = weight - groups.length by omega,
        show weight - (groups.length + 1 : ℕ) + 1 = weight - groups.length by omega]
      push_cast
      ring

theorem toRat_ofGroups_eq_groupSum (sign : Nat) (weight : Int) (groups : List Nat) :
    (ofGroups (sign == negativeSign) weight groups).toRat =
      (if sign = negativeSign then -1 else 1) * groupSum weight groups := by
  rw [toRat_ofGroups, groupSum_eq, mul_assoc]
  simp only [beq_iff_eq]

/-- What `ofBytes` accepts, and the number that the groups make up. -/
theorem ofBytes_eq_ok_iff_groupSum {bytes : List UInt8} {d : Decimal} :
    ofBytes bytes = .ok d ↔ ∃ weight sign scale groups, HasLayout bytes weight sign scale groups ∧
      IsSign sign ∧ 0 ≤ scale ∧ (∀ g ∈ groups, g < 10000) ∧ d.scale = scale ∧
      d.unscaled = towardZero
        ((if sign = negativeSign then -1 else 1) * groupSum weight groups * 10 ^ scale) := by
  rw [ofBytes_eq_ok_iff]
  constructor
  · rintro ⟨weight, sign, scale, groups, hlayout, hsign, hscale, hg, rfl⟩
    refine ⟨weight, sign, scale, groups, hlayout, hsign, hscale, hg, withScale_scale _ _, ?_⟩
    rw [unscaled_withScale, toRat_ofGroups_eq_groupSum]
  · rintro ⟨weight, sign, scale, groups, hlayout, hsign, hscale, hg, hd, hunscaled⟩
    refine ⟨weight, sign, scale, groups, hlayout, hsign, hscale, hg, ?_⟩
    rw [← toRat_ofGroups_eq_groupSum, ← unscaled_withScale] at hunscaled
    obtain ⟨unscaled, scale'⟩ := d
    rw [Decimal.mk.injEq, withScale_scale]
    exact ⟨hunscaled, hd⟩

/-- What is refused as no number has a header with the sign of one. -/
theorem ofBytes_eq_notANumber_iff {bytes : List UInt8} :
    ofBytes bytes = .error (.outOfRange .numeric "NaN") ↔
      8 ≤ bytes.length ∧ unsigned (wordAt bytes 2) = notANumberSign := by
  have hword : unsigned (wordAt bytes 2) = unsigned ((bytes.drop 4).take 2) := rfl
  rw [hword]
  simp only [ofBytes]
  split_ifs with hlen hnan
  · refine iff_of_false (fun h => ?_) (fun h => absurd hlen (by omega))
    cases h
  · exact iff_of_true rfl ⟨by omega, hnan⟩
  all_goals
    refine iff_of_false (fun h => ?_) (fun h => hnan h.2)
    cases h

/-- Bytes have a value, or are refused as no number or as malformed. -/
theorem ofBytes_cases (bytes : List UInt8) :
    (∃ d, ofBytes bytes = .ok d) ∨ ofBytes bytes = .error (.outOfRange .numeric "NaN") ∨
      ofBytes bytes = .error (.malformed .numeric (String.ofList (Hex.encode bytes))) := by
  simp only [ofBytes]
  split_ifs
  · exact Or.inr (Or.inr rfl)
  · exact Or.inr (Or.inl rfl)
  · exact Or.inr (Or.inr rfl)
  · exact Or.inr (Or.inr rfl)
  · exact Or.inl ⟨_, rfl⟩
  · exact Or.inr (Or.inr rfl)

/-- The number of every byte string: bytes with a well-formed layout are the sum of their groups,
cut at the scale; a header with the sign of no number is out of range, and all else is malformed. -/
theorem ofBytes_meaning (bytes : List UInt8) :
    (∀ d, ofBytes bytes = .ok d ↔ ∃ weight sign scale groups,
      HasLayout bytes weight sign scale groups ∧ IsSign sign ∧ 0 ≤ scale ∧
        (∀ g ∈ groups, g < 10000) ∧ d.scale = scale ∧
        d.unscaled = towardZero
          ((if sign = negativeSign then -1 else 1) * groupSum weight groups * 10 ^ scale)) ∧
    (ofBytes bytes = .error (.outOfRange .numeric "NaN") ↔
      8 ≤ bytes.length ∧ unsigned (wordAt bytes 2) = notANumberSign) ∧
    ((∀ d, ofBytes bytes ≠ .ok d) →
      ¬(8 ≤ bytes.length ∧ unsigned (wordAt bytes 2) = notANumberSign) →
        ofBytes bytes = .error (.malformed .numeric (String.ofList (Hex.encode bytes)))) := by
  refine ⟨fun d => ofBytes_eq_ok_iff_groupSum, ofBytes_eq_notANumber_iff, ?_⟩
  intro hrefused hnumber
  rcases ofBytes_cases bytes with ⟨d, hd⟩ | hnan | hmalformed
  · exact absurd hd (hrefused d)
  · exact absurd (ofBytes_eq_notANumber_iff.mp hnan) hnumber
  · exact hmalformed

/-- Of -1.1678 with one digit behind the point, -1.1 is left. -/
example : ofBytes [0, 2, 0, 0, 0x40, 0, 0, 1, 0, 1, 0x06, 0x8E] = .ok ⟨-11, 1⟩ := by
  decide +kernel

end ScalarWire.Decimal
