import Mathlib.Algebra.Group.Int.Defs
import Mathlib.Algebra.Group.Nat.Defs
import Mathlib.Tactic.SplitIfs
import ScalarWire.Decimal.Text

/-!
# The limit check on literals

The check reckons with 64-bit words. It is exact as long as the number of digits before the
point, taken modulo `2 ^ 64`, stays three below the largest word; past that it lets everything
through.
-/

namespace ScalarWire.Decimal

/-- The number of digits before the point, as a signed 64-bit word holds it. -/
def wordDigits (l : DecimalLiteral) : Int :=
  Int.bmod (digitCount l.digits - l.scale) (2 ^ 64)

theorem toInt_max (a b : Int64) : (max a b).toInt = max a.toInt b.toInt := by
  change (if a ≤ b then b else a).toInt = _
  have h := Int64.le_iff_toInt_le (x := a) (y := b)
  split_ifs with hab
  · have := h.mp hab
    omega
  · have := mt h.mpr hab
    omega

/-- Words of four digits for a count that does not come near the largest word. -/
theorem toInt_words {a : Int64} (h : a.toInt < 2 ^ 63 - 3) :
    ((max a 0 + 3) / 4).toInt = (max a.toInt 0 + 3) / 4 := by
  have h0 : (0 : Int64).toInt = 0 := rfl
  have h3 : (3 : Int64).toInt = 3 := rfl
  have h4 : (4 : Int64).toInt = 4 := rfl
  have hsum : (max a 0 + 3).toInt = max a.toInt 0 + 3 := by
    rw [Int64.toInt_add, toInt_max, h0, h3]
    exact Int.bmod_eq_of_le (by omega) (by omega)
  rw [Int64.toInt_div, hsum, h4, Int.tdiv_eq_ediv_of_nonneg (by omega)]
  exact Int.bmod_eq_of_le (by omega) (by omega)

/-- Near the largest word the count wraps round to a negative number. -/
theorem toInt_words_of_le {a : Int64} (h : 2 ^ 63 - 3 ≤ a.toInt) :
    ((max a 0 + 3) / 4).toInt < -2 ^ 60 := by
  have h0 : (0 : Int64).toInt = 0 := rfl
  have h3 : (3 : Int64).toInt = 3 := rfl
  have h4 : (4 : Int64).toInt = 4 := rfl
  have hlt := Int64.toInt_lt a
  have hsum : (max a 0 + 3).toInt = a.toInt + 3 - 2 ^ 64 := by
    rw [Int64.toInt_add, toInt_max, h0, h3, show max a.toInt 0 = a.toInt by omega,
      ← Int.sub_bmod_right]
    exact Int.bmod_eq_of_le (by omega) (by omega)
  have hdiv : (a.toInt + 3 - 2 ^ 64).tdiv 4 = -((2 ^ 64 - 3 - a.toInt) / 4) := by
    rw [show a.toInt + 3 - 2 ^ 64 = -(2 ^ 64 - 3 - a.toInt) by omega, Int.neg_tdiv,
      Int.tdiv_eq_ediv_of_nonneg (by omega)]
  rw [Int64.toInt_div, hsum, h4, hdiv, Int.bmod_eq_of_le (by omega) (by omega)]
  omega

theorem toInt_integerDigits {l : DecimalLiteral} (hlow : -2 ^ 63 ≤ l.scale)
    (hhigh : l.scale < 2 ^ 63) :
    (Int64.ofNat (digitCount l.digits) - Int64.ofInt l.scale).toInt = wordDigits l := by
  rw [Int64.toInt_sub, Int64.toInt_ofInt_of_le hlow hhigh, Int64.toInt_ofNat', wordDigits]
  exact Int.bmod_sub_bmod

theorem exceedsLimits_eq_false_iff {l : DecimalLiteral} (hlow : -2 ^ 63 ≤ l.scale)
    (hhigh : l.scale < 2 ^ 63) :
    exceedsLimits l = false ↔ l.scale ≤ 16383 ∧ (2 ^ 63 - 3 ≤ wordDigits l ∨
      (max (wordDigits l) 0 + 3) / 4 + (max l.scale 0 + 3) / 4 ≤ 32767) := by
  have hs : (Int64.ofInt l.scale).toInt = l.scale := Int64.toInt_ofInt_of_le hlow hhigh
  have hd := toInt_integerDigits hlow hhigh
  have hword : -2 ^ 63 ≤ wordDigits l := by
    rw [← hd]
    exact Int64.le_toInt _
  simp only [exceedsLimits, Bool.or_eq_false_iff, decide_eq_false_iff_not, Int.not_lt, groupBound,
    Int64.toInt_add]
  rw [maxScale, maxGroups, and_congr_right_iff]
  intro hle
  have hright := toInt_words (a := Int64.ofInt l.scale) (by omega)
  rw [hs] at hright
  rw [hright]
  by_cases hwrap : 2 ^ 63 - 3 ≤ wordDigits l
  · have hleft := toInt_words_of_le (hd ▸ hwrap)
    have := Int64.le_toInt
      ((max (Int64.ofNat (digitCount l.digits) - Int64.ofInt l.scale) 0 + 3) / 4)
    rw [Int.bmod_eq_of_le (by omega) (by omega)]
    omega
  · have hleft := toInt_words (a := Int64.ofNat (digitCount l.digits) - Int64.ofInt l.scale)
      (by omega)
    rw [hd] at hleft
    rw [hleft, Int.bmod_eq_of_le (by omega) (by omega)]
    omega

/-- A number that the check lets through though its exponent asks for too many zeros: the count
of the digits before the point has wrapped round, or does so when it is rounded up to groups. -/
def Boundless (s : List Char) : Prop :=
  isSpecial s = false ∧ ∃ l, DecimalLiteral.read? s = some l ∧ l.unscaled ≠ 0 ∧
    -2 ^ 63 ≤ l.scale ∧ l.scale < -2 ^ 32 ∧
    (2 ^ 63 - 3 ≤ wordDigits l ∨ wordDigits l ≤ 131068)

/-- Reading a decimal ends for good exactly at such a number. -/
theorem ofText_eq_aborted_iff {s : List Char} :
    ofText s = .error .aborted ↔ Boundless (Text.trim s) := by
  simp only [ofText]
  constructor
  · intro h
    split at h
    · cases h
    · next hspecial =>
        split at h
        · cases h
        · next l hread =>
            split_ifs at h with hrange hexceeds hzeros
            · cases h
            · cases h
            · have hlimits := (exceedsLimits_eq_false_iff (l := l) (by omega) (by omega)).mp
                (eq_false_of_ne_true hexceeds)
              rw [maxZeros] at hzeros
              exact ⟨eq_false_of_ne_true hspecial, l, hread, hzeros.1, by omega, hzeros.2, by omega⟩
            · cases h
  · rintro ⟨hspecial, l, hread, hne, hlow, hhigh, hwraps⟩
    have hlimits := (exceedsLimits_eq_false_iff hlow (by omega)).mpr ⟨by omega, by omega⟩
    have hrange : ¬(l.scale < -0x8000000000000000 ∨ 0x8000000000000000 ≤ l.scale) := by omega
    have hzeros : l.unscaled ≠ 0 ∧ l.scale < -maxZeros := ⟨hne, hhigh⟩
    simp only [hspecial, hread, if_neg hrange, hlimits, if_pos hzeros]
    rfl

end ScalarWire.Decimal
