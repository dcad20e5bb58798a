import Mathlib.Algebra.Order.Floor.Semifield
import Mathlib.Data.Nat.Cast.Order.Field
import Mathlib.Data.Rat.Floor
import ScalarWire.Float.Shortest
import ScalarWire.Proofs.Float.Round
import ScalarWire.Proofs.Text.Runs

/-!
# Shortest digits read back

The digits that are found for a number round to its pattern again. With seventeen digits one of the
two neighbours on the decimal grid always does: it is at most half a step of the grid away from the
number, which is less than half the distance of doubles around it.
-/

namespace ScalarWire.FloatFormat

variable {f : FloatFormat} {num den bits : Nat}

/-- A quotient lies between the powers of ten around the place of its first digit. -/
theorem decimalExponent_spec (hnum : num ≠ 0) (hden : den ≠ 0) :
    (10 : ℚ) ^ (decimalExponent num den - 1) ≤ num / den ∧
      (num / den : ℚ) < 10 ^ decimalExponent num den := by
  have hdenPos : (0 : ℚ) < den := Nat.cast_pos.mpr (Nat.pos_of_ne_zero hden)
  rw [le_div_iff₀ hdenPos, div_lt_iff₀ hdenPos, decimalExponent]
  split_ifs with h
  · obtain ⟨k, hlength, hlow, hhigh⟩ :=
      Numeral.exists_length_digits (Nat.div_pos h (Nat.pos_of_ne_zero hden)).ne'
    have hle := (Nat.mul_le_mul_right den hlow).trans (Nat.div_mul_le_self num den)
    have hlt := (Nat.lt_mul_div_succ num (Nat.pos_of_ne_zero hden)).trans_le
      (Nat.mul_le_mul_left den hhigh)
    rw [hlength, Nat.cast_add_one, add_sub_cancel_right, mul_comm (10 ^ (k + 1 : Int) : ℚ)]
    exact_mod_cast And.intro hle hlt
  · have hnumPos := Nat.pos_of_ne_zero hnum
    obtain ⟨k, hlength, hlow, hhigh⟩ := Numeral.exists_length_digits
      (n := (den - 1) / num) (Nat.div_pos (by omega) hnumPos).ne'
    have hlt : num * 10 ^ k < den := by
      have := (Nat.mul_le_mul_left num hlow).trans (Nat.mul_div_le (den - 1) num)
      omega
    have hle : den ≤ num * 10 ^ (k + 1) := by
      have := (Nat.lt_mul_div_succ (den - 1) hnumPos).trans_le (Nat.mul_le_mul_left num hhigh)
      omega
    have hexponent : (1 - (k + 1 : Nat) : Int) = -k := by
      push_cast
      ring
    rw [hlength, hexponent, show (-k - 1 : Int) = -(k + 1 : Nat) by push_cast; ring, zpow_neg,
      zpow_neg, zpow_natCast, zpow_natCast, inv_mul_le_iff₀ (by positivity),
      lt_inv_mul_iff₀ (by positivity), mul_comm, mul_comm (10 ^ k : ℚ)]
    exact_mod_cast And.intro hle hlt

/-- Digits at a power of ten are rounded to the nearest pattern. -/
theorem isNearest_roundDecimal (hf : f.WithinDouble) (n : Nat) (exponent : Int) :
    f.IsNearest (n * 10 ^ exponent) (f.roundDecimal n exponent) := by
  have h := isNearest_round hf (n * 10 ^ exponent.toNat)
    (Nat.pow_pos (n := (-exponent).toNat) (by decide : 0 < 10)).ne'
  rw [cast_mul_pow_div_pow (by decide : 10 ≠ 0), Nat.cast_ofNat] at h
  exact h

section neighbour

variable {exponent : Int}

variable (num den exponent) in
/-- The point of the decimal grid of a power of ten that lies below a quotient. -/
def gridBelow : Nat :=
  ⌊(num / den / 10 ^ exponent : ℚ)⌋₊

theorem gridBelow_eq :
    num * 10 ^ (-exponent).toNat / (den * 10 ^ exponent.toNat) = gridBelow num den exponent := by
  have hvalue := cast_mul_pow_div (by decide : 10 ≠ 0) num den exponent
  rw [Nat.cast_ofNat] at hvalue
  rw [gridBelow, ← hvalue, Nat.floor_div_eq_div]

/-- A neighbour on the grid is found if one of the two reads back. -/
theorem isSome_neighbour? {n : Nat}
    (hn : n = gridBelow num den exponent ∨ n = gridBelow num den exponent + 1)
    (h : f.roundDecimal n exponent = bits) : (f.neighbour? bits num den exponent).isSome := by
  rw [neighbour?, gridBelow_eq]
  have hread := beq_iff_eq.mpr h
  rcases hn with rfl | rfl
  · rw [hread]
    cases f.roundDecimal (gridBelow num den exponent + 1) exponent == bits <;> rfl
  · rw [hread]
    cases f.roundDecimal (gridBelow num den exponent) exponent == bits <;> rfl

/-- The neighbour that is found reads back. -/
theorem of_neighbour? {n : Nat} (h : f.neighbour? bits num den exponent = some n) :
    f.roundDecimal n exponent = bits ∧ n ≤ gridBelow num den exponent + 1 := by
  rw [neighbour?, gridBelow_eq] at h
  split at h
  · next hbelow habove =>
      split_ifs at h <;> cases h
      · exact ⟨beq_iff_eq.mp hbelow, Nat.le_succ _⟩
      · exact ⟨beq_iff_eq.mp habove, le_rfl⟩
  · next hbelow _ =>
      cases h
      exact ⟨beq_iff_eq.mp hbelow, Nat.le_succ _⟩
  · next _ habove =>
      cases h
      exact ⟨beq_iff_eq.mp habove, le_rfl⟩
  · cases h

/-- One of the two points of a grid around a number is at most half a step away. -/
theorem exists_abs_sub_le {count : ℚ} (h : 0 ≤ count) :
    ∃ n : Nat, (n = ⌊count⌋₊ ∨ n = ⌊count⌋₊ + 1) ∧ |n - count| ≤ 1 / 2 := by
  have hlow := Nat.floor_le h
  have hhigh := Nat.lt_floor_add_one count
  rcases le_total (count - ⌊count⌋₊) (1 / 2) with hhalf | hhalf
  · refine ⟨_, Or.inl rfl, ?_⟩
    rw [abs_sub_comm]
    exact abs_le.mpr ⟨by linarith, hhalf⟩
  · refine ⟨_, Or.inr rfl, ?_⟩
    push_cast
    exact abs_le.mpr ⟨by linarith, by linarith⟩

/-- On a grid whose step is so small beside a number of the format, a neighbour is found. -/
theorem isSome_neighbour?_of_step_le (hf : f.WithinDouble) (hne : bits ≠ 0)
    (hle : bits ≤ f.infinityBits) (hvalue : (num / den : ℚ) = f.magnitude bits)
    (hstep : (10 : ℚ) ^ exponent * 10 ^ 16 ≤ f.magnitude bits) :
    (f.neighbour? bits num den exponent).isSome := by
  have hpow : (0 : ℚ) < 10 ^ exponent := zpow_pos (by norm_num) _
  obtain ⟨n, hn, hhalf⟩ := exists_abs_sub_le
    (div_nonneg (hvalue ▸ magnitude_nonneg bits) hpow.le : 0 ≤ (num / den / 10 ^ exponent : ℚ))
  refine isSome_neighbour? hn ((isNearest_roundDecimal hf n exponent).unique ?_)
  refine isNearest_of_abs_sub_lt hne hle ?_
  have hdist : |n * 10 ^ exponent - f.magnitude bits| =
      |n - (num / den / 10 ^ exponent : ℚ)| * 10 ^ exponent := by
    rw [← abs_of_pos hpow, ← abs_mul, abs_of_pos hpow, sub_mul, div_mul_cancel₀ _ hpow.ne', hvalue]
  have hwidth : (2 : ℚ) ^ (f.fractionBits + 2) ≤ 2 ^ 54 :=
    pow_le_pow_right₀ (by norm_num) (Nat.add_le_add_right hf.fractionBits_le 2)
  calc |n * 10 ^ exponent - f.magnitude bits| * 2 ^ (f.fractionBits + 2)
      ≤ 1 / 2 * 10 ^ exponent * 2 ^ 54 := by
        rw [hdist]
        gcongr
    _ < 10 ^ exponent * 10 ^ 16 := by
        rw [mul_comm (1 / 2), mul_assoc]
        exact mul_lt_mul_of_pos_left (by norm_num) hpow
    _ ≤ f.magnitude bits := hstep

end neighbour

/-- The search finds the neighbour on some grid if there is one on any grid that it tries. -/
theorem exists_shortestFrom {exponent : Int} {tries j : Nat} (hj : j < tries)
    (h : (f.neighbour? bits num den (exponent - j)).isSome) :
    ∃ i ≤ j, (f.shortestFrom bits num den exponent tries).2 = exponent - i ∧
      f.neighbour? bits num den (exponent - i) =
        some (f.shortestFrom bits num den exponent tries).1 := by
  induction tries generalizing exponent j with
  | zero => exact absurd hj (Nat.not_lt_zero j)
  | succ tries ih =>
      rw [shortestFrom]
      cases hfound : f.neighbour? bits num den exponent with
      | some n => exact ⟨0, Nat.zero_le j, by simp, by simpa using hfound⟩
      | none =>
          cases j with
          | zero => simp [hfound] at h
          | succ j =>
              have hshift (i : Nat) : exponent - 1 - i = exponent - (i + 1 : Nat) := by
                push_cast
                ring
              rw [← hshift] at h
              obtain ⟨i, hi, hexponent, hneighbour⟩ := ih (Nat.lt_of_succ_lt_succ hj) h
              rw [hshift] at hexponent hneighbour
              exact ⟨i + 1, Nat.succ_le_succ hi, hexponent, hneighbour⟩

theorem gridBelow_lt {exponent : Int} {k : Nat} (h : (num / den : ℚ) < 10 ^ (exponent + k)) :
    gridBelow num den exponent < 10 ^ k := by
  rw [gridBelow, Nat.floor_lt (by positivity), div_lt_iff₀ (by positivity), Nat.cast_pow,
    Nat.cast_ofNat, ← zpow_natCast, ← zpow_add₀ (by norm_num), add_comm]
  exact h

/-- The search ends at a decimal of at most eighteen digits that rounds to the pattern. -/
theorem shortestFrom_spec (hf : f.WithinDouble) (hne : bits ≠ 0) (hle : bits ≤ f.infinityBits)
    (hden : den ≠ 0) (hvalue : (num / den : ℚ) = f.magnitude bits) {n : Nat} {exponent : Int}
    (h : f.shortestFrom bits num den (decimalExponent num den - 1) 17 = (n, exponent)) :
    n < 10 ^ 18 ∧ f.IsNearest (n * 10 ^ exponent) bits := by
  have hnum : num ≠ 0 := by
    rintro rfl
    rw [Nat.cast_zero, zero_div] at hvalue
    exact (magnitude_pos hne).ne hvalue
  obtain ⟨hlow, hhigh⟩ := decimalExponent_spec hnum hden
  generalize decimalExponent num den = top at *
  have hfound : (f.neighbour? bits num den (top - 1 - (16 : Nat))).isSome := by
    refine isSome_neighbour?_of_step_le hf hne hle hvalue ?_
    rw [← hvalue, ← zpow_natCast, ← zpow_add₀ (by norm_num), sub_add_cancel]
    exact hlow
  obtain ⟨i, hi, hexponent, hneighbour⟩ := exists_shortestFrom (by decide : 16 < 17) hfound
  rw [h] at hexponent hneighbour
  obtain rfl : exponent = top - 1 - i := hexponent
  obtain ⟨hread, hgrid⟩ := of_neighbour? hneighbour
  have hbelow : gridBelow num den (top - 1 - i) < 10 ^ 17 := by
    refine (gridBelow_lt (k := i + 1) ?_).trans_le (Nat.pow_le_pow_right (by decide) (by omega))
    rwa [show top - 1 - i + (i + 1 : Nat) = top by push_cast; ring]
  refine ⟨by omega, ?_⟩
  have hnearest := isNearest_roundDecimal hf n (top - 1 - i)
  rwa [hread] at hnearest

/-- Zeros at the end of the digits go into the power of ten. -/
theorem dropZeros_spec {digits kept : List Char} {exponent scaled : Int}
    (h : dropZeros digits exponent = (kept, scaled)) :
    ∃ zeros, digits = kept ++ List.replicate zeros '0' ∧ scaled = exponent + zeros := by
  obtain ⟨zeros, hsplit⟩ := Text.eq_reverse_dropWhile_append '0' digits
  have hlength := congrArg List.length hsplit
  rw [List.length_append, List.length_replicate] at hlength
  rw [dropZeros] at h
  cases h
  exact ⟨zeros, hsplit, by omega⟩

/-- The shortest digits of a number are few, and round to the pattern of that number. -/
theorem shortest_spec (hf : f.WithinDouble) (hne : bits ≠ 0) (hle : bits ≤ f.infinityBits)
    {digits : List Char} {exponent : Int}
    (h : f.shortest (f.significand bits) (f.unitExponent bits) = (digits, exponent)) :
    digits ≠ [] ∧ (∀ c ∈ digits, c.isDigit) ∧ digits.length ≤ 18 ∧
      f.IsNearest (Numeral.value digits * 10 ^ exponent) bits := by
  have hvalue : ((f.significand bits * 2 ^ (f.unitExponent bits).toNat : Nat) /
      (2 ^ (-f.unitExponent bits).toNat : Nat) : ℚ) = f.magnitude bits := by
    rw [cast_mul_pow_div_pow (by decide : 2 ≠ 0), Nat.cast_ofNat]
    rfl
  have hden : 2 ^ (-f.unitExponent bits).toNat ≠ 0 := (Nat.two_pow_pos _).ne'
  have hround := (isNearest_round hf _ hden).unique (hvalue ▸ isNearest_magnitude hle)
  rw [shortest] at h
  dsimp only at h
  rw [hround] at h
  rcases hfrom : f.shortestFrom bits _ _ _ 17 with ⟨n, scale⟩
  rw [hfrom] at h
  obtain ⟨hn, hnearest⟩ := shortestFrom_spec hf hne hle hden hvalue hfrom
  obtain ⟨zeros, hsplit, rfl⟩ := dropZeros_spec h
  have hcount : n = Numeral.value digits * 10 ^ zeros := by
    rw [← Numeral.value_digits n, hsplit, Numeral.value_append, Numeral.value_replicate_zero,
      List.length_replicate, Nat.add_zero]
  rw [hcount, Nat.cast_mul, Nat.cast_pow, Nat.cast_ofNat, mul_assoc, ← zpow_natCast,
    ← zpow_add₀ (by norm_num), add_comm] at hnearest
  refine ⟨?_, fun c hc => ?_, ?_, hnearest⟩
  · rintro rfl
    rw [show Numeral.value [] = 0 from rfl, Nat.cast_zero, zero_mul] at hnearest
    exact hne (hnearest.unique isNearest_zero_zero)
  · exact Numeral.isDigit_of_mem_digits c (hsplit ▸ List.mem_append_left _ hc)
  · have hlength := (Numeral.length_digits_le_iff (k := 18) (by decide)).mpr hn
    rw [hsplit, List.length_append] at hlength
    omega

end ScalarWire.FloatFormat
