import Mathlib.Data.Nat.Digits.Lemmas
import Mathlib.Tactic.Ring
import ScalarWire.Number.Radix

/-!
# Values of positional numerals

`Radix.value` is `Nat.ofDigits` of the reversed list, and `Radix.digits` is the reverse of
`Nat.digits`. So a number is the value of its digits, and a list of digits without a leading zero
is the list of digits of its value.
-/

namespace ScalarWire.Radix

@[simp] theorem value_nil (base : Nat) : value base [] = 0 := rfl

theorem value_append (base : Nat) (ds es : List Nat) :
    value base (ds ++ es) = value base ds * base ^ es.length + value base es := by
  induction ds with
  | nil => simp
  | cons d ds ih =>
      rw [List.cons_append, value_cons, ih, value_cons, List.length_append, pow_add]
      ring

theorem value_eq_ofDigits (base : Nat) (ds : List Nat) :
    value base ds = Nat.ofDigits base ds.reverse := by
  induction ds with
  | nil => rfl
  | cons d ds ih =>
      rw [value_cons, ih, List.reverse_cons, Nat.ofDigits_append, Nat.ofDigits_singleton,
        List.length_reverse, Nat.add_comm]

theorem value_lt {base : Nat} (hb : 2 ≤ base) {ds : List Nat} (hds : ∀ d ∈ ds, d < base) :
    value base ds < base ^ ds.length := by
  rw [value_eq_ofDigits, ← List.length_reverse]
  exact Nat.ofDigits_lt_base_pow_length hb (by simpa using hds)

theorem value_replicate_zero (base k : Nat) : value base (List.replicate k 0) = 0 := by
  rw [value_eq_ofDigits, List.reverse_replicate, Nat.ofDigits_replicate_zero]

theorem value_dropWhile_zero (base : Nat) (ds : List Nat) :
    value base (ds.dropWhile (· == 0)) = value base ds := by
  induction ds with
  | nil => rfl
  | cons d ds ih =>
      by_cases hd : d = 0
      · simp [hd, value_cons, ih]
      · rw [List.dropWhile_cons_of_neg (by simpa using hd)]

theorem value_block (base k n : Nat) : value base (block base k n) = n % base ^ 2 ^ k := by
  induction k generalizing n with
  | zero => simp [block, value]
  | succ k ih =>
      rw [block, value_append, ih, ih, length_block, Nat.pow_succ, Nat.mul_two, pow_add,
        Nat.mod_mul, Nat.add_comm, Nat.mul_comm, Nat.mod_mod]

theorem block_lt {base : Nat} (hb : 2 ≤ base) (k n : Nat) : ∀ d ∈ block base k n, d < base := by
  induction k generalizing n with
  | zero =>
      intro d hd
      rw [block, List.mem_singleton] at hd
      exact hd ▸ Nat.mod_lt _ (by omega)
  | succ k ih =>
      intro d hd
      rcases List.mem_append.mp hd with h | h
      · exact ih _ d h
      · exact ih _ d h

/-- The block that `digits` cuts off is long enough for the whole number. -/
theorem lt_pow_blockSize {base : Nat} (hb : 2 ≤ base) (n : Nat) :
    n < base ^ 2 ^ blockSize base n := by
  have hlog : 1 ≤ base.log2 := (Nat.le_log2 (by omega)).mpr hb
  have hsize : n.log2 / base.log2 + 1 < 2 ^ blockSize base n := Nat.lt_log2_self
  have hquot : n.log2 < base.log2 * (n.log2 / base.log2 + 1) := by
    have := Nat.lt_mul_div_succ n.log2 (show 0 < base.log2 by omega)
    omega
  calc n < 2 ^ (n.log2 + 1) := Nat.lt_log2_self
    _ ≤ 2 ^ (base.log2 * (n.log2 / base.log2 + 1)) := Nat.pow_le_pow_right (by omega) hquot
    _ = (2 ^ base.log2) ^ (n.log2 / base.log2 + 1) := Nat.pow_mul ..
    _ ≤ base ^ (n.log2 / base.log2 + 1) := Nat.pow_le_pow_left (Nat.log2_self_le (by omega)) _
    _ ≤ base ^ 2 ^ blockSize base n := Nat.pow_le_pow_right (by omega) hsize.le

theorem value_digits {base : Nat} (hb : 2 ≤ base) (n : Nat) : value base (digits base n) = n := by
  rw [digits, value_dropWhile_zero, value_block, Nat.mod_eq_of_lt (lt_pow_blockSize hb n)]

theorem digits_lt {base : Nat} (hb : 2 ≤ base) (n : Nat) : ∀ d ∈ digits base n, d < base :=
  fun d hd => block_lt hb _ _ d ((List.dropWhile_sublist _).subset hd)

theorem head?_digits_ne_zero (base n : Nat) : (digits base n).head? ≠ some 0 := by
  intro h
  have := List.head?_dropWhile_not (· == 0) (block base (blockSize base n) n)
  rw [digits] at h
  simp [h] at this

theorem eq_reverse_digits_value {base : Nat} (hb : 2 ≤ base) {ds : List Nat}
    (hds : ∀ d ∈ ds, d < base) (hhead : ds.head? ≠ some 0) :
    ds = (Nat.digits base (value base ds)).reverse := by
  rw [value_eq_ofDigits, Nat.digits_ofDigits base hb ds.reverse (by simpa using hds),
    List.reverse_reverse]
  intro hnil hlast
  have hne : ds ≠ [] := by simpa using hnil
  rw [List.getLast_reverse] at hlast
  exact hhead (by rw [List.head?_eq_some_head hne, hlast])

theorem digits_eq_reverse {base : Nat} (hb : 2 ≤ base) (n : Nat) :
    digits base n = (Nat.digits base n).reverse := by
  have h := eq_reverse_digits_value hb (digits_lt hb n) (head?_digits_ne_zero base n)
  rwa [value_digits hb] at h

/-- A list of digits that does not start with a zero is the list of digits of its value. -/
theorem digits_value {base : Nat} (hb : 2 ≤ base) {ds : List Nat} (hds : ∀ d ∈ ds, d < base)
    (hhead : ds.head? ≠ some 0) : digits base (value base ds) = ds := by
  rw [digits_eq_reverse hb, ← eq_reverse_digits_value hb hds hhead]

@[simp] theorem digits_zero {base : Nat} (hb : 2 ≤ base) : digits base 0 = [] := by
  simp [digits_eq_reverse hb]

theorem digits_ne_nil {base n : Nat} (hb : 2 ≤ base) (hn : n ≠ 0) : digits base n ≠ [] := by
  simpa [digits_eq_reverse hb] using Nat.digits_ne_nil_iff_ne_zero.mpr hn

theorem digits_mul_pow {base n : Nat} (hb : 2 ≤ base) (hn : n ≠ 0) (k : Nat) :
    digits base (n * base ^ k) = digits base n ++ List.replicate k 0 := by
  rw [digits_eq_reverse hb, digits_eq_reverse hb, Nat.mul_comm,
    Nat.digits_base_pow_mul hb (Nat.pos_of_ne_zero hn), List.reverse_append,
    List.reverse_replicate]

theorem length_digits_le_iff {base : Nat} (hb : 2 ≤ base) (n k : Nat) :
    (digits base n).length ≤ k ↔ n < base ^ k := by
  rw [digits_eq_reverse hb, List.length_reverse]
  exact Nat.digits_length_le_iff hb n

end ScalarWire.Radix
