import ScalarWire.Number.Numeral
import ScalarWire.Proofs.Number.Radix
import ScalarWire.Proofs.Text.Runs

/-!
# Reading back decimal numerals

A numeral, filled up with zeros or not, consists of ASCII digits and denotes the number that it
was written for.
-/

namespace ScalarWire.Numeral

theorem toNat_digitChar : ∀ {d : Nat}, d < 10 → (digitChar d).toNat = 48 + d := by
  decide

theorem isDigit_iff (c : Char) : c.isDigit ↔ 48 ≤ c.toNat ∧ c.toNat ≤ 57 :=
  Char.isDigit_iff_toNat

theorem isDigit_digitChar {d : Nat} (hd : d < 10) : (digitChar d).isDigit := by
  rw [isDigit_iff, toNat_digitChar hd]
  omega

@[simp] theorem digitValue_digitChar {d : Nat} (hd : d < 10) : digitValue (digitChar d) = d := by
  rw [digitValue, toNat_digitChar hd]
  omega

theorem digitValue_lt {c : Char} (hc : c.isDigit) : digitValue c < 10 := by
  have := (isDigit_iff c).mp hc
  rw [digitValue]
  omega

theorem digitChar_digitValue {c : Char} (hc : c.isDigit) : digitChar (digitValue c) = c := by
  have := (isDigit_iff c).mp hc
  rw [digitChar, digitValue, show 48 + (c.toNat - 48) = c.toNat by omega, Char.ofNat_toNat]

theorem value_append (s t : List Char) : value (s ++ t) = value s * 10 ^ t.length + value t := by
  rw [value, List.map_append, Radix.value_append, List.length_map]
  rfl

theorem value_lt {s : List Char} (hs : ∀ c ∈ s, c.isDigit) : value s < 10 ^ s.length := by
  have hlt : ∀ d ∈ s.map digitValue, d < 10 := by
    intro d hd
    obtain ⟨c, hc, rfl⟩ := List.mem_map.mp hd
    exact digitValue_lt (hs c hc)
  have hvalue := Radix.value_lt (by decide) hlt
  rwa [List.length_map] at hvalue

theorem value_replicate_zero (k : Nat) : value (List.replicate k '0') = 0 := by
  rw [value, List.map_replicate, show digitValue '0' = 0 from rfl, Radix.value_replicate_zero]

theorem value_map_digitChar {ds : List Nat} (hds : ∀ d ∈ ds, d < 10) :
    value (ds.map digitChar) = Radix.value 10 ds := by
  rw [value, List.map_map, List.map_congr_left (g := id), List.map_id]
  intro d hd
  exact digitValue_digitChar (hds d hd)

theorem digits_ne_nil (n : Nat) : digits n ≠ [] := by
  unfold digits
  split_ifs with hn
  · simp
  · simpa using Radix.digits_ne_nil (by omega) hn

theorem isDigit_of_mem_digits {n : Nat} : ∀ c ∈ digits n, c.isDigit := by
  intro c hc
  unfold digits at hc
  split_ifs at hc with hn
  · rw [List.mem_singleton.mp hc]
    rfl
  · obtain ⟨d, hd, rfl⟩ := List.mem_map.mp hc
    exact isDigit_digitChar (Radix.digits_lt (by omega) n d hd)

theorem value_digits (n : Nat) : value (digits n) = n := by
  unfold digits
  split_ifs with hn
  · rw [hn]
    rfl
  · rw [value_map_digitChar (Radix.digits_lt (by omega) n), Radix.value_digits (by omega)]

theorem digits_mul_pow {n : Nat} (hn : n ≠ 0) (k : Nat) :
    digits (n * 10 ^ k) = digits n ++ List.replicate k '0' := by
  have hne : n * 10 ^ k ≠ 0 := Nat.mul_ne_zero hn (by positivity)
  rw [digits, digits, if_neg hne, if_neg hn, Radix.digits_mul_pow (by omega) hn, List.map_append,
    List.map_replicate]
  rfl

/-- A numeral that does not start with a zero is that of its value. -/
theorem digits_value {s : List Char} (hs : ∀ c ∈ s, c.isDigit) (hne : s ≠ [])
    (hhead : s.head? ≠ some '0') : digits (value s) = s := by
  have hlt : ∀ d ∈ s.map digitValue, d < 10 := by
    intro d hd
    obtain ⟨c, hc, rfl⟩ := List.mem_map.mp hd
    exact digitValue_lt (hs c hc)
  have hzero : (s.map digitValue).head? ≠ some 0 := by
    intro h
    rw [List.head?_map, Option.map_eq_some_iff] at h
    obtain ⟨c, hc, h0⟩ := h
    have hchar : '0' = c := by
      rw [← digitChar_digitValue (hs c (List.mem_of_head? hc)), h0]
      rfl
    rw [← hchar] at hc
    exact hhead hc
  have hdigits : Radix.digits 10 (value s) = s.map digitValue :=
    Radix.digits_value (by omega) hlt hzero
  have hvalue : value s ≠ 0 := by
    intro h0
    rw [h0, Radix.digits_zero (by omega), eq_comm, List.map_eq_nil_iff] at hdigits
    exact hne hdigits
  rw [digits, if_neg hvalue, hdigits, List.map_map, List.map_congr_left (g := id), List.map_id]
  intro c hc
  exact digitChar_digitValue (hs c hc)

theorem value_ne_zero {s : List Char} (hs : ∀ c ∈ s, c.isDigit) (hne : s ≠ [])
    (hhead : s.head? ≠ some '0') : value s ≠ 0 := by
  intro h
  rw [← digits_value hs hne hhead, h] at hhead
  exact hhead rfl

theorem value_dropWhile_zero (s : List Char) : value (s.dropWhile (· == '0')) = value s := by
  induction s with
  | nil => rfl
  | cons c s ih =>
      by_cases hc : c = '0'
      · rw [List.dropWhile_cons_of_pos (by simpa using hc), ih, hc]
        change _ = value (['0'] ++ s)
        rw [value_append]
        simp [value, Radix.value, digitValue]
      · rw [List.dropWhile_cons_of_neg (by simpa using hc)]

theorem head?_dropWhile_zero (s : List Char) :
    (s.dropWhile (· == '0')).head? ≠ some '0' := by
  intro h
  have := List.head?_dropWhile_not (· == '0') s
  simp [h] at this

/-- Leading zeros aside, a numeral has as many digits as its value has; zero counts as one digit. -/
theorem length_dropWhile_zero {s : List Char} (hs : ∀ c ∈ s, c.isDigit) :
    max 1 (s.dropWhile (· == '0')).length = (digits (value s)).length := by
  have hvalue := value_dropWhile_zero s
  by_cases hne : s.dropWhile (· == '0') = []
  · rw [← hvalue, hne]
    rfl
  · have hpos := List.length_pos_iff.mpr hne
    have hdigits : ∀ c ∈ s.dropWhile (· == '0'), c.isDigit :=
      fun c hc => hs c ((List.dropWhile_sublist _).subset hc)
    rw [← hvalue, digits_value hdigits hne (head?_dropWhile_zero s)]
    omega

theorem length_digits_le_iff {n k : Nat} (hk : 0 < k) : (digits n).length ≤ k ↔ n < 10 ^ k := by
  unfold digits
  split_ifs with hn
  · simp only [List.length_singleton, hn]
    have := Nat.pow_pos (n := k) (show 0 < 10 by omega)
    omega
  · rw [List.length_map, Radix.length_digits_le_iff (by omega)]

/-- A number lies from the power of ten of its first digit to the next one. -/
theorem exists_length_digits {n : Nat} (hn : n ≠ 0) :
    ∃ k, (digits n).length = k + 1 ∧ 10 ^ k ≤ n ∧ n < 10 ^ (k + 1) := by
  obtain ⟨k, hk⟩ := Nat.exists_eq_succ_of_ne_zero (List.length_pos_iff.mpr (digits_ne_nil n)).ne'
  refine ⟨k, hk, ?_, (length_digits_le_iff (Nat.succ_pos k)).mp hk.le⟩
  rcases Nat.eq_zero_or_pos k with rfl | hpos
  · exact Nat.pos_of_ne_zero hn
  · exact Nat.not_lt.mp fun hlt => absurd ((length_digits_le_iff hpos).mpr hlt) (by omega)

theorem padded_eq (width n : Nat) :
    padded width n = List.replicate (width - (digits n).length) '0' ++ digits n := rfl

theorem padded_ne_nil (width n : Nat) : padded width n ≠ [] := by
  rw [padded_eq]
  exact List.append_ne_nil_of_right_ne_nil _ (digits_ne_nil n)

theorem isDigit_of_mem_padded {width n : Nat} : ∀ c ∈ padded width n, c.isDigit := by
  intro c hc
  rw [padded_eq, List.mem_append] at hc
  rcases hc with hc | hc
  · rw [List.eq_of_mem_replicate hc]
    rfl
  · exact isDigit_of_mem_digits c hc

theorem value_padded (width n : Nat) : value (padded width n) = n := by
  rw [padded_eq, value_append, value_replicate_zero, value_digits]
  simp

theorem le_length_padded (width n : Nat) : width ≤ (padded width n).length := by
  rw [padded_eq, List.length_append, List.length_replicate]
  omega

theorem length_padded {width n : Nat} (hw : 0 < width) (hn : n < 10 ^ width) :
    (padded width n).length = width := by
  have h := (length_digits_le_iff hw).mpr hn
  rw [padded_eq, List.length_append, List.length_replicate]
  omega

theorem read?_eq_some_iff {s : List Char} {n : Nat} :
    read? s = some n ↔ s ≠ [] ∧ (∀ c ∈ s, c.isDigit) ∧ value s = n := by
  simp [read?, and_assoc]

theorem read?_padded (width n : Nat) : read? (padded width n) = some n :=
  read?_eq_some_iff.mpr ⟨padded_ne_nil width n, isDigit_of_mem_padded, value_padded width n⟩

end ScalarWire.Numeral
