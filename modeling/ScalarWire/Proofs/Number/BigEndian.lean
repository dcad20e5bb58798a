import Mathlib.Tactic.LinearCombination
import ScalarWire.Number.BigEndian
import ScalarWire.Proofs.Number.Radix

/-!
# Reading back big-endian words

A word of `width` bytes holds a number modulo `256 ^ width`. Read as two's complement it gives
back every number of its range.
-/

namespace ScalarWire.BigEndian

theorem unsigned_append (a b : List UInt8) :
    unsigned (a ++ b) = unsigned a * 256 ^ b.length + unsigned b := by
  rw [unsigned, List.map_append, Radix.value_append, List.length_map]
  rfl

/-- The last digit of a remainder, and the digits before it. -/
theorem emod_mul_eq (z : Int) {b c : Int} (hb : 0 < b) (hc : 0 < c) :
    z % (c * b) = z / b % c * b + z % b := by
  have hz := Int.mul_ediv_add_emod z b
  have hq := Int.mul_ediv_add_emod (z / b) c
  have hsplit : z = z / b % c * b + z % b + c * b * (z / b / c) := by
    linear_combination -hz - b * hq
  have hlow := Int.emod_nonneg z hb.ne'
  have hhigh := Int.emod_lt_of_pos z hb
  have hlow' := Int.emod_nonneg (z / b) hc.ne'
  have hhigh' := Int.emod_lt_of_pos (z / b) hc
  conv_lhs => rw [hsplit]
  rw [Int.add_mul_emod_self_left, Int.emod_eq_of_lt (by positivity)]
  calc z / b % c * b + z % b < z / b % c * b + b := by omega
    _ = (z / b % c + 1) * b := by ring
    _ ≤ c * b := Int.mul_le_mul_of_nonneg_right (by omega) hb.le

theorem unsigned_encode (width : Nat) (z : Int) :
    (unsigned (encode width z) : Int) = z % 256 ^ width := by
  induction width generalizing z with
  | zero => simp [encode, unsigned]
  | succ width ih =>
      have hlast : (unsigned [UInt8.ofNat (z % 256).toNat] : Int) = z % 256 := by
        simp only [unsigned, Radix.value, List.map_cons, List.map_nil, List.foldl_cons,
          List.foldl_nil, UInt8.toNat_ofNat']
        omega
      rw [encode, unsigned_append, Int.natCast_add, Int.natCast_mul, ih, hlast, pow_succ,
        emod_mul_eq z (by decide) (by positivity)]
      rfl

theorem signed_encode_bmod (width : Nat) (z : Int) :
    signed (encode width z) = Int.bmod z (256 ^ width) := by
  rw [signed, length_encode, unsigned_encode]
  exact_mod_cast Int.emod_bmod z (256 ^ width)

/-- A number within the range of its word is read back. -/
theorem signed_encode {width : Nat} {z : Int} (hlow : -256 ^ width ≤ 2 * z)
    (hhigh : 2 * z < 256 ^ width) : signed (encode width z) = z := by
  rw [signed_encode_bmod]
  apply Int.bmod_eq_of_le_mul_two
  · push_cast
    omega
  · push_cast
    omega

theorem two_mul_signed_lt (bytes : List UInt8) : 2 * signed bytes < 256 ^ bytes.length := by
  have hpos : 0 < 256 ^ bytes.length := Nat.pow_pos (by omega)
  have h := Int.bmod_lt (x := (unsigned bytes : Int)) hpos
  rw [signed]
  push_cast at h
  omega

theorem neg_le_two_mul_signed (bytes : List UInt8) : -256 ^ bytes.length ≤ 2 * signed bytes := by
  have hpos : 0 < 256 ^ bytes.length := Nat.pow_pos (by omega)
  have h := Int.le_bmod (x := (unsigned bytes : Int)) hpos
  rw [signed]
  push_cast at h
  omega

theorem lt_of_mem_map_toNat {bytes : List UInt8} {d : Nat} (h : d ∈ bytes.map UInt8.toNat) :
    d < 256 := by
  obtain ⟨byte, -, rfl⟩ := List.mem_map.mp h
  exact byte.toNat_lt

theorem unsigned_lt (bytes : List UInt8) : unsigned bytes < 256 ^ bytes.length := by
  rw [← List.length_map UInt8.toNat]
  exact Radix.value_lt (by decide) fun d => lt_of_mem_map_toNat

/-- Words of one width that denote the same number are the same. -/
theorem eq_of_unsigned_eq {a b : List UInt8} (hlen : a.length = b.length)
    (h : unsigned a = unsigned b) : a = b := by
  have hdigit : ∀ bytes : List UInt8, ∀ d ∈ (bytes.map UInt8.toNat).reverse, d < 256 :=
    fun bytes d hd => lt_of_mem_map_toNat (List.mem_reverse.mp hd)
  rw [unsigned, unsigned, Radix.value_eq_ofDigits, Radix.value_eq_ofDigits] at h
  have hdigits :=
    Nat.ofDigits_inj_of_len_eq (by decide) (by simpa using hlen) (hdigit a) (hdigit b) h
  exact List.map_injective_iff.mpr (fun _ _ => UInt8.toNat_inj.mp) (List.reverse_injective hdigits)

/-- A word is the one that is written for its number. -/
theorem encode_signed (bytes : List UInt8) : encode bytes.length (signed bytes) = bytes := by
  apply eq_of_unsigned_eq (length_encode _ _)
  have hlt : (unsigned bytes : Int) < 256 ^ bytes.length := by exact_mod_cast unsigned_lt bytes
  have hword : signed bytes % 256 ^ bytes.length = unsigned bytes := by
    have hmod := Int.bmod_emod (x := (unsigned bytes : Int)) (m := 256 ^ bytes.length)
    push_cast at hmod
    rw [signed, hmod, Int.emod_eq_of_lt (by omega) hlt]
  exact_mod_cast (unsigned_encode bytes.length (signed bytes)).trans hword

end ScalarWire.BigEndian
