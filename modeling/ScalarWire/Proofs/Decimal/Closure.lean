import ScalarWire.Proofs.Decimal.RoundTrip
import ScalarWire.Proofs.Decimal.Text

/-!
# Decoded decimals encode again

The weight and the number of groups of a decimal that `ofBytes` returns are bounded by those of
the bytes that it was read from. So it fits the header again unless its scale is too large, and
its text is read back unless, besides, the groups on both sides of the point are too many.
-/

namespace ScalarWire.Decimal

theorem trimGroups_append_replicate (groups : List Nat) (k : Nat) :
    trimGroups (groups ++ List.replicate k 0) = trimGroups groups := by
  rw [trimGroups, List.reverse_append, List.reverse_replicate,
    List.dropWhile_append_of_pos (by simp +contextual [List.mem_replicate])]
  rfl

/-- The digits of a decimal as a whole number, filled up behind the point to full groups. -/
def alignedMagnitude (d : Decimal) : Nat :=
  d.unscaled.natAbs * 10 ^ (4 * fractionGroups d.scale.toNat - d.scale.toNat)

theorem wireGroups_eq {d : Decimal} (h : 0 ≤ d.scale) :
    d.wireGroups = trimGroups (Radix.digits 10000 d.alignedMagnitude) := by
  rw [wireGroups, expand_of_scale_nonneg h]
  rfl

section withScale

variable (negative : Bool) (weight : Int) {scale : Int} {groups : List Nat}

theorem natAbs_ofGroups (groups : List Nat) :
    (ofGroups negative weight groups).unscaled.natAbs = Radix.value 10000 groups := by
  cases negative <;> simp [ofGroups, Numeral.negateIf]

theorem scale_ofGroups (groups : List Nat) :
    (ofGroups negative weight groups).scale = 4 * (groups.length - weight - 1) := by
  change -(4 * (weight - groups.length + 1)) = _
  omega

/-- A scale that reaches the last group only appends zero groups. -/
theorem alignedMagnitude_of_le (hs : 0 ≤ scale) (h : 4 * (groups.length - weight - 1) ≤ scale) :
    ((ofGroups negative weight groups).withScale scale).alignedMagnitude =
      Radix.value 10000 groups *
        10000 ^ (fractionGroups scale.toNat + weight + 1 - groups.length).toNat := by
  have hlast := scale_ofGroups negative weight groups
  rw [alignedMagnitude, withScale_scale, natAbs_withScale_of_le (by omega), natAbs_ofGroups,
    mul_assoc, ← pow_add, hlast, show (10000 : Nat) = 10 ^ 4 by norm_num, ← pow_mul]
  congr 2
  unfold fractionGroups
  omega

/-- A scale that ends before the last group cuts groups off. -/
theorem alignedMagnitude_le_of_lt (hs : 0 ≤ scale)
    (h : scale < 4 * (groups.length - weight - 1)) :
    ((ofGroups negative weight groups).withScale scale).alignedMagnitude ≤
      Radix.value 10000 groups /
        10000 ^ (groups.length - weight - 1 - fractionGroups scale.toNat).toNat := by
  have hlast := scale_ofGroups negative weight groups
  have hcut : (4 * (groups.length - weight - 1) - scale).toNat =
      4 * (groups.length - weight - 1 - fractionGroups scale.toNat).toNat +
        (4 * fractionGroups scale.toNat - scale.toNat) := by
    unfold fractionGroups
    omega
  rw [alignedMagnitude, withScale_scale, natAbs_withScale_of_lt (by omega), natAbs_ofGroups,
    hlast, hcut, pow_add, ← Nat.div_div_eq_div_mul, pow_mul]
  exact Nat.div_mul_le_self _ _

theorem length_digits_alignedMagnitude_le (hs : 0 ≤ scale) (hg : ∀ g ∈ groups, g < 10000) :
    (Radix.digits 10000 ((ofGroups negative weight groups).withScale scale).alignedMagnitude).length
      ≤ (fractionGroups scale.toNat + weight + 1).toNat := by
  have hvalue := Radix.value_lt (by omega) hg
  rcases le_or_gt (4 * (groups.length - weight - 1)) scale with h | h
  · rw [alignedMagnitude_of_le negative weight hs h]
    by_cases h0 : Radix.value 10000 groups = 0
    · rw [h0, Nat.zero_mul, Radix.digits_zero (by omega)]
      exact Nat.zero_le _
    · have hlen := (Radix.length_digits_le_iff (by omega) _ _).mpr hvalue
      rw [Radix.digits_mul_pow (by omega) h0, List.length_append, List.length_replicate]
      unfold fractionGroups at *
      omega
  · rw [Radix.length_digits_le_iff (by omega)]
    refine lt_of_le_of_lt (alignedMagnitude_le_of_lt negative weight hs h) ?_
    rw [Nat.div_lt_iff_lt_mul (by positivity), ← pow_add]
    refine lt_of_lt_of_le hvalue (Nat.pow_le_pow_right (by omega) ?_)
    unfold fractionGroups
    omega

theorem length_wireGroups_le (hs : 0 ≤ scale) (hg : ∀ g ∈ groups, g < 10000) :
    ((ofGroups negative weight groups).withScale scale).wireGroups.length ≤ groups.length := by
  have hvalue := Radix.value_lt (by omega) hg
  rw [wireGroups_eq (by rw [withScale_scale]; exact hs)]
  rcases le_or_gt (4 * (groups.length - weight - 1)) scale with h | h
  · rw [alignedMagnitude_of_le negative weight hs h]
    by_cases h0 : Radix.value 10000 groups = 0
    · rw [h0, Nat.zero_mul, Radix.digits_zero (by omega)]
      exact Nat.zero_le _
    · rw [Radix.digits_mul_pow (by omega) h0, trimGroups_append_replicate]
      exact (length_trimGroups_le _).trans ((Radix.length_digits_le_iff (by omega) _ _).mpr hvalue)
  · refine (length_trimGroups_le _).trans ((Radix.length_digits_le_iff (by omega) _ _).mpr ?_)
    have hle := (alignedMagnitude_le_of_lt negative weight hs h).trans (Nat.div_le_self _ _)
    exact lt_of_le_of_lt hle hvalue

end withScale

/-- A decimal read from bytes fits the header again if its scale does. -/
theorem fits_of_ofBytes {bytes : List UInt8} {d : Decimal} (h : ofBytes bytes = .ok d)
    (hs : d.scale ≤ maxScale) : d.Fits := by
  obtain ⟨weight, sign, scale, groups, hlayout, -, hscale, hg, rfl⟩ := ofBytes_eq_ok_iff.mp h
  obtain ⟨hcount, hweight, -⟩ := hlayout.header_lt
  have hlen := length_digits_alignedMagnitude_le (sign == negativeSign) weight hscale hg
  have hgroups := length_wireGroups_le (sign == negativeSign) weight hscale hg
  refine ⟨hs, ?_, ?_⟩
  · unfold maxGroups
    omega
  · rw [expand_of_scale_nonneg (by rw [withScale_scale]; exact hscale)]
    change (((Radix.digits 10000 (alignedMagnitude _)).length : Int) - fractionGroups _ - 1 ≤ _)
    rw [withScale_scale]
    omega

theorem scale_of_ofBytes {bytes : List UInt8} {d : Decimal} (h : ofBytes bytes = .ok d) :
    0 ≤ d.scale ∧ d.scale ≤ 32767 := by
  obtain ⟨weight, sign, scale, groups, hlayout, -, hscale, -, rfl⟩ := ofBytes_eq_ok_iff.mp h
  obtain ⟨-, -, hle⟩ := hlayout.header_lt
  rw [withScale_scale]
  exact ⟨hscale, hle⟩

theorem length_digits_of_ofBytes {bytes : List UInt8} {d : Decimal} (h : ofBytes bytes = .ok d) :
    (Numeral.digits d.unscaled.natAbs).length < 2 ^ 62 := by
  obtain ⟨weight, sign, scale, groups, hlayout, -, hscale, hg, rfl⟩ := ofBytes_eq_ok_iff.mp h
  obtain ⟨-, hweight, hle⟩ := hlayout.header_lt
  have hlen := length_digits_alignedMagnitude_le (sign == negativeSign) weight hscale hg
  set d := (ofGroups (sign == negativeSign) weight groups).withScale scale
  have hbound : (Radix.digits 10000 d.alignedMagnitude).length ≤ 41000 := by
    unfold fractionGroups at hlen
    omega
  have hle : d.unscaled.natAbs ≤ d.alignedMagnitude := Nat.le_mul_of_pos_right _ (by positivity)
  have hlt : d.unscaled.natAbs < 10 ^ (4 * 41000) := by
    rw [pow_mul]
    exact lt_of_le_of_lt hle ((Radix.length_digits_le_iff (by omega) _ _).mp hbound)
  have := (Numeral.length_digits_le_iff (by omega)).mpr hlt
  omega

/-- A decimal read from bytes is written to bytes that are read as the same decimal, unless its
scale is over the limit. Its text is read as the same decimal as well, unless its scale is over the
limit or the digits before the point and those behind it fill more than 32767 groups of four. -/
theorem toBytes_and_ofText_of_ofBytes {bytes : List UInt8} {d : Decimal}
    (h : ofBytes bytes = .ok d) :
    (if d.scale ≤ 16383 then ∃ again, d.toBytes = .ok again ∧ ofBytes again = .ok d
      else d.toBytes = .error
        (.outOfRange .numeric (abbreviate (Numeral.digits d.unscaled.natAbs)))) ∧
      ofText d.toText = if d.scale ≤ 16383 ∧ d.textGroups ≤ 32767 then .ok d
        else .error (.rejected (.outOfRange .numeric (abbreviate d.toText))) := by
  obtain ⟨hnonneg, hle⟩ := scale_of_ofBytes h
  have hexpand := expand_of_scale_nonneg hnonneg
  constructor
  · split_ifs with hs
    · have hfits := fits_of_ofBytes h hs
      refine ⟨_, toBytes_of_fits hfits, ?_⟩
      rw [ofBytes_frame_of_fits hfits, hexpand]
    · rw [toBytes_of_not_fits fun hfits => hs hfits.scale_le, hexpand]
  · rw [ofText_toText (by omega) (by rw [hexpand]; exact length_digits_of_ofBytes h), hexpand]

/-- Bytes with a zero group in front and digits past the scale. -/
theorem toBytes_and_ofText_of_ofBytes_cut :
    ofBytes [0, 3, 0, 1, 0x40, 0, 0, 1, 0, 0, 0, 12, 0x13, 0x88] = .ok ⟨-125, 1⟩ ∧
      (∃ again, toBytes ⟨-125, 1⟩ = .ok again ∧ ofBytes again = .ok ⟨-125, 1⟩) ∧
      ofText (toText ⟨-125, 1⟩) = .ok ⟨-125, 1⟩ := by
  have h : ofBytes [0, 3, 0, 1, 0x40, 0, 0, 1, 0, 0, 0, 12, 0x13, 0x88] = .ok ⟨-125, 1⟩ := by
    have hlayout : HasLayout [0, 3, 0, 1, 0x40, 0, 0, 1, 0, 0, 0, 12, 0x13, 0x88] 1 0x4000 1
        [0, 12, 5000] := by
      constructor <;> decide
    exact ofBytes_of_hasLayout hlayout (Or.inr rfl) (by decide) (by decide)
  obtain ⟨hbytes, htext⟩ := toBytes_and_ofText_of_ofBytes h
  rw [if_pos (by decide)] at hbytes htext
  exact ⟨h, hbytes, htext⟩

theorem withScale_ofGroups_one {weight : Int} (h : 0 ≤ weight) :
    (ofGroups false weight [1]).withScale 0 = ⟨10 ^ (4 * weight).toNat, 0⟩ := by
  have hscale := scale_ofGroups false weight [1]
  rw [List.length_singleton] at hscale
  rw [withScale_of_scale_le (by omega), show (ofGroups false weight [1]).unscaled = 1 from rfl,
    Int.one_mul, hscale]
  congr 2
  omega

theorem length_digits_expand_ten_pow (k : Nat) :
    (Numeral.digits (expand ⟨10 ^ k, 0⟩).unscaled.natAbs).length = k + 1 := by
  have h := Numeral.digits_mul_pow one_ne_zero k
  rw [Nat.one_mul] at h
  rw [expand_of_scale_nonneg le_rfl, Int.natAbs_pow, show (10 : Int).natAbs = 10 from rfl, h,
    List.length_append, List.length_replicate, Nat.add_comm]
  rfl

theorem ofText_toText_ten_pow {k : Nat} (hlow : 131068 ≤ k) (hhigh : k < 2 ^ 61) :
    ofText (toText ⟨10 ^ k, 0⟩) =
      .error (.rejected (.outOfRange .numeric (abbreviate (toText ⟨10 ^ k, 0⟩)))) := by
  have hlen := length_digits_expand_ten_pow k
  rw [ofText_toText (show (0 : Int) < 2 ^ 62 by decide) (by omega), textGroups, hlen, if_neg]
  change ¬((0 : Int) ≤ 16383 ∧ (max (((k + 1 : Nat) : Int) - 0) 0 + 3) / 4 + 0 ≤ 32767)
  omega

/-- A power of ten whose digits fill 32768 groups, and a zero whose scale is one too large. -/
theorem not_closed_of_ten_pow :
    (ofBytes [0, 1, 0x7F, 0xFF, 0, 0, 0, 0, 0, 1] = .ok ⟨10 ^ 131068, 0⟩ ∧
      ofText (toText ⟨10 ^ 131068, 0⟩) ≠ .ok ⟨10 ^ 131068, 0⟩) ∧
    ofBytes [0, 0, 0, 0, 0, 0, 0x40, 0] = .ok ⟨0, 16384⟩ ∧
      ∀ again, toBytes ⟨0, 16384⟩ ≠ .ok again := by
  refine ⟨⟨?_, ?_⟩, ?_, ?_⟩
  · have hlayout : HasLayout [0, 1, 0x7F, 0xFF, 0, 0, 0, 0, 0, 1] 32767 0 0 [1] := by
      constructor <;> decide
    rw [ofBytes_of_hasLayout hlayout (Or.inl rfl) le_rfl (by decide)]
    exact congrArg Except.ok (withScale_ofGroups_one (by decide))
  · rw [ofText_toText_ten_pow le_rfl (by decide)]
    exact fun h => (nomatch h)
  · have hlayout : HasLayout [0, 0, 0, 0, 0, 0, 0x40, 0] 0 0 16384 [] := by
      constructor <;> decide
    exact ofBytes_of_hasLayout hlayout (Or.inl rfl) (by decide) (by decide)
  · intro again h
    have hscale : (16384 : Int) ≤ 16383 := (toBytes_eq_ok_iff.mp h).1.scale_le
    omega

end ScalarWire.Decimal
