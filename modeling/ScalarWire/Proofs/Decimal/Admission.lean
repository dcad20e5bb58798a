import ScalarWire.Proofs.Decimal.Closure
import ScalarWire.Proofs.Decimal.Exact

/-!
# Decimals read from text have a binary form

The limits that a text is held to are upper bounds, reckoned before a number is cut into groups.
They bound the groups that are really cut, and the weight of the first, for every way in which the
digits are divided by the point.
-/

namespace ScalarWire.Decimal

/-- Rounding each side of the point up to groups of four leaves room for all digits. -/
theorem length_digits_alignedMagnitude_le_textGroups {d : Decimal} (h : 0 ≤ d.scale) :
    ((Radix.digits 10000 d.alignedMagnitude).length : Int) ≤ d.textGroups := by
  have hexpand := expand_of_scale_nonneg h
  have hlt : d.unscaled.natAbs < 10 ^ (Numeral.digits d.unscaled.natAbs).length := by
    apply (Numeral.length_digits_le_iff _).mp le_rfl
    exact List.length_pos_iff.mpr (Numeral.digits_ne_nil _)
  have hle : (Numeral.digits d.unscaled.natAbs).length +
      (4 * fractionGroups d.scale.toNat - d.scale.toNat) ≤ 4 * d.textGroups.toNat := by
    rw [textGroups, hexpand, fractionGroups]
    omega
  have haligned : d.alignedMagnitude < 10000 ^ d.textGroups.toNat := by
    calc d.alignedMagnitude
      _ < 10 ^ (Numeral.digits d.unscaled.natAbs).length *
          10 ^ (4 * fractionGroups d.scale.toNat - d.scale.toNat) :=
        Nat.mul_lt_mul_of_pos_right hlt (by positivity)
      _ = 10 ^ ((Numeral.digits d.unscaled.natAbs).length +
          (4 * fractionGroups d.scale.toNat - d.scale.toNat)) := (pow_add ..).symm
      _ ≤ 10 ^ (4 * d.textGroups.toNat) := Nat.pow_le_pow_right (by omega) hle
      _ = 10000 ^ d.textGroups.toNat := pow_mul ..
  have hlen := (Radix.length_digits_le_iff (by omega) _ _).mpr haligned
  have hnonneg : 0 ≤ d.textGroups := by
    rw [textGroups]
    omega
  omega

/-- The groups behind the point are among those that the text is held to. -/
theorem fits_of_textGroups_le {d : Decimal} (h : 0 ≤ d.scale) (hscale : d.scale ≤ 16383)
    (hgroups : d.textGroups ≤ 32767) : d.Fits := by
  have hlen := length_digits_alignedMagnitude_le_textGroups h
  have hwire : d.wireGroups.length ≤ (Radix.digits 10000 d.alignedMagnitude).length := by
    rw [wireGroups_eq h]
    exact length_trimGroups_le _
  refine ⟨hscale, ?_, ?_⟩
  · unfold maxGroups
    omega
  · rw [expand_of_scale_nonneg h]
    change ((Radix.digits 10000 d.alignedMagnitude).length : Int) - _ - 1 ≤ 32767
    omega

/-- Whatever decimal is read from a text has a binary form, each of whose header fields holds what
it should, and that form is read back as the same decimal. -/
theorem toBytes_and_ofBytes_of_ofText {s : List Char} {d : Decimal} (h : ofText s = .ok d)
    (hcount : CountsInWords (Text.trim s)) :
    ∃ bytes, d.toBytes = .ok bytes ∧
      HasLayout bytes d.wireWeight d.wireSign d.scale d.wireGroups ∧
      d.wireGroups.length ≤ 32767 ∧ (-32768 ≤ d.wireWeight ∧ d.wireWeight ≤ 32767) ∧
      (0 ≤ d.scale ∧ d.scale ≤ 16383) ∧ ofBytes bytes = .ok d := by
  obtain ⟨l, -, -, hscale, hle, hgroups⟩ := limits_of_ofText h hcount
  have hnonneg : 0 ≤ d.scale := by omega
  have hexpand := expand_of_scale_nonneg hnonneg
  have hfits := fits_of_textGroups_le hnonneg hle hgroups
  have hlength : (d.wireGroups.length : Int) ≤ 32767 := hfits.length_le
  have hlayout := hasLayout_of_fits hfits
  have hread := ofBytes_frame_of_fits hfits
  rw [hexpand] at hlayout hread
  have hbytes := toBytes_of_fits hfits
  rw [hexpand] at hbytes
  exact ⟨_, hbytes, hlayout, by omega, wireWeight_bounds hfits, ⟨hnonneg, hle⟩, hread⟩

/-- A whole number written with an exponent that moves the point into it. -/
theorem toBytes_and_ofBytes_of_ofText_exponent :
    ofText "+120000.00E-4".toList = .ok ⟨12000000, 6⟩ ∧
      CountsInWords (Text.trim "+120000.00E-4".toList) ∧
      toBytes ⟨12000000, 6⟩ = .ok [0, 1, 0, 0, 0, 0, 0, 6, 0, 12] ∧
      HasLayout [0, 1, 0, 0, 0, 0, 0, 6, 0, 12] 0 0 6 [12] ∧
      ofBytes [0, 1, 0, 0, 0, 0, 0, 6, 0, 12] = .ok ⟨12000000, 6⟩ := by
  have hread : DecimalLiteral.read? (Text.trim "+120000.00E-4".toList) =
      some ⟨false, "120000".toList, "00".toList, true, "4".toList⟩ := by
    rfl
  have h : ofText "+120000.00E-4".toList = .ok ⟨12000000, 6⟩ := by
    rfl
  have hcount : CountsInWords (Text.trim "+120000.00E-4".toList) := by
    intro l hl
    rw [← DecimalLiteral.read?_eq_some_iff, hread] at hl
    obtain rfl := Option.some.inj hl
    decide
  have hbytes : toBytes ⟨12000000, 6⟩ = .ok [0, 1, 0, 0, 0, 0, 0, 6, 0, 12] := by
    rfl
  obtain ⟨bytes, hok, hlayout, -, -, -, hback⟩ := toBytes_and_ofBytes_of_ofText h hcount
  obtain rfl := Except.ok.inj (hbytes.symm.trans hok)
  exact ⟨h, hcount, hbytes, hlayout, hback⟩

end ScalarWire.Decimal
