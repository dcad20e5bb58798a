import ScalarWire.Proofs.Decimal.Groups

/-!
# Round trip of binary decimals

Whatever `toBytes` writes is in canonical form, and `ofBytes` gives back the same number at the
same scale; a negative scale comes back as 0.
-/

namespace ScalarWire.Decimal

/-- The one form in which a decimal is written: sign and scale are its own, and there are at most
32767 groups below 10000, none of which is a zero at either end. -/
structure IsCanonical (d : Decimal) (bytes : List UInt8) (weight : Int) (groups : List Nat) :
    Prop where
  layout : HasLayout bytes weight (if d.unscaled < 0 then 0x4000 else 0x0000) (max d.scale 0) groups
  scale_le : max d.scale 0 ≤ 16383
  length_le : groups.length ≤ 32767
  groups_lt : ∀ g ∈ groups, g < 10000
  head_ne : groups.head? ≠ some 0
  last_ne : groups.getLast? ≠ some 0
  of_zero : d.unscaled = 0 → groups = [] ∧ weight = 0

theorem isCanonical_of_fits {d : Decimal} (h : d.Fits) :
    d.IsCanonical (frame d.wireWeight d.wireSign d.expand.scale d.wireGroups)
      d.wireWeight d.wireGroups where
  layout := by
    rw [← expand_scale]
    exact hasLayout_of_fits h
  scale_le := by
    have : d.scale ≤ 16383 := h.scale_le
    omega
  length_le := by
    have : (d.wireGroups.length : Int) ≤ 32767 := h.length_le
    omega
  groups_lt := groupsOf_lt _ _
  head_ne := head?_groupsOf _ _
  last_ne := getLast?_groupsOf _ _
  of_zero h0 := ⟨d.wireGroups_eq_nil_iff.mpr h0, if_pos h0⟩

theorem ofBytes_frame_of_fits {d : Decimal} (h : d.Fits) :
    ofBytes (frame d.wireWeight d.wireSign d.expand.scale d.wireGroups) = .ok d.expand := by
  have hsign : IsSign d.wireSign := by
    unfold wireSign IsSign
    split_ifs
    · exact Or.inr rfl
    · exact Or.inl rfl
  rw [ofBytes_of_hasLayout (hasLayout_of_fits h) hsign (by rw [expand_scale]; omega)
    (groupsOf_lt _ _)]
  rw [withScale_eq (d.toRat_wireGroups.trans d.toRat_expand.symm)]

/-- Where a decimal has a binary form, that form is canonical and is read back as the same number
at the same scale. -/
theorem isCanonical_and_ofBytes_toBytes {d : Decimal} {bytes : List UInt8}
    (h : d.toBytes = .ok bytes) :
    (∃ weight groups, d.IsCanonical bytes weight groups) ∧
      ∃ e, ofBytes bytes = .ok e ∧ e.toRat = d.toRat ∧ e.scale = max d.scale 0 ∧
        (0 ≤ d.scale → e = d) := by
  obtain ⟨hfits, rfl⟩ := toBytes_eq_ok_iff.mp h
  exact ⟨⟨_, _, isCanonical_of_fits hfits⟩, d.expand, ofBytes_frame_of_fits hfits, d.toRat_expand,
    d.expand_scale, expand_of_scale_nonneg⟩

/-- A negative number below 1, whose last group is a zero that is not written. -/
theorem isCanonical_and_ofBytes_toBytes_small :
    toBytes ⟨-120000, 9⟩ = .ok [0, 2, 0xFF, 0xFF, 0x40, 0, 0, 9, 0, 1, 0x07, 0xD0] ∧
      (∃ weight groups, IsCanonical ⟨-120000, 9⟩
        [0, 2, 0xFF, 0xFF, 0x40, 0, 0, 9, 0, 1, 0x07, 0xD0] weight groups) ∧
      ∃ e, ofBytes [0, 2, 0xFF, 0xFF, 0x40, 0, 0, 9, 0, 1, 0x07, 0xD0] = .ok e ∧
        e = ⟨-120000, 9⟩ := by
  have h : toBytes ⟨-120000, 9⟩ = .ok [0, 2, 0xFF, 0xFF, 0x40, 0, 0, 9, 0, 1, 0x07, 0xD0] := by
    rfl
  obtain ⟨hcanonical, e, he, -, -, heq⟩ := isCanonical_and_ofBytes_toBytes h
  exact ⟨h, hcanonical, e, he, heq (by decide)⟩

end ScalarWire.Decimal
