import ScalarWire.Proofs.Decimal.Layout
import ScalarWire.Proofs.Text.Runs

/-!
# The groups of a decimal

`groupsOf` cuts a number into digits in base 10000 that are aligned with the point. No zero group
is left at either end, the groups with their weight denote the number exactly, and every limit of
the header is met where `toBytes` succeeds.
-/

namespace ScalarWire.Decimal

theorem eq_trimGroups_append (groups : List Nat) :
    ∃ k, groups = trimGroups groups ++ List.replicate k 0 :=
  Text.eq_reverse_dropWhile_append 0 groups

theorem getLast?_trimGroups (groups : List Nat) : (trimGroups groups).getLast? ≠ some 0 := by
  intro h
  have := List.head?_dropWhile_not (· == 0) groups.reverse
  rw [trimGroups, List.getLast?_reverse] at h
  simp [h] at this

theorem head?_trimGroups {groups : List Nat} (h : groups.head? ≠ some 0) :
    (trimGroups groups).head? ≠ some 0 := by
  obtain ⟨k, hk⟩ := eq_trimGroups_append groups
  intro h0
  rw [hk, List.head?_append, h0] at h
  exact h rfl

theorem trimGroups_subset (groups : List Nat) : trimGroups groups ⊆ groups := by
  obtain ⟨k, hk⟩ := eq_trimGroups_append groups
  intro g hg
  rw [hk]
  exact List.mem_append_left _ hg

theorem length_trimGroups_le (groups : List Nat) : (trimGroups groups).length ≤ groups.length := by
  obtain ⟨k, hk⟩ := eq_trimGroups_append groups
  have := congrArg List.length hk
  rw [List.length_append] at this
  omega

theorem toRat_ofGroups (negative : Bool) (weight : Int) (groups : List Nat) :
    (ofGroups negative weight groups).toRat =
      (if negative then -1 else 1) * Radix.value 10000 groups *
        10 ^ (4 * (weight - groups.length + 1)) := by
  rw [ofGroups, toRat_mk, neg_neg]
  cases negative <;> simp [Numeral.negateIf]

section groupsOf

variable (m s : Nat)

theorem groupsOf_lt : ∀ g ∈ (groupsOf m s).1, g < 10000 :=
  fun g hg => Radix.digits_lt (by omega) _ g (trimGroups_subset _ hg)

theorem head?_groupsOf : (groupsOf m s).1.head? ≠ some 0 :=
  head?_trimGroups (Radix.head?_digits_ne_zero _ _)

theorem getLast?_groupsOf : (groupsOf m s).1.getLast? ≠ some 0 :=
  getLast?_trimGroups _

/-- The groups denote the number that they were cut from. -/
theorem value_groupsOf :
    (Radix.value 10000 (groupsOf m s).1 : ℚ) *
      10 ^ (4 * ((groupsOf m s).2 - (groupsOf m s).1.length + 1)) = m * 10 ^ (-(s : Int)) := by
  obtain ⟨k, hk⟩ := eq_trimGroups_append
    (Radix.digits 10000 (m * 10 ^ (4 * fractionGroups s - s)))
  have hle : s ≤ 4 * fractionGroups s := by
    unfold fractionGroups
    omega
  have hvalue : Radix.value 10000 (Radix.digits 10000 (m * 10 ^ (4 * fractionGroups s - s))) = _ :=
    Radix.value_digits (by omega) _
  have hlen := congrArg List.length hk
  rw [hk, Radix.value_append, Radix.value_replicate_zero, List.length_replicate, Nat.add_zero]
    at hvalue
  rw [List.length_append, List.length_replicate] at hlen
  have hexp : (4 * ((groupsOf m s).2 - (groupsOf m s).1.length + 1) : Int) =
      (4 * k : Nat) - (4 * fractionGroups s : Nat) := by
    simp only [groupsOf]
    omega
  have hscale : (-s : Int) = (4 * fractionGroups s - s : Nat) - (4 * fractionGroups s : Nat) := by
    omega
  rw [hexp, hscale, zpow_sub₀ (by norm_num), zpow_sub₀ (by norm_num), zpow_natCast, zpow_natCast,
    zpow_natCast, pow_mul, mul_div_assoc', mul_div_assoc']
  congr 1
  exact_mod_cast hvalue

theorem groupsOf_eq_nil_iff : (groupsOf m s).1 = [] ↔ m = 0 := by
  have h := value_groupsOf m s
  constructor
  · intro hnil
    rw [hnil, Radix.value_nil, Nat.cast_zero, zero_mul, eq_comm, mul_eq_zero] at h
    exact_mod_cast h.resolve_right (zpow_ne_zero _ (by norm_num))
  · rintro rfl
    simp [groupsOf, trimGroups, Radix.digits_zero]

theorem neg_le_weight_groupsOf : -(fractionGroups s : Int) - 1 ≤ (groupsOf m s).2 := by
  simp only [groupsOf]
  omega

end groupsOf

/-- The groups that the binary form of a decimal holds. -/
def wireGroups (d : Decimal) : List Nat :=
  (groupsOf d.expand.unscaled.natAbs d.expand.scale.toNat).1

/-- The weight of the first group; a number without groups has weight 0. -/
def wireWeight (d : Decimal) : Int :=
  if d.unscaled = 0 then 0 else (groupsOf d.expand.unscaled.natAbs d.expand.scale.toNat).2

def wireSign (d : Decimal) : Nat :=
  if d.unscaled < 0 then negativeSign else positiveSign

/-- The limits that the header sets to a decimal. -/
structure Fits (d : Decimal) : Prop where
  scale_le : d.scale ≤ maxScale
  length_le : (d.wireGroups.length : Int) ≤ maxGroups
  weight_le : (groupsOf d.expand.unscaled.natAbs d.expand.scale.toNat).2 ≤ 32767

theorem wireGroups_eq_nil_iff (d : Decimal) : d.wireGroups = [] ↔ d.unscaled = 0 := by
  rw [wireGroups, groupsOf_eq_nil_iff, Int.natAbs_eq_zero, expand_unscaled_eq_zero_iff]

theorem toBytes_of_fits {d : Decimal} (h : d.Fits) :
    d.toBytes = .ok (frame d.wireWeight d.wireSign d.expand.scale d.wireGroups) := by
  have hscale : ¬ maxScale < d.expand.scale := by
    have := h.scale_le
    rw [expand_scale]
    unfold maxScale at *
    omega
  have hlimits : ¬ (maxGroups < (d.wireGroups.length : Int) ∨
      32767 < (groupsOf d.expand.unscaled.natAbs d.expand.scale.toNat).2) := by
    have := h.length_le
    have := h.weight_le
    omega
  have hnil := d.wireGroups_eq_nil_iff
  simp only [wireGroups] at hlimits hnil
  simp only [toBytes, wireWeight, wireSign, wireGroups]
  rw [if_neg hscale, if_neg hlimits]
  by_cases h0 : d.unscaled = 0
  · rw [if_pos (hnil.mpr h0), if_pos h0, if_neg (by omega), hnil.mpr h0]
    rfl
  · rw [if_neg (mt hnil.mp h0), if_neg h0]
    simp only [expand_unscaled_neg_iff]
    rfl

theorem toBytes_of_not_fits {d : Decimal} (h : ¬ d.Fits) :
    d.toBytes =
      .error (.outOfRange .numeric (abbreviate (Numeral.digits d.expand.unscaled.natAbs))) := by
  simp only [toBytes]
  split_ifs with hscale hlimits hnil
  · rfl
  · rfl
  all_goals
    refine absurd ⟨?_, ?_, ?_⟩ h
    · rw [expand_scale] at hscale
      omega
    · exact not_lt.mp fun hlt => hlimits (Or.inl hlt)
    · exact not_lt.mp fun hlt => hlimits (Or.inr hlt)

theorem toBytes_eq_ok_iff {d : Decimal} {bytes : List UInt8} :
    d.toBytes = .ok bytes ↔
      d.Fits ∧ bytes = frame d.wireWeight d.wireSign d.expand.scale d.wireGroups := by
  by_cases h : d.Fits
  · rw [toBytes_of_fits h, Except.ok.injEq]
    exact ⟨fun hb => ⟨h, hb.symm⟩, fun hb => hb.2.symm⟩
  · rw [toBytes_of_not_fits h]
    exact ⟨fun hb => (nomatch hb), fun hb => absurd hb.1 h⟩

/-- The weight of a decimal that fits is a signed 16-bit word. -/
theorem wireWeight_bounds {d : Decimal} (h : d.Fits) :
    -32768 ≤ d.wireWeight ∧ d.wireWeight ≤ 32767 := by
  have hlow := neg_le_weight_groupsOf d.expand.unscaled.natAbs d.expand.scale.toNat
  have hexpand := d.expand_scale
  have hscale : d.scale ≤ 16383 := h.scale_le
  have hhigh := h.weight_le
  unfold fractionGroups at hlow
  unfold wireWeight
  split_ifs <;> omega

/-- The bytes written for a decimal have the layout that its groups ask for. -/
theorem hasLayout_of_fits {d : Decimal} (h : d.Fits) :
    HasLayout (frame d.wireWeight d.wireSign d.expand.scale d.wireGroups)
      d.wireWeight d.wireSign d.expand.scale d.wireGroups := by
  have hweight := wireWeight_bounds h
  have hscale := d.expand_scale
  have hle : d.scale ≤ 16383 := h.scale_le
  have hlength : (d.wireGroups.length : Int) ≤ 32767 := h.length_le
  apply hasLayout_frame
  · omega
  · omega
  · unfold wireSign negativeSign positiveSign
    split_ifs <;> omega
  · omega
  · intro g hg
    have := groupsOf_lt _ _ g hg
    omega

/-- The groups, the weight and the sign of the binary form denote the decimal. -/
theorem toRat_wireGroups (d : Decimal) :
    (ofGroups (d.wireSign == negativeSign) d.wireWeight d.wireGroups).toRat = d.toRat := by
  have hs : ((d.expand.scale.toNat : Nat) : Int) = d.expand.scale := by
    rw [expand_scale]
    omega
  have hvalue := value_groupsOf d.expand.unscaled.natAbs d.expand.scale.toNat
  have hsign : (if d.wireSign == negativeSign then (-1 : ℚ) else 1) * d.expand.unscaled.natAbs =
      d.expand.unscaled := by
    have hneg := d.expand_unscaled_neg_iff
    by_cases h : d.unscaled < 0
    · rw [wireSign, if_pos h, if_pos (by decide), ← Int.cast_natCast,
        Int.ofNat_natAbs_of_nonpos (hneg.mpr h).le]
      simp
    · rw [wireSign, if_neg h, if_neg (by decide), one_mul, ← Int.cast_natCast,
        Int.natAbs_of_nonneg (not_lt.mp (mt hneg.mp h))]
  rw [← d.toRat_expand]
  by_cases h0 : d.unscaled = 0
  · rw [d.wireGroups_eq_nil_iff.mpr h0, toRat_ofGroups, Radix.value_nil,
      toRat_eq_zero_iff.mpr (d.expand_unscaled_eq_zero_iff.mpr h0)]
    simp
  · rw [toRat_ofGroups, mul_assoc, wireWeight, if_neg h0, wireGroups, hvalue, ← mul_assoc, hsign,
      hs]
    rfl

end ScalarWire.Decimal
