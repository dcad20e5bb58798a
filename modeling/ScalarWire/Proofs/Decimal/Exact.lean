import Mathlib.Tactic.FieldSimp
import ScalarWire.Proofs.Decimal.Text

/-!
# Decimals read exactly

`DecimalLiteral.toRat` is the number that a literal denotes. A literal within the limits is read as
a decimal of that very number, which the exponent has no other part in than to place the point.
The decimal is within the limits as well, so its text is read back as the same decimal.
-/

namespace ScalarWire

/-- The number that a literal denotes: the digits before the point and those behind it, which count
tenths, hundredths and so on, times ten to the exponent. -/
def DecimalLiteral.toRat (l : DecimalLiteral) : ℚ :=
  (if l.negative then -1 else 1) *
    (Numeral.value l.whole + Numeral.value l.fraction / 10 ^ l.fraction.length) * 10 ^ l.exponent

namespace Decimal

/-- All digits of a literal as a whole number, at the scale of the literal. -/
def ofLiteral (l : DecimalLiteral) : Decimal :=
  ⟨l.unscaled, l.scale⟩

theorem toRat_ofLiteral (l : DecimalLiteral) : (ofLiteral l).toRat = l.toRat := by
  have hpow : (10 : ℚ) ^ (-l.scale) = 10 ^ l.exponent / 10 ^ l.fraction.length := by
    rw [DecimalLiteral.scale, neg_sub, zpow_sub₀ (by norm_num), zpow_natCast]
  have hunscaled : (l.unscaled : ℚ) = (if l.negative then -1 else 1) *
      (Numeral.value l.whole * 10 ^ l.fraction.length + Numeral.value l.fraction) := by
    rw [DecimalLiteral.unscaled, DecimalLiteral.magnitude, DecimalLiteral.digits,
      Numeral.value_append, Numeral.negateIf]
    split_ifs <;> push_cast <;> ring
  rw [ofLiteral, toRat_mk, hpow, hunscaled, DecimalLiteral.toRat]
  field_simp

/-- What `ofText` accepts, and the decimal that it makes of it. -/
theorem ofText_eq_ok_iff {s : List Char} {d : Decimal} :
    ofText s = .ok d ↔ isSpecial (Text.trim s) = false ∧
      ∃ l : DecimalLiteral, l.Spells (Text.trim s) ∧ -2 ^ 63 ≤ l.scale ∧ l.scale < 2 ^ 63 ∧
        exceedsLimits l = false ∧ (l.unscaled = 0 ∨ -2 ^ 32 ≤ l.scale) ∧
        d = (ofLiteral l).expand := by
  simp only [ofText]
  constructor
  · intro h
    split at h
    · cases h
    · next hspecial =>
        refine ⟨eq_false_of_ne_true hspecial, ?_⟩
        split at h
        · cases h
        · next l hread =>
            split_ifs at h with hrange hexceeds hzeros
            rw [maxZeros] at hzeros
            exact ⟨l, DecimalLiteral.read?_eq_some_iff.mp hread, by omega, by omega,
              eq_false_of_ne_true hexceeds, by omega, (Except.ok.inj h).symm⟩
  · rintro ⟨hspecial, l, hspells, hlow, hhigh, hlimits, hzeros, rfl⟩
    have hrange : ¬(l.scale < -0x8000000000000000 ∨ 0x8000000000000000 ≤ l.scale) := by omega
    have hbounded : ¬(l.unscaled ≠ 0 ∧ l.scale < -maxZeros) := by
      rw [maxZeros]
      omega
    simp only [hspecial, DecimalLiteral.read?_eq_some_iff.mpr hspells, if_neg hrange, hlimits,
      if_neg hbounded]
    rfl

/-- The limit check on the literal of a text stays within 64-bit words: the digits before the point
can be counted, and their count rounded up to groups. -/
def CountsInWords (s : List Char) : Prop :=
  ∀ l : DecimalLiteral, l.Spells s → (digitCount l.digits : Int) - l.scale < 2 ^ 63 - 3

theorem natAbs_unscaled (l : DecimalLiteral) : l.unscaled.natAbs = Numeral.value l.digits := by
  rw [DecimalLiteral.unscaled, DecimalLiteral.magnitude, Numeral.negateIf]
  split_ifs <;> omega

theorem digitCount_eq {l : DecimalLiteral} (h : ∀ c ∈ l.digits, c.isDigit) :
    digitCount l.digits = (Numeral.digits l.unscaled.natAbs).length := by
  rw [natAbs_unscaled]
  exact Numeral.length_dropWhile_zero h

/-- Zeros that an exponent appends are digits before the point of the literal already. -/
theorem length_digits_expand_ofLiteral_le {l : DecimalLiteral} (h : ∀ c ∈ l.digits, c.isDigit) :
    ((Numeral.digits (ofLiteral l).expand.unscaled.natAbs).length : Int) - max l.scale 0 ≤
      digitCount l.digits - l.scale := by
  have hcount := digitCount_eq h
  rcases lt_or_ge l.scale 0 with hs | hs
  · have hexpand : (ofLiteral l).expand = (ofLiteral l).withScale 0 := if_pos hs
    rw [hexpand, natAbs_withScale_of_le (show (ofLiteral l).scale ≤ 0 from hs.le), hcount]
    change (((Numeral.digits (l.unscaled.natAbs * 10 ^ (0 - l.scale).toNat)).length : Nat) : Int) - _
      ≤ _
    by_cases h0 : l.unscaled.natAbs = 0
    · rw [h0, Nat.zero_mul]
      omega
    · rw [Numeral.digits_mul_pow h0, List.length_append, List.length_replicate]
      omega
  · rw [expand_of_scale_nonneg (show 0 ≤ (ofLiteral l).scale from hs), hcount]
    change ((Numeral.digits l.unscaled.natAbs).length : Int) - _ ≤ _
    omega

/-- A literal that passes the check makes a decimal within the limits. -/
theorem limits_of_exceedsLimits {l : DecimalLiteral} (hdigits : ∀ c ∈ l.digits, c.isDigit)
    (hlow : -2 ^ 63 ≤ l.scale) (hhigh : l.scale < 2 ^ 63)
    (hcount : (digitCount l.digits : Int) - l.scale < 2 ^ 63 - 3)
    (hlimits : exceedsLimits l = false) :
    (ofLiteral l).expand.scale ≤ 16383 ∧ (ofLiteral l).expand.textGroups ≤ 32767 := by
  have hlen := length_digits_expand_ofLiteral_le hdigits
  obtain ⟨hscale, hgroups⟩ := (exceedsLimits_eq_false_iff hlow hhigh).mp hlimits
  have hword : wordDigits l = digitCount l.digits - l.scale :=
    Int.bmod_eq_of_le (by omega) (by omega)
  rw [hword] at hgroups
  have hexpand : (ofLiteral l).expand.scale = max l.scale 0 := expand_scale _
  constructor
  · omega
  · rw [textGroups, expand_of_scale_nonneg (d := (ofLiteral l).expand) (by omega), hexpand]
    omega

/-- What a text is read as, and that it is within the limits. -/
theorem limits_of_ofText {s : List Char} {d : Decimal} (h : ofText s = .ok d)
    (hcount : CountsInWords (Text.trim s)) :
    ∃ l : DecimalLiteral, l.Spells (Text.trim s) ∧ d = (ofLiteral l).expand ∧
      d.scale = max l.scale 0 ∧ d.scale ≤ 16383 ∧ d.textGroups ≤ 32767 := by
  obtain ⟨-, l, hspells, hlow, hhigh, hlimits, -, rfl⟩ := ofText_eq_ok_iff.mp h
  exact ⟨l, hspells, rfl, expand_scale _,
    limits_of_exceedsLimits hspells.isDigit_of_mem_digits hlow hhigh (hcount l hspells) hlimits⟩

/-- A minus or nothing, one or more digits, and a point with `scale` digits behind it, unless that
is none. -/
def IsPositional (scale : Nat) (s : List Char) : Prop :=
  ∃ sign whole fraction, s = sign ++ (whole ++ DecimalLiteral.pointFraction fraction) ∧
    (sign = [] ∨ sign = ['-']) ∧ whole ≠ [] ∧ fraction.length = scale ∧
    (∀ c ∈ whole, c.isDigit) ∧ ∀ c ∈ fraction, c.isDigit

theorem isPositional_toText (d : Decimal) : IsPositional d.scale.toNat d.toText := by
  obtain ⟨k, whole, fraction, htext, -, hne, hlen, hw, hf⟩ := d.exists_toText_eq
  refine ⟨_, whole, fraction, htext, ?_, hne, hlen, hw, hf⟩
  by_cases h : d.unscaled < 0
  · simp [h]
  · simp [h]

theorem length_digits_le_of_textGroups_le {d : Decimal} (hscale : d.scale ≤ 16383)
    (hgroups : d.textGroups ≤ 32767) :
    (Numeral.digits d.expand.unscaled.natAbs).length ≤ 147455 := by
  rw [textGroups] at hgroups
  omega

/-- A decimal read from a text is the number that the text spells, with as many digits behind the
point as the spelling has once its exponent has moved the point. Its own text is positional and
is read as the same decimal. -/
theorem toRat_and_ofText_toText_of_ofText {s : List Char} {d : Decimal} (h : ofText s = .ok d)
    (hcount : CountsInWords (Text.trim s)) :
    ∃ l : DecimalLiteral, l.Spells (Text.trim s) ∧ d.toRat = l.toRat ∧
      d.scale = max 0 (l.fraction.length - l.exponent) ∧
      IsPositional d.scale.toNat d.toText ∧ ofText d.toText = .ok d := by
  obtain ⟨l, hspells, hd, hscale, hle, hgroups⟩ := limits_of_ofText h hcount
  have hlen := length_digits_le_of_textGroups_le hle hgroups
  refine ⟨l, hspells, ?_, ?_, d.isPositional_toText, ?_⟩
  · rw [hd, toRat_expand, toRat_ofLiteral]
  · rw [hscale, DecimalLiteral.scale, max_comm]
  · rw [ofText_toText (by omega) (by omega), if_pos ⟨hle, hgroups⟩,
      expand_of_scale_nonneg (by omega)]

/-- A negative number whose exponent takes up its fraction and appends a zero. -/
theorem toRat_and_ofText_toText_of_ofText_exponent :
    ofText " -01.25e+03 ".toList = .ok ⟨-1250, 0⟩ ∧
      CountsInWords (Text.trim " -01.25e+03 ".toList) ∧
      ∃ l : DecimalLiteral, l.Spells "-01.25e+03".toList ∧ toRat ⟨-1250, 0⟩ = l.toRat ∧
        0 = max 0 (l.fraction.length - l.exponent) ∧
        IsPositional 0 (toText ⟨-1250, 0⟩) ∧ ofText (toText ⟨-1250, 0⟩) = .ok ⟨-1250, 0⟩ := by
  have htrim : Text.trim " -01.25e+03 ".toList = "-01.25e+03".toList := by decide
  have hread : DecimalLiteral.read? "-01.25e+03".toList =
      some ⟨true, ['0', '1'], ['2', '5'], false, ['0', '3']⟩ := by
    rfl
  have h : ofText " -01.25e+03 ".toList = .ok ⟨-1250, 0⟩ := by
    rfl
  have hcount : CountsInWords (Text.trim " -01.25e+03 ".toList) := by
    intro l hl
    rw [htrim, ← DecimalLiteral.read?_eq_some_iff, hread] at hl
    obtain rfl := Option.some.inj hl
    decide
  have := toRat_and_ofText_toText_of_ofText h hcount
  rw [htrim] at this
  exact ⟨h, hcount, this⟩

end Decimal

end ScalarWire
