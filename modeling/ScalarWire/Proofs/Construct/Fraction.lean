import Mathlib.Data.Nat.Cast.Order.Field
import ScalarWire.Construct
import ScalarWire.Proofs.Decimal.Meaning
import ScalarWire.Proofs.Float.Pattern

/-!
# Ticks from fractional seconds

Seconds with a fraction are cut toward zero, whatever their size, and refused if that leaves the
64-bit word. A machine does this on doubles: it cuts the double, compares it with the ends of the
word, the greater of which is no double and gives way to the next power of two, and casts it. The
cut is exact, and after the comparisons there is nothing left for the cast to saturate.
-/

namespace ScalarWire

open FloatFormat (double withinDouble_double)
open Decimal (towardZero towardZero_intCast towardZero_div)

namespace Double

/-- The number that a double is, unless it is infinite or no number. -/
def number? (x : Double) : Option ℚ :=
  match x.value with
  | .finite negative mantissa exponent =>
    some ((if negative then -1 else 1) * (mantissa * 2 ^ exponent))
  | _ => none

/-- The double nearest to a whole number. -/
def ofInt (n : Int) : Double :=
  ofNat (double.signed (n < 0) (double.roundBinary n.natAbs 0))

/-- A double without its fraction, as a double again. It keeps its sign, also as a zero. -/
def cut (x : Double) : Double :=
  match x.value with
  | .finite negative mantissa exponent =>
    ofNat (double.signed negative
      (double.roundBinary (Ticks.wholePart false mantissa exponent).natAbs 0))
  | _ => x

/-- Whether a double is a number below the number that another double is. -/
def isBelow (x y : Double) : Bool :=
  match x.number?, y.number? with
  | some p, some q => p < q
  | _, _ => false

/-- The word that a cast makes of a double. What lies beyond the ends of the word becomes the end,
and what is no number becomes zero. -/
def toWord (x : Double) : Int64 :=
  match x.value with
  | .finite .. => Int64.ofInt (max (-2 ^ 63) (min (2 ^ 63 - 1) (towardZero (x.number?.getD 0))))
  | .infinite negative => if negative then Int64.minValue else Int64.maxValue
  | .nan => 0

variable {x : Double} {q : ℚ}

theorem exists_value_of_number? (h : x.number? = some q) :
    ∃ negative mantissa exponent, x.value = .finite negative mantissa exponent ∧
      (if negative then -1 else 1) * (mantissa * 2 ^ exponent) = q := by
  unfold number? at h
  split at h
  · next negative mantissa exponent hvalue =>
      exact ⟨negative, mantissa, exponent, hvalue, Option.some.inj h⟩
  · cases h

theorem value_ofNat_signed (negative : Bool) {bits : Nat} (h : bits < double.infinityBits) :
    (ofNat (double.signed negative bits)).value =
      .finite negative (double.significand bits) (double.unitExponent bits) := by
  rw [value, toNat_ofNat_signed h.le, FloatFormat.decode_signed h]

theorem number?_ofNat_signed {negative : Bool} {bits : Nat} (h : bits < double.infinityBits) :
    (ofNat (double.signed negative bits)).number? =
      some ((if negative then -1 else 1) * double.magnitude bits) := by
  rw [number?, value_ofNat_signed _ h]
  rfl

/-- A double that is a number is a sign and a magnitude. -/
theorem exists_of_number? (h : x.number? = some q) :
    ∃ negative bits, bits < double.infinityBits ∧ x = ofNat (double.signed negative bits) ∧
      q = (if negative then -1 else 1) * double.magnitude bits := by
  rcases x.value_cases with ⟨negative, bits, hlt, rfl⟩ | ⟨negative, rfl⟩ | hnan
  · rw [number?_ofNat_signed hlt] at h
    exact ⟨negative, bits, hlt, rfl, (Option.some.inj h).symm⟩
  · rw [number?, value_ofNat_infinityBits] at h
    cases h
  · rw [number?, hnan] at h
    cases h

/-- The whole part is the number cut toward zero. -/
theorem wholePart_eq (negative : Bool) (mantissa : Nat) (exponent : Int) :
    Ticks.wholePart negative mantissa exponent =
      towardZero ((if negative then -1 else 1) * (mantissa * 2 ^ exponent)) := by
  have hquot := cast_mul_pow_div_pow (by decide : 2 ≠ 0) mantissa exponent
  have hsigned : (if negative then -1 else 1) * (mantissa * 2 ^ exponent : ℚ) =
      ((Numeral.negateIf negative (mantissa * 2 ^ exponent.toNat) : ℤ) : ℚ) /
        (2 ^ (-exponent).toNat : ℕ) := by
    rw [Nat.cast_ofNat] at hquot
    rw [← hquot]
    cases negative
    · simp [Numeral.negateIf]
    · simp [Numeral.negateIf, neg_div]
  rw [hsigned, towardZero_div _ (Nat.two_pow_pos _)]
  cases negative
  · rfl
  · have hneg := Int.neg_tdiv (mantissa * 2 ^ exponent.toNat : ℕ) (2 ^ (-exponent).toNat : ℕ)
    exact hneg.symm

theorem cast_wholePart (negative : Bool) (mantissa : Nat) (exponent : Int) :
    (Ticks.wholePart negative mantissa exponent : ℚ) =
      (if negative then -1 else 1) * (Ticks.wholePart false mantissa exponent).natAbs := by
  unfold Ticks.wholePart
  generalize mantissa * 2 ^ exponent.toNat / 2 ^ (-exponent).toNat = n
  cases negative <;> simp [Numeral.negateIf]

/-- The whole part of a magnitude is a magnitude as well: a number without a fraction is its own
whole part, and that of any other one has no more digits than a significand. -/
theorem exists_magnitude_wholePart {bits : Nat} (h : bits < double.infinityBits) :
    ∃ whole < double.infinityBits, double.magnitude whole =
      (Ticks.wholePart false (double.significand bits) (double.unitExponent bits)).natAbs := by
  have hmagnitude : double.magnitude bits =
      double.significand bits * 2 ^ double.unitExponent bits := rfl
  have hlt := FloatFormat.significand_lt (f := double) bits
  generalize double.significand bits = m at hmagnitude hlt ⊢
  generalize double.unitExponent bits = e at hmagnitude ⊢
  have hwhole : (Ticks.wholePart false m e).natAbs = m * 2 ^ e.toNat / 2 ^ (-e).toNat := rfl
  rw [hwhole]
  rcases le_or_gt 0 e with he | he
  · obtain ⟨k, rfl⟩ := Int.eq_ofNat_of_zero_le he
    refine ⟨bits, h, ?_⟩
    rw [hmagnitude]
    simp
  · have hexponent : e.toNat = 0 := by omega
    rw [hexponent, pow_zero, Nat.mul_one]
    have hcut : m / 2 ^ (-e).toNat ≤ m := Nat.div_le_self _ _
    obtain ⟨whole, hfound⟩ :=
      FloatFormat.exists_magnitude_eq (f := double) 1074 (hcut.trans_lt hlt)
    have hone : double.minExponent + (1074 : ℕ) = 0 := by decide
    rw [hone, zpow_zero, mul_one] at hfound
    refine ⟨whole, ?_, hfound⟩
    have hle : double.magnitude whole ≤ double.magnitude bits := by
      have hquot := cast_mul_pow_div_pow (by decide : 2 ≠ 0) m e
      rw [hexponent, pow_zero, Nat.mul_one, Nat.cast_ofNat] at hquot
      rw [hfound, hmagnitude, ← hquot]
      exact Nat.cast_div_le
    exact ((FloatFormat.magnitude_strictMono (f := double)).le_iff_le.mp hle).trans_lt h

/-- Cutting a double is exact. -/
theorem number?_cut (h : x.number? = some q) : x.cut.number? = some (towardZero q : ℚ) := by
  obtain ⟨negative, bits, hlt, rfl, rfl⟩ := exists_of_number? h
  obtain ⟨whole, hwhole, hmagnitude⟩ := exists_magnitude_wholePart hlt
  have hnearest := FloatFormat.isNearest_roundBinary withinDouble_double
    (Ticks.wholePart false (double.significand bits) (double.unitExponent bits)).natAbs 0
  rw [zpow_zero, mul_one, ← hmagnitude] at hnearest
  have hround := hnearest.unique (FloatFormat.isNearest_magnitude hwhole.le)
  have hcut : (ofNat (double.signed negative bits)).cut = ofNat (double.signed negative whole) := by
    rw [cut, value_ofNat_signed _ hlt, ← hround]
  rw [hcut, number?_ofNat_signed hwhole, hmagnitude, ← cast_wholePart, wholePart_eq]
  rfl

theorem number?_cut_eq_none (h : x.number? = none) : x.cut.number? = none := by
  have hcut : x.cut = x := by
    unfold number? at h
    unfold cut
    split at h
    · cases h
    · rfl
  rw [hcut, h]

/-- The least word is a double. -/
theorem number?_ofInt_least : (ofInt (-2 ^ 63)).number? = some (-2 ^ 63) := by
  decide +kernel

/-- The greatest word is none, and the double nearest to it is the number behind it. -/
theorem number?_ofInt_greatest : (ofInt (2 ^ 63 - 1)).number? = some (2 ^ 63) := by
  decide +kernel

theorem toWord_of_number? (h : x.number? = some q) :
    x.toWord = Int64.ofInt (max (-2 ^ 63) (min (2 ^ 63 - 1) (towardZero q))) := by
  obtain ⟨negative, mantissa, exponent, hvalue, -⟩ := exists_value_of_number? h
  rw [toWord, hvalue, h]
  rfl

end Double

namespace Ticks

open Double

variable {x : Double} {q : ℚ}

/-- The refusal of a number that is too large, or that is none. -/
def refusal (x : Double) : CodecError :=
  .outOfRange .timestamp (String.ofList x.display)

/-- Whether a double is no number, or less than the least word, or not less than the double that the
greatest word is rounded to. -/
def leavesWord (x : Double) : Bool :=
  x.number?.isNone || x.isBelow (.ofInt (-2 ^ 63)) || !x.isBelow (.ofInt (2 ^ 63 - 1))

/-- What a machine makes of a double: it cuts it, compares it with the ends of the word, and casts
it. -/
def castDouble (x : Double) : Except CodecError Ticks :=
  if leavesWord x.cut then throw (refusal x) else pure ⟨x.cut.toWord⟩

/-- What leaves the word leaves it as a double as well. -/
theorem leavesWord_iff {n : ℤ} (h : x.number? = some (n : ℚ)) :
    leavesWord x ↔ ¬(-2 ^ 63 ≤ n ∧ n < 2 ^ 63) := by
  have hleast : (n : ℚ) < -2 ^ 63 ↔ n < -2 ^ 63 := by exact_mod_cast Iff.rfl
  have hgreatest : (n : ℚ) < 2 ^ 63 ↔ n < 2 ^ 63 := by exact_mod_cast Iff.rfl
  simp only [leavesWord, isBelow, h, number?_ofInt_least, number?_ofInt_greatest,
    Option.isNone_some, Bool.false_or, Bool.or_eq_true, decide_eq_true_iff, Bool.not_eq_true',
    decide_eq_false_iff_not, hleast, hgreatest]
  omega

theorem castDouble_of_number? (h : x.number? = some q) :
    castDouble x =
      if -2 ^ 63 ≤ towardZero q ∧ towardZero q < 2 ^ 63 then .ok ⟨Int64.ofInt (towardZero q)⟩
      else .error (refusal x) := by
  have hcut := number?_cut h
  have hleaves := leavesWord_iff hcut
  by_cases hword : -2 ^ 63 ≤ towardZero q ∧ towardZero q < 2 ^ 63
  · have hclamp : max (-2 ^ 63) (min (2 ^ 63 - 1) (towardZero q)) = towardZero q := by omega
    rw [castDouble, if_neg fun h => hleaves.mp h hword, if_pos hword, toWord_of_number? hcut,
      towardZero_intCast, hclamp]
    rfl
  · rw [castDouble, if_pos (hleaves.mpr hword), if_neg hword]
    rfl

theorem castDouble_of_no_number (h : x.number? = none) : castDouble x = .error (refusal x) := by
  have hleaves : leavesWord x.cut := by
    rw [leavesWord, number?_cut_eq_none h]
    rfl
  rw [castDouble, if_pos hleaves]
  rfl

theorem ofDouble_of_number? (h : x.number? = some q) :
    ofDouble x =
      if -2 ^ 63 ≤ towardZero q ∧ towardZero q < 2 ^ 63 then .ok ⟨Int64.ofInt (towardZero q)⟩
      else .error (refusal x) := by
  obtain ⟨negative, mantissa, exponent, hvalue, rfl⟩ := exists_value_of_number? h
  have hwhole := wholePart_eq negative mantissa exponent
  unfold ofDouble
  rw [hvalue]
  dsimp only
  rw [hwhole]
  rfl

theorem ofDouble_of_no_number (h : x.number? = none) : ofDouble x = .error (refusal x) := by
  unfold number? at h
  unfold ofDouble
  cases hvalue : x.value with
  | finite negative mantissa exponent =>
      rw [hvalue] at h
      cases h
  | infinite negative => rfl
  | nan => rfl

/-- A double that is cut, compared and cast gives the same ticks. -/
theorem ofDouble_eq_castDouble (x : Double) : ofDouble x = castDouble x := by
  cases h : x.number? with
  | none => rw [ofDouble_of_no_number h, castDouble_of_no_number h]
  | some q => rw [ofDouble_of_number? h, castDouble_of_number? h]

/-- The ticks are the whole part, and every word is some ticks. -/
theorem ofDouble_eq_ok_iff {t : Ticks} :
    ofDouble x = .ok t ↔ ∃ q, x.number? = some q ∧ t.seconds.toInt = towardZero q := by
  cases h : x.number? with
  | none =>
      rw [ofDouble_of_no_number h]
      exact iff_of_false nofun nofun
  | some q =>
      rw [ofDouble_of_number? h]
      have hleast := t.seconds.le_toInt
      have hgreatest := t.seconds.toInt_lt
      split_ifs with hword
      · have hint : (Int64.ofInt (towardZero q)).toInt = towardZero q :=
          Int64.toInt_ofInt_of_le hword.1 hword.2
        constructor
        · intro ht
          cases ht
          exact ⟨q, rfl, hint⟩
        · rintro ⟨_, heq, ht⟩
          cases heq
          have hseconds : Int64.ofInt (towardZero q) = t.seconds :=
            Int64.toInt_inj.mp (hint.trans ht.symm)
          rw [hseconds]
      · refine iff_of_false nofun ?_
        rintro ⟨_, heq, ht⟩
        cases heq
        omega

theorem ofDouble_eq_refusal_iff :
    ofDouble x = .error (refusal x) ↔
      ¬∃ q, x.number? = some q ∧ -2 ^ 63 ≤ towardZero q ∧ towardZero q ≤ 2 ^ 63 - 1 := by
  cases h : x.number? with
  | none => exact iff_of_true (ofDouble_of_no_number h) nofun
  | some q =>
      rw [ofDouble_of_number? h]
      split_ifs with hword
      · exact iff_of_false nofun fun hnone => hnone ⟨q, rfl, hword.1, by omega⟩
      · refine iff_of_true rfl ?_
        rintro ⟨_, heq, hlow, hhigh⟩
        cases heq
        omega

theorem exists_ofDouble_iff :
    (∃ t, ofDouble x = .ok t) ↔
      ∃ q, x.number? = some q ∧ -2 ^ 63 ≤ towardZero q ∧ towardZero q ≤ 2 ^ 63 - 1 := by
  constructor
  · rintro ⟨t, ht⟩
    obtain ⟨q, hq, hseconds⟩ := ofDouble_eq_ok_iff.mp ht
    have hleast := t.seconds.le_toInt
    have hgreatest := t.seconds.toInt_lt
    exact ⟨q, hq, by omega, by omega⟩
  · rintro ⟨q, hq, hlow, hhigh⟩
    exact ⟨_, (ofDouble_of_number? hq).trans (if_pos ⟨hlow, by omega⟩)⟩

/-- A double gives ticks exactly if it is a number whose whole part is a word, and the ticks are
this whole part. Every other double is out of range. Cutting, comparing and casting it as a double
finds the same. -/
theorem ofDouble_truncates (x : Double) :
    (∀ t, ofDouble x = .ok t ↔ ∃ q, x.number? = some q ∧ t.seconds.toInt = towardZero q) ∧
      ((∃ t, ofDouble x = .ok t) ↔
        ∃ q, x.number? = some q ∧ -2 ^ 63 ≤ towardZero q ∧ towardZero q ≤ 2 ^ 63 - 1) ∧
      (ofDouble x = .error (refusal x) ↔
        ¬∃ q, x.number? = some q ∧ -2 ^ 63 ≤ towardZero q ∧ towardZero q ≤ 2 ^ 63 - 1) ∧
      ofDouble x = castDouble x :=
  ⟨fun _ => ofDouble_eq_ok_iff, exists_ofDouble_iff, ofDouble_eq_refusal_iff,
    ofDouble_eq_castDouble x⟩

/-- The least word is reached. The double nearest to the greatest one is beyond it. -/
example : ofDouble (.ofInt (-2 ^ 63)) = .ok ⟨Int64.minValue⟩ ∧
    ofDouble (.ofInt (2 ^ 63 - 1)) = .error (refusal (.ofInt (2 ^ 63 - 1))) := by
  decide +kernel

end Ticks

end ScalarWire
