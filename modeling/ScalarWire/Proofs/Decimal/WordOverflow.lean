import ScalarWire.Proofs.Decimal.Exact
import ScalarWire.Proofs.Number.Quotient

/-!
# Where the limit check leaves its words

The limit check on a literal reckons with signed 64-bit words, and the exponent of a literal may be
as large as such a word. All goes well while the count of the digits before the point is less than
`2 ^ 63 - 3`: every number with more than 131068 of them is out of range then. From there on the
count itself or its rounding to groups wraps round, and the check lets everything through. A zero is
read, and any other number asks for more zeros than there is memory for.
-/

namespace ScalarWire

/-- A number that a signed 64-bit word holds. -/
def InWord (z : Int) : Prop :=
  -2 ^ 63 ≤ z ∧ z < 2 ^ 63

instance (z : Int) : Decidable (InWord z) :=
  inferInstanceAs (Decidable (_ ∧ _))

namespace Decimal

variable {l : DecimalLiteral}

/-- All that the limit check on a literal reckons fits a word. Where the scale alone exceeds its
limit, no groups are counted. -/
structure CheckInWords (l : DecimalLiteral) : Prop where
  integerDigits : InWord (digitCount l.digits - l.scale)
  integerRounded : l.scale ≤ maxScale → InWord (max (digitCount l.digits - l.scale) 0 + 3)
  scaleRounded : l.scale ≤ maxScale → InWord (max l.scale 0 + 3)
  sum : l.scale ≤ maxScale →
    InWord ((max (digitCount l.digits - l.scale) 0 + 3) / 4 + (max l.scale 0 + 3) / 4)

theorem digitCount_le (digits : List Char) : digitCount digits ≤ max 1 digits.length := by
  have hle := (List.dropWhile_sublist (· == '0') (l := digits)).length_le
  rw [digitCount]
  omega

theorem checkInWords_iff (hlow : -2 ^ 63 ≤ l.scale) (hhigh : l.scale < 2 ^ 63)
    (hcount : digitCount l.digits < 2 ^ 63) :
    CheckInWords l ↔ (digitCount l.digits : Int) - l.scale < 2 ^ 63 - 3 := by
  constructor
  · intro h
    by_cases hscale : l.scale ≤ maxScale
    · have hrounded := (h.integerRounded hscale).2
      omega
    · rw [maxScale] at hscale
      omega
  · intro h
    constructor
    · unfold InWord
      omega
    all_goals
      intro hscale
      rw [maxScale] at hscale
      unfold InWord
      omega

/-- A number has more than `k` digits before the point exactly if it is at least ten to the `k`. -/
theorem pow_le_abs_toRat_iff (hdigits : ∀ c ∈ l.digits, c.isDigit) (h0 : l.unscaled ≠ 0)
    (k : Nat) : 10 ^ k ≤ |l.toRat| ↔ (k : Int) < digitCount l.digits - l.scale := by
  have hne : l.unscaled.natAbs ≠ 0 := Int.natAbs_ne_zero.mpr h0
  have hpos : (0 : ℚ) < 10 ^ (-l.scale) := zpow_pos (by norm_num) _
  have habs : |l.toRat| = l.unscaled.natAbs * 10 ^ (-l.scale) := by
    rw [← toRat_ofLiteral, ofLiteral, toRat_mk, abs_mul, abs_of_pos hpos, Nat.cast_natAbs,
      Int.cast_abs]
  have hshift : (10 : ℚ) ^ k = 10 ^ (k + l.scale) * 10 ^ (-l.scale) := by
    rw [← zpow_natCast, ← zpow_add₀ (by norm_num)]
    congr 1
    omega
  rw [habs, hshift, mul_le_mul_iff_left₀ hpos, Numeral.zpow_le_iff hne,
    digitCount_eq hdigits]
  omega

theorem unscaled_ne_zero_of_pow_le {k : Nat} (h : 10 ^ k ≤ |l.toRat|) : l.unscaled ≠ 0 := by
  have hpos : 0 < |l.toRat| := lt_of_lt_of_le (pow_pos (by norm_num) k) h
  rw [abs_pos, ← toRat_ofLiteral] at hpos
  intro h0
  exact hpos (toRat_eq_zero_iff.mpr (show (ofLiteral l).unscaled = 0 from h0))

/-- A literal is out of range exactly if it does not pass the check. -/
theorem ofText_of_spells {s : List Char} (hl : l.Spells (Text.trim s)) (hlow : -2 ^ 63 ≤ l.scale)
    (hhigh : l.scale < 2 ^ 63) :
    ofText s =
      if exceedsLimits l then
        .error (.rejected (.outOfRange .numeric (abbreviate (Text.trim s))))
      else if l.unscaled ≠ 0 ∧ l.scale < -maxZeros then .error .aborted
      else .ok (ofLiteral l).expand := by
  have hrange : ¬(l.scale < -0x8000000000000000 ∨ 0x8000000000000000 ≤ l.scale) := by omega
  simp only [ofText, isSpecial_of_spells hl, DecimalLiteral.read?_eq_some_iff.mpr hl,
    if_neg hrange]
  rfl

/-- Within its words the check counts the groups exactly. -/
theorem CheckInWords.toInt_groupBound (h : CheckInWords l) (hlow : -2 ^ 63 ≤ l.scale)
    (hscale : l.scale ≤ maxScale) :
    (groupBound (Int64.ofNat (digitCount l.digits) - Int64.ofInt l.scale)
      (Int64.ofInt l.scale)).toInt =
        (max (digitCount l.digits - l.scale) 0 + 3) / 4 + (max l.scale 0 + 3) / 4 := by
  obtain ⟨hcount, hrounded, -, hsum⟩ := h
  have hrounded := (hrounded hscale).2
  have hsum := hsum hscale
  unfold InWord at hcount hsum
  rw [maxScale] at hscale
  have hword : wordDigits l = digitCount l.digits - l.scale :=
    Int.bmod_eq_of_le (by omega) (by omega)
  have hdigits := toInt_integerDigits hlow (show l.scale < 2 ^ 63 by omega)
  have hs : (Int64.ofInt l.scale).toInt = l.scale := Int64.toInt_ofInt_of_le hlow (by omega)
  rw [hword] at hdigits
  have hleft := toInt_words (a := Int64.ofNat (digitCount l.digits) - Int64.ofInt l.scale)
    (by omega)
  have hright := toInt_words (a := Int64.ofInt l.scale) (by omega)
  rw [groupBound, Int64.toInt_add, hleft, hright, hdigits, hs]
  exact Int.bmod_eq_of_le (by omega) (by omega)

/-- Within its words the check finds every number that has too many digits before the point. -/
theorem CheckInWords.exceedsLimits (h : CheckInWords l) (hlow : -2 ^ 63 ≤ l.scale)
    (hlarge : 131068 < (digitCount l.digits : Int) - l.scale) : exceedsLimits l = true := by
  rw [Decimal.exceedsLimits, Bool.or_eq_true, decide_eq_true_eq, decide_eq_true_eq]
  by_cases hscale : l.scale ≤ maxScale
  · right
    rw [h.toInt_groupBound hlow hscale, maxGroups]
    omega
  · left
    omega

/-- Beyond its words the check finds nothing. -/
theorem exceedsLimits_of_not_checkInWords (hlow : -2 ^ 63 ≤ l.scale) (hhigh : l.scale < 2 ^ 63)
    (hcount : digitCount l.digits < 2 ^ 63) (hcheck : ¬CheckInWords l) :
    exceedsLimits l = false := by
  rw [checkInWords_iff hlow hhigh hcount, not_lt] at hcheck
  rw [exceedsLimits_eq_false_iff hlow hhigh]
  refine ⟨by omega, ?_⟩
  by_cases hwrap : (digitCount l.digits : Int) - l.scale < 2 ^ 63
  · have hword : wordDigits l = digitCount l.digits - l.scale :=
      Int.bmod_eq_of_le (by omega) (by omega)
    exact Or.inl (by omega)
  · have hword : wordDigits l = digitCount l.digits - l.scale - 2 ^ 64 := by
      rw [wordDigits, ← Int.sub_bmod_right]
      exact Int.bmod_eq_of_le (by omega) (by omega)
    exact Or.inr (by omega)

theorem ofText_of_not_checkInWords {s : List Char} (hl : l.Spells (Text.trim s))
    (hlow : -2 ^ 63 ≤ l.scale) (hhigh : l.scale < 2 ^ 63) (hcount : digitCount l.digits < 2 ^ 63)
    (hcheck : ¬CheckInWords l) :
    ofText s = if l.unscaled ≠ 0 ∧ l.scale < -maxZeros then .error .aborted
      else .ok (ofLiteral l).expand := by
  rw [ofText_of_spells hl hlow hhigh, exceedsLimits_of_not_checkInWords hlow hhigh hcount hcheck]
  rfl

/-- The check on a literal stays within its words exactly if the count of the digits before the
point can be rounded up. A number with more than 131068 of them is out of range exactly then. From
there on no literal is out of range: a number whose zeros fit no memory ends for good, and all else
is read. No text is so long that its own digits cannot be counted. -/
theorem checkInWords_iff_and_ofText {s : List Char} (hl : l.Spells (Text.trim s))
    (hlow : -2 ^ 63 ≤ l.scale) (hhigh : l.scale < 2 ^ 63) (hlen : l.digits.length < 2 ^ 63) :
    (CheckInWords l ↔ (digitCount l.digits : Int) - l.scale < 2 ^ 63 - 3) ∧
      (10 ^ 131068 ≤ |l.toRat| →
        (ofText s = .error (.rejected (.outOfRange .numeric (abbreviate (Text.trim s)))) ↔
          CheckInWords l)) ∧
      (¬CheckInWords l →
        ofText s = if l.unscaled ≠ 0 ∧ l.scale < -maxZeros then .error .aborted
          else .ok (ofLiteral l).expand) := by
  have hcount : digitCount l.digits < 2 ^ 63 := by
    have := digitCount_le l.digits
    omega
  have hbeyond := ofText_of_not_checkInWords hl hlow hhigh hcount
  refine ⟨checkInWords_iff hlow hhigh hcount, fun hlarge => ?_, hbeyond⟩
  constructor
  · intro hrange
    by_contra hcheck
    rw [hbeyond hcheck] at hrange
    split_ifs at hrange
    cases hrange
  · intro hcheck
    have h0 := unscaled_ne_zero_of_pow_le hlarge
    have hdigits := (pow_le_abs_toRat_iff hl.isDigit_of_mem_digits h0 131068).mp hlarge
    rw [ofText_of_spells hl hlow hhigh,
      if_pos (hcheck.exceedsLimits hlow hdigits)]

/-- The smallest power of ten that is out of range. -/
theorem checkInWords_iff_and_ofText_least :
    let l : DecimalLiteral := ⟨false, ['1'], [], false, "131068".toList⟩
    l.Spells (Text.trim "1e131068".toList) ∧ -2 ^ 63 ≤ l.scale ∧ l.scale < 2 ^ 63 ∧
      l.digits.length < 2 ^ 63 ∧ 10 ^ 131068 ≤ |l.toRat| ∧ CheckInWords l ∧
      ofText "1e131068".toList = .error (.rejected (.outOfRange .numeric "1e131068")) := by
  intro l
  have hl : l.Spells (Text.trim "1e131068".toList) :=
    DecimalLiteral.read?_eq_some_iff.mp (by decide)
  have hlow : -2 ^ 63 ≤ l.scale := by decide
  have hhigh : l.scale < 2 ^ 63 := by decide
  have hlen : l.digits.length < 2 ^ 63 := by decide
  have hlarge : 10 ^ 131068 ≤ |l.toRat| :=
    (pow_le_abs_toRat_iff hl.isDigit_of_mem_digits (by decide) 131068).mpr (by decide)
  obtain ⟨hwords, hrange, -⟩ := checkInWords_iff_and_ofText hl hlow hhigh hlen
  have hcheck : CheckInWords l := hwords.mpr (by decide)
  exact ⟨hl, hlow, hhigh, hlen, hlarge, hcheck, (hrange hlarge).mpr hcheck⟩

/-- With an exponent that takes the count out of its word zero is read, and one ends for good. -/
theorem exists_not_checkInWords :
    (∃ l : DecimalLiteral, l.Spells "0e9223372036854775804".toList ∧ InWord l.scale ∧
      ¬CheckInWords l ∧ ofText "0e9223372036854775804".toList = .ok ⟨0, 0⟩) ∧
    ∃ l : DecimalLiteral, l.Spells "1e9223372036854775804".toList ∧ InWord l.scale ∧
      ¬CheckInWords l ∧ 10 ^ 131068 ≤ |l.toRat| ∧
        ofText "1e9223372036854775804".toList = .error .aborted := by
  have hzero : DecimalLiteral.Spells ⟨false, ['0'], [], false, "9223372036854775804".toList⟩
      "0e9223372036854775804".toList :=
    DecimalLiteral.read?_eq_some_iff.mp (by decide)
  have hone : DecimalLiteral.Spells ⟨false, ['1'], [], false, "9223372036854775804".toList⟩
      "1e9223372036854775804".toList :=
    DecimalLiteral.read?_eq_some_iff.mp (by decide)
  refine ⟨⟨_, hzero, by decide, ?_, ?_⟩, ⟨_, hone, by decide, ?_, ?_, ?_⟩⟩
  · exact (checkInWords_iff (by decide) (by decide) (by decide)).not.mpr (by decide)
  · decide +kernel
  · exact (checkInWords_iff (by decide) (by decide) (by decide)).not.mpr (by decide)
  · exact (pow_le_abs_toRat_iff hone.isDigit_of_mem_digits (by decide) 131068).mpr (by decide)
  · decide +kernel

end Decimal

end ScalarWire
