import Mathlib.Algebra.Order.Floor.Semiring
import Mathlib.Data.Rat.Floor
import Mathlib.Tactic.FieldSimp
import Mathlib.Tactic.Linarith
import Mathlib.Tactic.Ring
import ScalarWire.Proofs.Calendar.Timestamp
import ScalarWire.Proofs.Literal.Joint
import ScalarWire.Proofs.Literal.TimeFields
import ScalarWire.Proofs.Text.AsciiDigit

/-!
# The value of a time literal

A fraction of any length is rounded half up to microseconds, and the rounding is carried over into
the seconds. So the times that are read are those with each field in range that do not go beyond the
midnight that ends the day.
-/

namespace ScalarWire

namespace Literal

open Text

/-- The microseconds nearest to the fraction of a second with these digits, the later ones if two
are equally near. -/
def roundedMicros (digits : List Char) : Nat :=
  ⌊(Numeral.value digits : ℚ) / 10 ^ digits.length * 1000000 + 1 / 2⌋₊

section rounding

variable {kept tail : List Char} {c : Char}

theorem roundedMicros_of_length_le (h : kept.length ≤ 6) :
    roundedMicros kept = Numeral.value kept * 10 ^ (6 - kept.length) := by
  have hpow : (10 : ℚ) ^ kept.length * 10 ^ (6 - kept.length) = 1000000 := by
    rw [← pow_add, Nat.add_sub_cancel' h]
    norm_num
  have hexact : (Numeral.value kept : ℚ) / 10 ^ kept.length * 1000000 =
      (Numeral.value kept * 10 ^ (6 - kept.length) : Nat) := by
    rw [← hpow]
    push_cast
    field_simp
  rw [roundedMicros, hexact, Nat.floor_eq_iff (by positivity)]
  constructor <;> linarith

theorem five_le_iff (hc : c.isDigit) : '5' ≤ c ↔ 5 ≤ Numeral.digitValue c := by
  have hrange := (Numeral.isDigit_iff c).mp hc
  have hfive : '5' ≤ c ↔ 53 ≤ c.toNat := UInt32.le_iff_toNat_le
  rw [hfive, Numeral.digitValue]
  omega

/-- Only the seventh digit of a fraction decides which way it is rounded. -/
theorem roundedMicros_append (hlen : kept.length = 6) (hc : c.isDigit)
    (htail : ∀ d ∈ tail, d.isDigit) :
    roundedMicros (kept ++ c :: tail) = Numeral.value kept + if '5' ≤ c then 1 else 0 := by
  -- The digits behind the seventh make up less than one unit of it.
  set q : ℚ := Numeral.value tail / 10 ^ tail.length with hq
  have hq0 : 0 ≤ q := by positivity
  have hq1 : q < 1 := by
    rw [hq, div_lt_one (by positivity)]
    exact_mod_cast Numeral.value_lt htail
  have hexact : (Numeral.value (kept ++ c :: tail) : ℚ) / 10 ^ (kept ++ c :: tail).length * 1000000 =
      Numeral.value kept + (Numeral.digitValue c + q) / 10 := by
    have hvalue : Numeral.value (kept ++ c :: tail) =
        Numeral.value kept * 10 ^ (tail.length + 1) +
          (Numeral.digitValue c * 10 ^ tail.length + Numeral.value tail) := by
      rw [Numeral.value_append, List.length_cons, ← List.singleton_append, Numeral.value_append]
      simp [Numeral.value, Radix.value]
    rw [hvalue, hq, List.length_append, hlen, List.length_cons, pow_add, pow_add]
    push_cast
    field_simp
    ring
  rw [roundedMicros, hexact, Nat.floor_eq_iff (by positivity)]
  have hdigit : (Numeral.digitValue c : ℚ) ≤ 9 := by
    exact_mod_cast Nat.le_of_lt_succ (Numeral.digitValue_lt hc)
  by_cases hfive : '5' ≤ c
  · have hlow : (5 : ℚ) ≤ Numeral.digitValue c := by
      exact_mod_cast (five_le_iff hc).mp hfive
    rw [if_pos hfive]
    push_cast
    constructor <;> linarith
  · have hhigh : (Numeral.digitValue c : ℚ) ≤ 4 := by
      have hlt := mt (five_le_iff hc).mpr hfive
      exact_mod_cast (by omega : Numeral.digitValue c ≤ 4)
    rw [if_neg hfive, Nat.add_zero]
    constructor <;> linarith

end rounding

theorem fractionMicros_eq {digits : List Char} {outOfRange : CodecError} (hne : digits ≠ [])
    (hdigits : ∀ c ∈ digits, c.isDigit) :
    fractionMicros outOfRange digits = .ok (roundedMicros digits) := by
  have hcut : Utf8.cut? 6 digits = some (digits.take 6, digits.drop 6) := by
    apply cut?_eq_take_drop
    intro c hc
    have hrange := (Numeral.isDigit_iff c).mp (hdigits c hc)
    omega
  have hread : Numeral.read? (digits.take 6) = some (Numeral.value (digits.take 6)) := by
    refine Numeral.read?_eq_some_iff.mpr ⟨by simpa using hne, ?_, rfl⟩
    exact fun c hc => hdigits c (List.mem_of_mem_take hc)
  simp only [fractionMicros, hcut, hread]
  refine congrArg Except.ok ?_
  rcases hdrop : digits.drop 6 with - | ⟨c, tail⟩
  · have hlen : digits.length ≤ 6 := List.drop_eq_nil_iff.mp hdrop
    rw [List.take_of_length_le hlen, roundedMicros_of_length_le hlen]
    rfl
  · have hlen : (digits.take 6).length = 6 := by
      rw [List.length_take]
      have hlt : 6 < digits.length := by
        by_contra hle
        rw [List.drop_of_length_le (not_lt.mp hle)] at hdrop
        cases hdrop
      omega
    have hbehind : ∀ d ∈ c :: tail, d.isDigit := by
      intro d hd
      rw [← hdrop] at hd
      exact hdigits d (List.mem_of_mem_drop hd)
    have happend : digits = digits.take 6 ++ c :: tail := by
      rw [← hdrop, List.take_append_drop]
    rw [hlen]
    conv_rhs => rw [happend]
    rw [roundedMicros_append hlen (hbehind c List.mem_cons_self)
      fun d hd => hbehind d (List.mem_cons_of_mem c hd), Nat.sub_self, pow_zero, Nat.mul_one]

theorem IsDigitPair.readField_eq {digits : List Char} (outOfRange : CodecError)
    (h : IsDigitPair digits) (hdigits : AsciiDigits digits) :
    readField outOfRange digits = .ok (Numeral.value digits) := by
  refine (readField_eq_ok_iff _).mpr (Numeral.read?_eq_some_iff.mpr ⟨h.1, ?_, rfl⟩)
  exact fun c hc => hdigits c hc (h.2.2 c hc)

theorem SpellsSeconds.readOptional_eq {second? fraction? : Option (List Char)} {text : List Char}
    (outOfRange : CodecError) (h : SpellsSeconds second? fraction? text)
    (htext : AsciiDigits text) :
    readOptional (readField outOfRange) second? = .ok (second?.elim 0 Numeral.value) ∧
      readOptional (fractionMicros outOfRange) fraction? =
        .ok (fraction?.elim 0 roundedMicros) := by
  cases h with
  | none => exact ⟨rfl, rfl⟩
  | whole hpair =>
      exact ⟨hpair.readField_eq outOfRange fun c hc => htext c (List.mem_cons_of_mem _ hc), rfl⟩
  | pointed hpair hmark hne hfraction =>
      refine ⟨hpair.readField_eq outOfRange fun c hc => htext c (by simp [hc]), ?_⟩
      exact fractionMicros_eq hne fun c hc => htext c (by simp [hc]) (hfraction c hc)

/-- The hour of the day that a clock of twelve shows, or the hour itself without a meridiem. -/
def dayHour (hour : Nat) : Option Meridiem → Nat
  | none => hour
  | some .am => if hour = 12 then 0 else hour
  | some .pm => if hour = 12 then 12 else hour + 12

namespace TimeText

/-- The microseconds since midnight that the fields stand for. -/
def total (t : TimeText) : Nat :=
  ((dayHour (Numeral.value t.hour) t.meridiem? * 60 + Numeral.value t.minute) * 60 +
      t.second?.elim 0 Numeral.value) * 1000000 + t.fraction?.elim 0 roundedMicros

/-- Fields that stand for a time no later than the midnight that ends the day. -/
structure IsInRange (t : TimeText) : Prop where
  hour_mem : t.meridiem? ≠ none → 1 ≤ Numeral.value t.hour ∧ Numeral.value t.hour ≤ 12
  minute_le : Numeral.value t.minute ≤ 59
  second_le : t.second?.elim 0 Numeral.value ≤ 59
  total_le : t.total ≤ microsPerDay

variable {s : List Char} {t : TimeText} {outOfRange : CodecError} {n : Nat}

theorem clockHour?_eq_some_iff {hour found : Nat} {meridiem? : Option Meridiem} :
    clockHour? hour meridiem? = some found ↔
      (meridiem? ≠ none → 1 ≤ hour ∧ hour ≤ 12) ∧ dayHour hour meridiem? = found := by
  cases meridiem? with
  | none => simp [clockHour?, dayHour]
  | some meridiem =>
      simp only [clockHour?, Option.ite_none_right_eq_some, Option.some.injEq, ne_eq, reduceCtorEq,
        not_false_eq_true, true_implies]
      refine and_congr_right fun hhour => ?_
      cases meridiem <;> simp only [dayHour] <;> split_ifs <;> omega

theorem totalMicros_eq_ok_iff {hour minute second fraction : Nat} {meridiem? : Option Meridiem} :
    totalMicros outOfRange hour minute second fraction meridiem? = .ok n ↔
      (meridiem? ≠ none → 1 ≤ hour ∧ hour ≤ 12) ∧ minute ≤ 59 ∧ second ≤ 59 ∧ n ≤ microsPerDay ∧
        ((dayHour hour meridiem? * 60 + minute) * 60 + second) * 1000000 + fraction = n := by
  unfold totalMicros
  cases hhour : clockHour? hour meridiem? with
  | none =>
      refine ⟨fun h => (nomatch h), fun h => ?_⟩
      rw [clockHour?_eq_some_iff.mpr ⟨h.1, rfl⟩] at hhour
      cases hhour
  | some found =>
      obtain ⟨hmem, rfl⟩ := clockHour?_eq_some_iff.mp hhour
      dsimp only
      split_ifs with hlimits
      · refine ⟨fun h => (nomatch h), fun h => ?_⟩
        omega
      · rw [pure_eq_ok_iff]
        refine ⟨?_, fun h => h.2.2.2.2⟩
        rintro rfl
        exact ⟨hmem, by omega, by omega, by omega, rfl⟩

theorem micros_eq_ok_iff (hspells : t.Spells s) (hascii : AsciiDigits s) :
    t.micros outOfRange = .ok n ↔ t.IsInRange ∧ t.total = n := by
  obtain ⟨hhour, hminute, seconds, meridiem, rfl, hseconds, -⟩ := hspells
  obtain ⟨hsecond, hfraction⟩ :=
    hseconds.readOptional_eq outOfRange fun c hc => hascii c (by simp [hc])
  rw [micros_eq, bind_eq_of_ok (hhour.readField_eq outOfRange fun c hc => hascii c (by simp [hc])),
    bind_eq_of_ok (hminute.readField_eq outOfRange fun c hc => hascii c (by simp [hc])),
    bind_eq_of_ok hsecond, bind_eq_of_ok hfraction, totalMicros_eq_ok_iff]
  constructor
  · rintro ⟨hmem, hminute, hsecond, htotal, rfl⟩
    exact ⟨⟨hmem, hminute, hsecond, htotal⟩, rfl⟩
  · rintro ⟨⟨hmem, hminute, hsecond, htotal⟩, rfl⟩
    exact ⟨hmem, hminute, hsecond, htotal, rfl⟩

end TimeText

end Literal

open Literal

namespace TimeOfDay

/-- Provided that all its decimal digits are ASCII digits, a text is read as a time exactly if its
trimmed form is spelled by fields in range, and then as the time that they stand for. -/
theorem ofText_eq_ok_iff_spells {s : List Char} {t : TimeOfDay}
    (hascii : Text.AsciiDigits s) :
    ofText s = .ok t ↔ ∃ fields : TimeText, fields.rest = [] ∧ fields.Spells (Text.trim s) ∧
      fields.IsInRange ∧ t.IsWhole ∧ t.micros = fields.total % microsPerDay := by
  have htrim : Text.AsciiDigits (Text.trim s) := Text.asciiDigits_trim_iff.mpr hascii
  rw [ofText_eq_ok_iff]
  constructor
  · rintro ⟨micros, rest, hread, hrest, rfl⟩
    obtain ⟨fields, hfields, hmicros, rfl⟩ := readTime_eq_ok_iff.mp hread
    have hspells := spells_of_timeText? hfields
    obtain ⟨hrange, rfl⟩ := (TimeText.micros_eq_ok_iff hspells htrim).mp hmicros
    have hnil : fields.rest = [] := by
      obtain ⟨front, c, htext, -⟩ := takesTime_of_timeText? hfields
      rw [List.append_cons] at htext
      exact eq_nil_of_isBlankText (Text.last_trim s) htext hrest
    refine ⟨fields, hnil, hspells, hrange, isWhole_wrapMicros _, ?_⟩
    have hwrap := micros_wrapMicros fields.total
    rw [microsPerDay]
    omega
  · rintro ⟨fields, hnil, hspells, hrange, hwhole, hmicros⟩
    refine ⟨fields.total, [], readTime_eq_ok_iff.mpr ⟨fields, ?_, ?_, hnil⟩, rfl, ?_⟩
    · exact (timeText?_eq_some_iff hnil).mpr hspells
    · exact (TimeText.micros_eq_ok_iff hspells htrim).mpr ⟨hrange, rfl⟩
    · have hwrap := micros_wrapMicros fields.total
      rw [microsPerDay] at hmicros
      have heq : t.micros = (wrapMicros fields.total).micros := by omega
      rw [← wrapMicros_micros hwhole, heq, wrapMicros_micros (isWhole_wrapMicros _)]

/-- The last instants of the morning, nearer to noon than to the microsecond before it. -/
theorem ofText_last_tick :
    let s := " 11:59:59,9999995 aM".toList
    Text.AsciiDigits s ∧ ofText s = .ok ⟨43200, 0, by decide, by decide⟩ := by
  intro s
  have hascii : Text.AsciiDigits s := by decide
  have hpair : IsDigitPair "59".toList := ⟨by decide, by decide, List.all_eq_true.mp rfl⟩
  have hround : roundedMicros "9999995".toList = 1000000 :=
    @roundedMicros_append "999999".toList [] '5' rfl rfl nofun
  let fields : TimeText :=
    ⟨"11".toList, "59".toList, some "59".toList, some "9999995".toList, some .am, []⟩
  have htotal : fields.total = 43200000000 := by
    rw [TimeText.total]
    exact congrArg (((11 * 60 + 59) * 60 + 59) * 1000000 + ·) hround
  have hspells : fields.Spells (Text.trim s) :=
    ⟨⟨by decide, by decide, List.all_eq_true.mp rfl⟩, hpair, ":59,9999995".toList, " aM".toList,
      by decide, .pointed hpair (Or.inr rfl) (by decide) (List.all_eq_true.mp rfl),
      @SpellsMeridiem.some .am " ".toList "aM".toList (by decide) (by decide)⟩
  have hrange : fields.IsInRange :=
    ⟨fun _ => by decide, by decide, by decide, htotal ▸ by decide⟩
  refine ⟨hascii, (ofText_eq_ok_iff_spells hascii).mpr ⟨fields, rfl, hspells, hrange, ?_, ?_⟩⟩
  · exact ⟨by decide, by decide⟩
  · rw [htotal]
    rfl

end TimeOfDay

end ScalarWire
