import ScalarWire.Calendar.Iso
import ScalarWire.Proofs.Calendar.Date
import ScalarWire.Proofs.Literal.Digits

/-!
# Written dates as literals

The written form of a date has the spelling with the year first, whatever the order of dates is
set to, and its fields name the same day again once the era is known.
-/

namespace ScalarWire.Literal

open Text

theorem yearFirst?_isoFields (d : Date) (rest : List Char) :
    yearFirst? (d.isoFields ++ rest) =
      some ⟨Numeral.padded 4 (eraYear d.year).1, Numeral.padded 2 d.month, Numeral.padded 2 d.day,
        rest⟩ := by
  obtain ⟨-, -, -, hm, -, hlen⟩ := d.valid
  have hday : d.day < 100 := by
    have := monthLength_le d.year d.month
    omega
  have hhyphen : isDecimalDigit '-' = false := by decide
  have hyear := Numeral.le_length_padded 4 (eraYear d.year).1
  simp only [Date.isoFields, List.append_assoc, List.cons_append, yearFirst?,
    splitDigitRun_padded hhyphen,
    splitDigits_padded (show d.month < 100 by omega), splitDigits_padded hday]
  rw [if_pos ⟨hyear, rfl, Numeral.padded_ne_nil _ _, trivial, Numeral.padded_ne_nil _ _⟩]

theorem eraYear_lt (d : Date) : (eraYear d.year).1 < 2 ^ 31 := by
  obtain ⟨hlow, hhigh, -⟩ := d.valid
  rw [eraYear]
  split_ifs
  · change (1 - d.year).toNat < 2 ^ 31
    omega
  · change d.year.toNat < 2 ^ 31
    omega

/-- The written form of a date is read off the front of any text. -/
theorem readDate_isoFields (type : WireType) (order : DateOrder) (d : Date) (rest : List Char) :
    readDate type order (d.isoFields ++ rest) =
      .ok (⟨(eraYear d.year).1, d.month, d.day⟩, rest) := by
  have hyear : readYear? (Numeral.padded 4 (eraYear d.year).1) = some (eraYear d.year).1 := by
    rw [readYear?, Numeral.read?_padded]
    exact if_pos (decide_eq_true (eraYear_lt d))
  simp only [readDate, yearFirst?_isoFields, yearFirstFields?, hyear, Numeral.read?_padded]
  rfl

/-- The fields of a written date name that date. -/
theorem toDate?_isoFields (d : Date) :
    DateFields.toDate? (eraYear d.year).2 ⟨(eraYear d.year).1, d.month, d.day⟩ = some d := by
  rw [DateFields.toDate?]
  by_cases h : d.year ≤ 0
  · have hera : eraYear d.year = ((1 - d.year).toNat, true) := if_pos h
    have hyear : (1 : Int) - (1 - d.year).toNat = d.year := by omega
    simp only [hera, if_true, hyear, Date.ofFields?_self]
    exact if_neg (by omega)
  · have hera : eraYear d.year = (d.year.toNat, false) := if_neg h
    have hyear : (d.year.toNat : Int) = d.year := by omega
    simp only [hera, Bool.false_eq_true, if_false, hyear, Date.ofFields?_self]
    exact if_neg (by omega)

end ScalarWire.Literal
