import ScalarWire.Proofs.Number.Literal
import ScalarWire.Proofs.Text.Letter

/-!
# Numbers in any letter case

Signs, digits and points have no case, and the mark of an exponent is read in either case. So a
number is the same number in lower case.
-/

namespace ScalarWire

open Text

/-- Digits are their own lower case. -/
theorem lower_of_isDigit {s : List Char} (h : ∀ c ∈ s, c.isDigit) : lower s = s := by
  apply lower_eq_self
  intro c hc
  have hrange := (Numeral.isDigit_iff c).mp (h c hc)
  exact toLower_of_lt (by omega)

namespace Numeral

variable (s : List Char)

theorem read?_lower : read? (lower s) = read? s := by
  simp only [read?, ne_eq, lower_eq_nil_iff, all_lower s isDigit_toLower]
  split_ifs with h
  · rw [lower_of_isDigit (List.all_eq_true.mp h.2)]
  · rfl

theorem splitSign_lower : splitSign (lower s) = ((splitSign s).1, lower (splitSign s).2) := by
  cases s with
  | nil => rfl
  | cons c s =>
      by_cases hminus : c = '-'
      · subst hminus
        rfl
      by_cases hplus : c = '+'
      · subst hplus
        rfl
      have hminus' : c.toLower ≠ '-' := mt (toLower_eq_iff (by decide)).mp hminus
      have hplus' : c.toLower ≠ '+' := mt (toLower_eq_iff (by decide)).mp hplus
      simp [lower_cons, splitSign, hminus, hplus, hminus', hplus']

theorem readSigned?_lower : readSigned? (lower s) = readSigned? s := by
  simp only [readSigned?, splitSign_lower, read?_lower]

end Numeral

namespace DecimalLiteral

variable (s : List Char)

theorem splitDigits_lower :
    splitDigits (lower s) = ((splitDigits s).1, lower (splitDigits s).2) := by
  rw [splitDigits, takeWhile_lower s isDigit_toLower, dropWhile_lower s isDigit_toLower,
    lower_of_isDigit fun c hc => List.mem_takeWhile_imp hc]
  rfl

theorem splitExponent?_lower : splitExponent? (lower s) = splitExponent? s := by
  cases s with
  | nil => rfl
  | cons c s =>
      have hmark : (c.toLower = 'e' ∨ c.toLower = 'E') ↔ (c = 'e' ∨ c = 'E') := by
        have h := apply_toLower (fun c => decide (c = 'e' ∨ c = 'E')) (by decide) c
        exact decide_eq_decide.mp h
      simp only [lower_cons, splitExponent?, Numeral.splitSign_lower, ne_eq, lower_eq_nil_iff,
        all_lower _ isDigit_toLower, hmark]
      split_ifs with h
      · rw [lower_of_isDigit (List.all_eq_true.mp h.2.2)]
      · rfl

theorem splitFraction_lower :
    splitFraction (lower s) = ((splitFraction s).1, lower (splitFraction s).2) := by
  cases s with
  | nil => rfl
  | cons c s =>
      by_cases hpoint : c = '.'
      · subst hpoint
        exact splitDigits_lower s
      · have hpoint' : c.toLower ≠ '.' := mt (toLower_eq_iff (by decide)).mp hpoint
        simp [lower_cons, splitFraction, hpoint, hpoint']

theorem read?_lower : read? (lower s) = read? s := by
  simp only [read?_eq, Numeral.splitSign_lower, splitDigits_lower, splitFraction_lower,
    splitExponent?_lower]

end DecimalLiteral

end ScalarWire
