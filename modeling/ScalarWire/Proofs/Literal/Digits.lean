import Mathlib.Tactic.SplitIfs
import ScalarWire.Literal.Date
import ScalarWire.Proofs.Number.Numeral
import ScalarWire.Proofs.Text.Runs

/-!
# Fields of digits

A field of digits ends at its full width or where something else than a digit stands.
-/

namespace ScalarWire

theorem Text.isDecimalDigit_of_isDigit {c : Char} (hc : c.isDigit) : isDecimalDigit c := by
  have h := (Numeral.isDigit_iff c).mp hc
  rw [isDecimalDigit, if_pos (by omega)]
  exact hc

/-- Within ASCII the decimal digits stand before the letters. -/
theorem Text.toNat_of_isDecimalDigit {c : Char} (hc : isDecimalDigit c) :
    c.toNat < 65 ∨ 128 ≤ c.toNat := by
  rw [isDecimalDigit] at hc
  split_ifs at hc with hascii
  · have hrange := (Numeral.isDigit_iff c).mp hc
    exact Or.inl (by omega)
  · exact Or.inr (Nat.le_of_not_lt hascii)

namespace Literal

open Text

/-- A text that does not go on with a digit. -/
def EndsDigits (rest : List Char) : Prop :=
  ∀ c ∈ rest.head?, isDecimalDigit c = false

theorem endsDigits_nil : EndsDigits [] := nofun

theorem endsDigits_cons {c : Char} {rest : List Char} (h : isDecimalDigit c = false) :
    EndsDigits (c :: rest) := by
  intro c' hc
  rw [List.head?_cons, Option.mem_some_iff] at hc
  rwa [← hc]

instance : (rest : List Char) → Decidable (EndsDigits rest)
  | [] => isTrue endsDigits_nil
  | c :: _ => decidable_of_iff (isDecimalDigit c = false) ⟨endsDigits_cons, fun h => h c rfl⟩

theorem splitDigits_append {n : Nat} {digits rest : List Char}
    (hd : ∀ c ∈ digits, isDecimalDigit c) (hlen : digits.length ≤ n)
    (hend : digits.length < n → EndsDigits rest) :
    splitDigits n (digits ++ rest) = (digits, rest) := by
  have htake : ((digits ++ rest).take n).takeWhile isDecimalDigit = digits := by
    rw [List.take_append, List.take_of_length_le hlen]
    apply takeWhile_append_of_head? hd
    intro c hc
    rcases Nat.lt_or_eq_of_le hlen with hlt | heq
    · apply hend hlt c
      rwa [List.head?_take, if_neg (by omega)] at hc
    · simp [heq] at hc
  rw [splitDigits, htake, List.drop_left]

theorem splitDigitRun_append {digits rest : List Char} (hd : ∀ c ∈ digits, isDecimalDigit c)
    (hend : EndsDigits rest) : splitDigitRun (digits ++ rest) = (digits, rest) := by
  rw [splitDigitRun, takeWhile_append_of_head? hd hend, dropWhile_append_of_head? hd hend]

theorem eq_of_splitDigits {n : Nat} {s digits rest : List Char}
    (h : splitDigits n s = (digits, rest)) :
    s = digits ++ rest ∧ digits.length ≤ n ∧ ∀ c ∈ digits, isDecimalDigit c := by
  obtain ⟨rfl, rfl⟩ := Prod.mk.inj h
  have hprefix :=
    (List.takeWhile_prefix (l := s.take n) isDecimalDigit).trans (List.take_prefix n s)
  refine ⟨(List.prefix_iff_eq_append.mp hprefix).symm, ?_, fun c hc => List.mem_takeWhile_imp hc⟩
  exact (List.takeWhile_prefix _).length_le.trans (List.length_take_le n s)

theorem eq_of_splitDigitRun {s digits rest : List Char} (h : splitDigitRun s = (digits, rest)) :
    s = digits ++ rest ∧ ∀ c ∈ digits, isDecimalDigit c := by
  obtain ⟨rfl, rfl⟩ := Prod.mk.inj h
  exact ⟨List.takeWhile_append_dropWhile.symm, fun c hc => List.mem_takeWhile_imp hc⟩

theorem endsDigits_of_splitDigitRun {s digits rest : List Char}
    (h : splitDigitRun s = (digits, rest)) : EndsDigits rest := by
  obtain ⟨-, rfl⟩ := Prod.mk.inj h
  intro c hc
  have hhead := List.head?_dropWhile_not isDecimalDigit s
  rw [Option.mem_def.mp hc] at hhead
  exact hhead

theorem isDecimalDigit_of_mem_padded {width n : Nat} :
    ∀ c ∈ Numeral.padded width n, isDecimalDigit c :=
  fun c hc => isDecimalDigit_of_isDigit (Numeral.isDigit_of_mem_padded c hc)

theorem splitDigitRun_padded {c : Char} (hc : isDecimalDigit c = false) (width n : Nat)
    (rest : List Char) :
    splitDigitRun (Numeral.padded width n ++ c :: rest) = (Numeral.padded width n, c :: rest) :=
  splitDigitRun_append isDecimalDigit_of_mem_padded (endsDigits_cons hc)

/-- A number of two digits is taken off as a field of its own. -/
theorem splitDigits_padded {n : Nat} (hn : n < 100) (rest : List Char) :
    splitDigits 2 (Numeral.padded 2 n ++ rest) = (Numeral.padded 2 n, rest) := by
  have hlen : (Numeral.padded 2 n).length = 2 := Numeral.length_padded (by decide) hn
  exact splitDigits_append isDecimalDigit_of_mem_padded hlen.le (by omega)

end Literal

end ScalarWire
