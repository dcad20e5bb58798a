import ScalarWire.Proofs.Text.Blank
import ScalarWire.Proofs.Text.Letter

/-!
# Texts without digits of other scripts

The decimal digits of a text may all be ASCII digits. Neither its letter case nor the blanks at its
ends matter to that.
-/

namespace ScalarWire.Text

/-- Every decimal digit of the text is an ASCII digit. -/
def AsciiDigits (s : List Char) : Prop :=
  ∀ c ∈ s, isDecimalDigit c → c.isDigit

instance (s : List Char) : Decidable (AsciiDigits s) :=
  List.decidableBAll (fun c => isDecimalDigit c → c.isDigit) s

section

variable {s t : List Char} {c : Char}

theorem asciiDigits_nil : AsciiDigits [] := nofun

theorem asciiDigits_append_iff : AsciiDigits (s ++ t) ↔ AsciiDigits s ∧ AsciiDigits t :=
  List.forall_mem_append

theorem asciiDigits_of_isDigit (h : ∀ c ∈ s, c.isDigit) : AsciiDigits s :=
  fun c hc _ => h c hc

theorem asciiDigits_of_not_decimalDigit (h : ∀ c ∈ s, isDecimalDigit c = false) :
    AsciiDigits s :=
  fun c hc hdigit => absurd hdigit (by simp [h c hc])

theorem asciiDigits_singleton (h : isDecimalDigit c = false) : AsciiDigits [c] :=
  asciiDigits_of_not_decimalDigit (List.forall_mem_singleton.mpr h)

theorem asciiDigits_of_isBlankText (h : isBlankText s) : AsciiDigits s :=
  asciiDigits_of_not_decimalDigit fun c hc =>
    (classes_of_isBlank (List.all_eq_true.mp h c hc)).1

theorem asciiDigits_lower_iff : AsciiDigits (lower s) ↔ AsciiDigits s := by
  simp [AsciiDigits, lower]

/-- Words that differ in letter case have the same digits. -/
theorem asciiDigits_of_lower_eq (h : lower s = lower t) (ht : AsciiDigits t) : AsciiDigits s := by
  rwa [← asciiDigits_lower_iff, h, asciiDigits_lower_iff]

theorem asciiDigits_trim_iff : AsciiDigits (trim s) ↔ AsciiDigits s := by
  obtain ⟨before, behind, hbefore, hbehind, hs⟩ := exists_eq_append_trim s
  conv_rhs => rw [hs, asciiDigits_append_iff, asciiDigits_append_iff]
  exact ⟨fun h => ⟨asciiDigits_of_isBlankText hbefore, h, asciiDigits_of_isBlankText hbehind⟩,
    fun h => h.2.1⟩

end

end ScalarWire.Text
