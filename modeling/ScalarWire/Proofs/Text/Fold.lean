import ScalarWire.Proofs.Error
import ScalarWire.Proofs.Text.Blank
import ScalarWire.Proofs.Text.Letter

/-!
# Readers that fold letter case

Trimming and writing in lower case go together in any order. A reader that gives the same values
before and after each of them cannot tell apart texts that differ in letter case and in blanks
around them.
-/

namespace ScalarWire

namespace Text

variable (s : List Char)

theorem trimStart_lower : trimStart (lower s) = lower (trimStart s) :=
  dropWhile_lower s isBlank_toLower

theorem trimEnd_lower : trimEnd (lower s) = lower (trimEnd s) := by
  rw [trimEnd, lower_reverse, dropWhile_lower s.reverse isBlank_toLower, lower_reverse, trimEnd]

theorem trim_lower : trim (lower s) = lower (trim s) := by
  rw [trim, trimStart_lower, trimEnd_lower, trim]

theorem trim_trim : trim (trim s) = trim s :=
  trim_eq_self (head_trim s) (last_trim s)

theorem isBlankText_lower : isBlankText (lower s) = isBlankText s :=
  all_lower s isBlank_toLower

end Text

open Text

/-- A reader that takes no notice of letter case, nor of blanks around a text. -/
structure IgnoresCase {ε α : Type} (read : List Char → Except ε α) : Prop where
  trim : ∀ s a, read (trim s) = .ok a ↔ read s = .ok a
  lower : ∀ s a, read (lower s) = .ok a ↔ read s = .ok a

namespace IgnoresCase

variable {ε α β : Type} {read : List Char → Except ε α}

/-- Texts that differ in letter case and in blanks around them are read alike. -/
theorem congr (h : IgnoresCase read) {s t : List Char} (hst : sameFold (Text.trim s) (Text.trim t))
    (a : α) : read s = .ok a ↔ read t = .ok a := by
  have hlower : Text.lower (Text.trim s) = Text.lower (Text.trim t) := beq_iff_eq.mp hst
  rw [← h.trim s, ← h.lower (Text.trim s), hlower, h.lower, h.trim]

theorem bind_pure (h : IgnoresCase read) (g : α → β) :
    IgnoresCase fun s => read s >>= fun a => pure (g a) := by
  constructor
  · intro s b
    simp only [bind_pure_eq_ok_iff, h.trim]
  · intro s b
    simp only [bind_pure_eq_ok_iff, h.lower]

theorem lift {read : List Char → Except CodecError α} (h : IgnoresCase read) :
    IgnoresCase fun s => (liftM (read s) : Except Failure α) := by
  constructor
  · intro s a
    simp only [lift_eq_ok_iff, h.trim]
  · intro s a
    simp only [lift_eq_ok_iff, h.lower]

/-- It is enough that what is read depends on what can be seen of a text after trimming, in any
letter case. -/
theorem of_sees {γ : Type} (sees : List Char → γ) (hlower : ∀ s, sees (Text.lower s) = sees s)
    (hread : ∀ s t, sees (Text.trim s) = sees (Text.trim t) →
      ∀ a, read s = .ok a → read t = .ok a) : IgnoresCase read := by
  have hcongr : ∀ s t, sees (Text.trim s) = sees (Text.trim t) →
      ∀ a, read s = .ok a ↔ read t = .ok a :=
    fun s t h a => ⟨hread s t h a, hread t s h.symm a⟩
  constructor
  · intro s a
    exact hcongr _ _ (by rw [trim_trim]) a
  · intro s a
    exact hcongr _ _ (by rw [trim_lower, hlower]) a

end IgnoresCase

end ScalarWire
