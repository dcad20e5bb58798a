import Mathlib.Data.List.Basic
import ScalarWire.Proofs.Text.Runs
import ScalarWire.Text.Blank
import ScalarWire.Text.Digit
import ScalarWire.Text.Letter
import ScalarWire.Text.Word

/-!
# Blanks at the ends of a text

No visible ASCII character is blank, and no blank belongs to a number, a name or a word. Trimming
takes the blanks off both ends of a text and leaves the rest alone.
-/

namespace ScalarWire.Text

theorem isBlank_of_visible {c : Char} (hlow : 33 ≤ c.toNat) (hhigh : c.toNat ≤ 126) :
    isBlank c = false := by
  simp only [isBlank, Bool.or_eq_false_iff, Bool.and_eq_false_iff, decide_eq_false_iff_not,
    beq_eq_false_iff_ne]
  omega

theorem isBlank_of_isDigit {c : Char} (hc : c.isDigit) : isBlank c = false := by
  have h := Char.isDigit_iff_toNat.mp hc
  exact isBlank_of_visible (by have : '0'.toNat = 48 := rfl; omega)
    (by have : '9'.toNat = 57 := rfl; omega)

def blankCodes : List Nat :=
  [9, 10, 11, 12, 13, 0x20, 0x85, 0xA0, 0x1680, 0x2000, 0x2001, 0x2002, 0x2003, 0x2004, 0x2005,
    0x2006, 0x2007, 0x2008, 0x2009, 0x200A, 0x2028, 0x2029, 0x202F, 0x205F, 0x3000]

theorem toNat_mem_blankCodes {c : Char} (h : isBlank c) : c.toNat ∈ blankCodes := by
  simp only [isBlank, Bool.or_eq_true, Bool.and_eq_true, decide_eq_true_eq, beq_iff_eq] at h
  simp only [blankCodes, List.mem_cons, List.not_mem_nil, or_false]
  omega

/-- What holds of each of the twenty-five blanks holds of every blank. -/
theorem forall_isBlank {p : Char → Bool} (h : ∀ n ∈ blankCodes, p (Char.ofNat n)) {c : Char}
    (hc : isBlank c) : p c :=
  c.ofNat_toNat ▸ h c.toNat (toNat_mem_blankCodes hc)

theorem classes_of_isBlank {c : Char} (h : isBlank c) :
    isDecimalDigit c = false ∧ foldsToLetter c = false ∧ isWordChar c = false := by
  have hclasses : !isDecimalDigit c && !foldsToLetter c && !isWordChar c :=
    forall_isBlank (p := fun c => !isDecimalDigit c && !foldsToLetter c && !isWordChar c)
      (by decide +kernel) h
  simpa only [Bool.and_eq_true, Bool.not_eq_true', and_assoc] using hclasses

theorem isBlank_of_isDecimalDigit {c : Char} (h : isDecimalDigit c) : isBlank c = false := by
  by_contra hblank
  rw [(classes_of_isBlank (eq_true_of_ne_false hblank)).1] at h
  exact Bool.false_ne_true h

/-- A text that is empty or starts with a blank, so that it goes on with nothing that precedes
it. -/
def StartsBlank (s : List Char) : Prop :=
  ∀ c ∈ s.head?, isBlank c

theorem startsBlank_nil : StartsBlank [] := nofun

namespace StartsBlank

variable {s w : List Char}

theorem not_decimalDigit (h : StartsBlank w) : ∀ c ∈ w.head?, isDecimalDigit c = false :=
  fun c hc => (classes_of_isBlank (h c hc)).1

theorem endsWord_append (h : StartsBlank w) : endsWord (s ++ w) = endsWord s := by
  cases s with
  | cons c s => rfl
  | nil =>
      cases w with
      | nil => rfl
      | cons c w =>
          have hc := (classes_of_isBlank (h c rfl)).2.2
          change (!isWordChar c) = true
          rw [hc]
          rfl

theorem ne_of_head {c d : Char} (h : StartsBlank (c :: w)) (hd : isBlank d = false) : c ≠ d := by
  rintro rfl
  exact absurd (h c rfl) (by simp [hd])

end StartsBlank

theorem trimStart_eq_self {s : List Char} (h : ∀ c ∈ s.head?, isBlank c = false) :
    trimStart s = s :=
  dropWhile_of_head? h

theorem trimEnd_eq_self {s : List Char} (h : ∀ c ∈ s.getLast?, isBlank c = false) :
    trimEnd s = s := by
  have hrev : trimStart s.reverse = s.reverse :=
    trimStart_eq_self (by rwa [List.head?_reverse])
  rw [trimEnd, ← trimStart, hrev, List.reverse_reverse]

theorem trim_eq_self {s : List Char} (hhead : ∀ c ∈ s.head?, isBlank c = false)
    (hlast : ∀ c ∈ s.getLast?, isBlank c = false) : trim s = s := by
  rw [trim, trimStart_eq_self hhead, trimEnd_eq_self hlast]

/-- Blanks at the end go, and what is before them stays. -/
theorem trimEnd_append {s blanks : List Char} (hlast : ∀ c ∈ s.getLast?, isBlank c = false)
    (hblanks : ∀ c ∈ blanks, isBlank c) : trimEnd (s ++ blanks) = s := by
  rw [trimEnd, List.reverse_append, List.dropWhile_append_of_pos (by simpa using hblanks),
    ← trimEnd, trimEnd_eq_self hlast]

theorem trimStart_append {s t : List Char} (h : trimStart s ≠ []) :
    trimStart (s ++ t) = trimStart s ++ t :=
  dropWhile_append_of_ne_nil h

theorem trimStart_append_of_blank {s : List Char} (hs : isBlankText s) (t : List Char) :
    trimStart (s ++ t) = trimStart t :=
  List.dropWhile_append_of_pos (List.all_eq_true.mp hs)

theorem trimStart_eq_nil_iff {s : List Char} : trimStart s = [] ↔ isBlankText s := by
  rw [trimStart, List.dropWhile_eq_nil_iff, isBlankText, List.all_eq_true]

theorem head_trimStart (s : List Char) : ∀ c ∈ (trimStart s).head?, isBlank c = false := by
  intro c hc
  have h := List.head?_dropWhile_not isBlank s
  rw [← trimStart, Option.mem_def.mp hc] at h
  exact h

theorem exists_eq_append_trimStart (s : List Char) :
    ∃ blanks, isBlankText blanks ∧ s = blanks ++ trimStart s :=
  ⟨s.takeWhile isBlank, List.all_takeWhile, (List.takeWhile_append_dropWhile).symm⟩

theorem exists_eq_trimEnd_append (s : List Char) :
    ∃ blanks, isBlankText blanks ∧ s = trimEnd s ++ blanks := by
  obtain ⟨blanks, hblanks, hs⟩ := exists_eq_append_trimStart s.reverse
  refine ⟨blanks.reverse, ?_, ?_⟩
  · rwa [isBlankText, List.all_reverse]
  · rw [trimEnd, ← trimStart, ← List.reverse_append, ← hs, List.reverse_reverse]

theorem last_trimEnd (s : List Char) : ∀ c ∈ (trimEnd s).getLast?, isBlank c = false := by
  rw [trimEnd, ← trimStart, List.getLast?_reverse]
  exact head_trimStart s.reverse

/-- Blanks are taken off the end of what stands behind a text without any. -/
theorem trimEnd_append_of_visible {front : List Char}
    (hvisible : ∀ c ∈ front, isBlank c = false) (w : List Char) :
    trimEnd (front ++ w) = front ++ trimEnd w := by
  obtain ⟨blanks, hblanks, hw⟩ := exists_eq_trimEnd_append w
  conv_lhs => rw [hw, ← List.append_assoc]
  refine trimEnd_append (fun c hc => ?_) (List.all_eq_true.mp hblanks)
  cases hend : (trimEnd w).getLast? with
  | none =>
      rw [List.getLast?_eq_none_iff.mp hend, List.append_nil] at hc
      exact hvisible c (List.mem_of_getLast? hc)
  | some e =>
      rw [List.getLast?_append, hend, Option.some_or] at hc
      exact last_trimEnd w c (hend ▸ hc)

/-- A text is its trimmed form with blanks before and behind. -/
theorem exists_eq_append_trim (s : List Char) :
    ∃ before behind, isBlankText before ∧ isBlankText behind ∧
      s = before ++ (trim s ++ behind) := by
  obtain ⟨before, hbefore, hs⟩ := exists_eq_append_trimStart s
  obtain ⟨behind, hbehind, hstart⟩ := exists_eq_trimEnd_append (trimStart s)
  exact ⟨before, behind, hbefore, hbehind, by rw [trim, ← hstart, ← hs]⟩

theorem head_trim (s : List Char) : ∀ c ∈ (trim s).head?, isBlank c = false := by
  obtain ⟨behind, -, hstart⟩ := exists_eq_trimEnd_append (trimStart s)
  intro c hc
  apply head_trimStart s c
  rw [hstart, List.head?_append, ← trim, Option.mem_def.mp hc]
  rfl

theorem last_trim (s : List Char) : ∀ c ∈ (trim s).getLast?, isBlank c = false :=
  last_trimEnd (trimStart s)

theorem trim_eq_nil_iff {s : List Char} : trim s = [] ↔ isBlankText s := by
  constructor
  · intro h
    obtain ⟨before, behind, hbefore, hbehind, hs⟩ := exists_eq_append_trim s
    rw [hs, h, isBlankText, List.nil_append, List.all_append]
    exact Bool.and_eq_true_iff.mpr ⟨hbefore, hbehind⟩
  · intro h
    rw [trim, trimStart_eq_nil_iff.mpr h]
    rfl

/-- A text that neither starts nor ends in a blank is what trimming leaves of it with blanks
around. -/
theorem trim_append_append {before s behind : List Char} (hbefore : isBlankText before)
    (hhead : ∀ c ∈ s.head?, isBlank c = false) (hlast : ∀ c ∈ s.getLast?, isBlank c = false)
    (hbehind : isBlankText behind) : trim (before ++ (s ++ behind)) = s := by
  rw [trim, trimStart_append_of_blank hbefore]
  cases s with
  | nil => rw [List.nil_append, trimStart_eq_nil_iff.mpr hbehind, trimEnd_eq_self hlast]
  | cons c s =>
      rw [trimStart_eq_self (by exact hhead)]
      exact trimEnd_append hlast (List.all_eq_true.mp hbehind)

/-- Two texts with a space between them are trimmed on the outside only. -/
theorem exists_trim_append_space {s t : List Char} (hs : trim s ≠ []) (ht : trim t ≠ []) :
    ∃ gap, isBlankText gap ∧ ' ' ∈ gap ∧ trim (s ++ ' ' :: t) = trim s ++ (gap ++ trim t) := by
  obtain ⟨before, left, hbefore, hleft, hs'⟩ := exists_eq_append_trim s
  obtain ⟨right, behind, hright, hbehind, ht'⟩ := exists_eq_append_trim t
  have hgap : isBlankText (left ++ ' ' :: right) := by
    rw [isBlankText, List.all_append, List.all_cons]
    exact Bool.and_eq_true_iff.mpr ⟨hleft, hright⟩
  refine ⟨left ++ ' ' :: right, hgap, by simp, ?_⟩
  have hwhole : s ++ ' ' :: t =
      before ++ ((trim s ++ (left ++ ' ' :: right ++ trim t)) ++ behind) :=
    (congrArg₂ (fun s t => s ++ ' ' :: t) hs' ht').trans (by simp)
  rw [hwhole]
  refine trim_append_append hbefore ?_ ?_ hbehind
  · rw [List.head?_append_of_ne_nil _ hs]
    exact head_trim s
  · rw [← List.append_assoc, List.getLast?_append_of_ne_nil _ ht]
    exact last_trim t

end ScalarWire.Text
