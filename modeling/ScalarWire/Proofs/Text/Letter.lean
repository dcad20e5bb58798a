import ScalarWire.Text.Blank
import ScalarWire.Text.Digit
import ScalarWire.Text.Letter
import ScalarWire.Text.Word

/-!
# Letter case

The digits and signs that precede the letters in ASCII are their own upper and lower case, so no
name made of letters equals a text that holds one of them. Writing a text in another case does not
change which of its characters are blanks, digits or parts of a word.
-/

namespace ScalarWire.Text

theorem isAlpha_iff (c : Char) :
    c.isAlpha ↔ 65 ≤ c.toNat ∧ c.toNat ≤ 90 ∨ 97 ≤ c.toNat ∧ c.toNat ≤ 122 := by
  have hupper : c.isUpper ↔ 65 ≤ c.toNat ∧ c.toNat ≤ 90 := decide_eq_true_iff
  have hlower : c.isLower ↔ 97 ≤ c.toNat ∧ c.toNat ≤ 122 :=
    Bool.and_eq_true_iff.trans (and_congr decide_eq_true_iff decide_eq_true_iff)
  exact Bool.or_eq_true_iff.trans (or_congr hupper hlower)

theorem isWordChar_of_isAlpha {c : Char} (h : c.isAlpha) : isWordChar c := by
  have hrange := (isAlpha_iff c).mp h
  rw [isWordChar, if_pos (by omega), Char.isAlphanum, h]
  rfl

theorem toLower_of_lt {c : Char} (h : c.toNat < 65) : c.toLower = c := by
  refine dif_neg ?_
  rintro ⟨hc, -⟩
  have : 65 ≤ c.toNat := hc
  omega

theorem toUpper_of_lt {c : Char} (h : c.toNat < 97) : c.toUpper = c := by
  refine dif_neg ?_
  rintro ⟨hc, -⟩
  have : 97 ≤ c.toNat := hc
  omega

theorem toLower_of_ge {c : Char} (h : 128 ≤ c.toNat) : c.toLower = c := by
  refine dif_neg ?_
  rintro ⟨-, hc⟩
  have : c.toNat ≤ 90 := hc
  omega

theorem toUpper_of_ge {c : Char} (h : 128 ≤ c.toNat) : c.toUpper = c := by
  refine dif_neg ?_
  rintro ⟨-, hc⟩
  have : c.toNat ≤ 122 := hc
  omega

/-- Beyond ASCII there is no case, so what does not tell the cases of ASCII apart never does. -/
theorem apply_toLower {α : Type} (f : Char → α)
    (h : ∀ n < 128, f (Char.ofNat n).toLower = f (Char.ofNat n)) (c : Char) :
    f c.toLower = f c := by
  by_cases hc : c.toNat < 128
  · exact c.ofNat_toNat ▸ h c.toNat hc
  · rw [toLower_of_ge (Nat.le_of_not_lt hc)]

theorem apply_toUpper {α : Type} (f : Char → α)
    (h : ∀ n < 128, f (Char.ofNat n).toUpper = f (Char.ofNat n)) (c : Char) :
    f c.toUpper = f c := by
  by_cases hc : c.toNat < 128
  · exact c.ofNat_toNat ▸ h c.toNat hc
  · rw [toUpper_of_ge (Nat.le_of_not_lt hc)]

@[simp] theorem toLower_toLower (c : Char) : c.toLower.toLower = c.toLower :=
  apply_toLower Char.toLower (by decide) c

@[simp] theorem toLower_toUpper (c : Char) : c.toUpper.toLower = c.toLower :=
  apply_toUpper Char.toLower (by decide) c

@[simp] theorem toUpper_toLower (c : Char) : c.toLower.toUpper = c.toUpper :=
  apply_toLower Char.toUpper (by decide) c

@[simp] theorem isBlank_toLower (c : Char) : isBlank c.toLower = isBlank c :=
  apply_toLower isBlank (by decide) c

@[simp] theorem isAlpha_toLower (c : Char) : c.toLower.isAlpha = c.isAlpha :=
  apply_toLower Char.isAlpha (by decide) c

@[simp] theorem isDigit_toLower (c : Char) : c.toLower.isDigit = c.isDigit :=
  apply_toLower Char.isDigit (by decide) c

@[simp] theorem isWordChar_toLower (c : Char) : isWordChar c.toLower = isWordChar c :=
  apply_toLower isWordChar (by decide) c

@[simp] theorem isDecimalDigit_toLower (c : Char) : isDecimalDigit c.toLower = isDecimalDigit c :=
  apply_toLower isDecimalDigit (by decide) c

@[simp] theorem foldsToLetter_toLower (c : Char) : foldsToLetter c.toLower = foldsToLetter c :=
  apply_toLower foldsToLetter (by decide) c

@[simp] theorem foldLetter_toLower (c : Char) : foldLetter c.toLower = foldLetter c :=
  apply_toLower foldLetter (by decide) c

/-- What precedes the letters in ASCII is the lower case of nothing but itself. -/
theorem toLower_eq_iff {c d : Char} (h : d.toNat < 65) : c.toLower = d ↔ c = d := by
  have hrange : decide (c.toLower.toNat < 65) = decide (c.toNat < 65) :=
    apply_toLower (fun c => decide (c.toNat < 65)) (by decide) c
  constructor
  · rintro rfl
    have hlt : c.toNat < 65 := of_decide_eq_true (hrange ▸ decide_eq_true h)
    exact (toLower_of_lt hlt).symm
  · rintro rfl
    exact toLower_of_lt h

theorem toLower_beq {c d : Char} (h : d.toNat < 65) : (c.toLower == d) = (c == d) := by
  rw [Bool.eq_iff_iff, beq_iff_eq, beq_iff_eq, toLower_eq_iff h]

theorem lower_lower (s : List Char) : lower (lower s) = lower s := by
  simp [lower]

theorem lower_upper (s : List Char) : lower (upper s) = lower s := by
  simp [lower, upper]

theorem upper_lower (s : List Char) : upper (lower s) = upper s := by
  simp [lower, upper]

theorem endsWord_lower (s : List Char) : endsWord (lower s) = endsWord s := by
  cases s with
  | nil => rfl
  | cons c s => simp [lower, endsWord]

section lower

variable (s : List Char) (n : Nat)

theorem lower_cons (c : Char) : lower (c :: s) = c.toLower :: lower s := rfl

theorem lower_append (t : List Char) : lower (s ++ t) = lower s ++ lower t :=
  List.map_append

theorem lower_reverse : (lower s).reverse = lower s.reverse :=
  List.map_reverse.symm

theorem length_lower : (lower s).length = s.length :=
  List.length_map _

theorem lower_take : (lower s).take n = lower (s.take n) :=
  List.map_take.symm

theorem lower_drop : (lower s).drop n = lower (s.drop n) :=
  List.map_drop.symm

theorem lower_eq_nil_iff : lower s = [] ↔ s = [] :=
  List.map_eq_nil_iff

variable {p : Char → Bool}

/-- A run is cut at the same place in any letter case. -/
theorem takeWhile_lower (hp : ∀ c : Char, p c.toLower = p c) :
    (lower s).takeWhile p = lower (s.takeWhile p) := by
  rw [lower, List.takeWhile_map]
  exact congrArg (fun p => List.map Char.toLower (List.takeWhile p s)) (funext hp)

theorem dropWhile_lower (hp : ∀ c : Char, p c.toLower = p c) :
    (lower s).dropWhile p = lower (s.dropWhile p) := by
  rw [lower, List.dropWhile_map]
  exact congrArg (fun p => List.map Char.toLower (List.dropWhile p s)) (funext hp)

theorem all_lower (hp : ∀ c : Char, p c.toLower = p c) : (lower s).all p = s.all p := by
  rw [lower, List.all_map]
  exact congrArg s.all (funext hp)

theorem any_head?_lower (hp : ∀ c : Char, p c.toLower = p c) :
    (lower s).head?.any p = s.head?.any p := by
  cases s with
  | nil => rfl
  | cons c s => exact hp c

end lower

theorem lower_eq_self {s : List Char} (h : ∀ c ∈ s, c.toLower = c) : lower s = s :=
  (List.map_congr_left h).trans (List.map_id s)

theorem sameFold_comm (s t : List Char) : sameFold s t = sameFold t s :=
  Bool.beq_comm

theorem sameFold_lower (s t : List Char) : sameFold s (lower t) = sameFold s t := by
  rw [sameFold, lower_lower, sameFold]

theorem lower_sameFold (s t : List Char) : sameFold (lower s) t = sameFold s t := by
  rw [sameFold, lower_lower, sameFold]

theorem mem_lower {s : List Char} {c : Char} (hc : c ∈ s) (h : c.toNat < 65) : c ∈ lower s :=
  List.mem_map.mpr ⟨c, hc, toLower_of_lt h⟩

theorem mem_lower_iff {s : List Char} {c : Char} (h : c.toNat < 65) : c ∈ lower s ↔ c ∈ s := by
  constructor
  · intro hc
    obtain ⟨d, hd, hlower⟩ := List.mem_map.mp hc
    exact (toLower_eq_iff h).mp hlower ▸ hd
  · exact fun hc => mem_lower hc h

/-- A text with a digit in it differs from every name without one. -/
theorem sameFold_eq_false_of_isDigit {s t : List Char} {c : Char} (hc : c ∈ s)
    (hdigit : c.isDigit) (ht : t.all fun d => !d.isDigit) : sameFold s t = false := by
  rw [sameFold, beq_eq_false_iff_ne]
  intro heq
  have hmem : c.toLower ∈ lower t := heq ▸ List.mem_map_of_mem hc
  obtain ⟨d, hd, hlower⟩ := List.mem_map.mp hmem
  have hnot := List.all_eq_true.mp ht d hd
  rw [← isDigit_toLower d, hlower, isDigit_toLower, hdigit] at hnot
  cases hnot

end ScalarWire.Text
