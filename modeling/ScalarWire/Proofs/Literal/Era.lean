import ScalarWire.Calendar.Iso
import ScalarWire.Literal.Era
import ScalarWire.Proofs.Number.Numeral
import ScalarWire.Proofs.Text.Blank
import ScalarWire.Proofs.Text.Letter

/-!
# Era markers on written texts

A text that starts and ends in a digit is no infinity and has no era marker. With the suffix of a
year before year 1 behind it, that suffix is what is taken off.
-/

namespace ScalarWire.Literal

open Text

/-- A text with a digit at either end. -/
structure DigitEnds (s : List Char) : Prop where
  head : ∃ c, s.head? = some c ∧ c.isDigit
  last : ∃ c, s.getLast? = some c ∧ c.isDigit

theorem digitEnds_of_isDigit {s : List Char} (hne : s ≠ []) (hs : ∀ c ∈ s, c.isDigit) :
    DigitEnds s :=
  ⟨⟨_, List.head?_eq_some_head hne, hs _ (List.head_mem hne)⟩,
    ⟨_, List.getLast?_eq_some_getLast hne, hs _ (List.getLast_mem hne)⟩⟩

theorem digitEnds_padded (width n : Nat) : DigitEnds (Numeral.padded width n) :=
  digitEnds_of_isDigit (Numeral.padded_ne_nil width n) Numeral.isDigit_of_mem_padded

namespace DigitEnds

variable {s t : List Char}

theorem ne_nil (h : DigitEnds s) : s ≠ [] := by
  rintro rfl
  obtain ⟨c, hc, -⟩ := h.head
  exact nomatch hc

theorem append (hs : DigitEnds s) (ht : DigitEnds t) (mid : List Char) :
    DigitEnds (s ++ (mid ++ t)) := by
  obtain ⟨c, hc, hdigit⟩ := hs.head
  obtain ⟨d, hd, hdigit'⟩ := ht.last
  refine ⟨⟨c, ?_, hdigit⟩, ⟨d, ?_, hdigit'⟩⟩
  · rw [List.head?_append, hc, Option.some_or]
  · rw [List.getLast?_append, List.getLast?_append, hd, Option.some_or, Option.some_or]

theorem isBlank_head (h : DigitEnds s) : ∀ c ∈ s.head?, isBlank c = false := by
  obtain ⟨d, hd, hdigit⟩ := h.head
  intro c hc
  rw [hd, Option.mem_some_iff] at hc
  exact hc ▸ isBlank_of_isDigit hdigit

end DigitEnds

/-- A text that begins with no blank and ends in a digit. -/
structure LastDigit (s : List Char) : Prop where
  isBlank_head : ∀ c ∈ s.head?, isBlank c = false
  last : ∃ c, s.getLast? = some c ∧ c.isDigit

theorem DigitEnds.lastDigit {s : List Char} (h : DigitEnds s) : LastDigit s :=
  ⟨h.isBlank_head, h.last⟩

namespace LastDigit

variable {s : List Char}

theorem ne_nil (h : LastDigit s) : s ≠ [] := by
  rintro rfl
  obtain ⟨c, hc, -⟩ := h.last
  exact nomatch hc

theorem isBlank_last (h : LastDigit s) : ∀ c ∈ s.getLast?, isBlank c = false := by
  obtain ⟨d, hd, hdigit⟩ := h.last
  intro c hc
  rw [hd, Option.mem_some_iff] at hc
  exact hc ▸ isBlank_of_isDigit hdigit

theorem trim_eq (h : LastDigit s) : trim s = s :=
  trim_eq_self h.isBlank_head h.isBlank_last

end LastDigit

theorem DigitEnds.trim_eq {s : List Char} (h : DigitEnds s) : trim s = s :=
  h.lastDigit.trim_eq

theorem ofList_ne {s : List Char} {c : Char} (hc : c ∈ s) {t : String} (ht : c ∉ t.toList) :
    String.ofList s ≠ t := by
  rintro rfl
  rw [String.toList_ofList] at ht
  exact ht hc

/-- The names of the infinities hold no character before the letters but a sign. -/
theorem infinity?_eq_none_of_mem {s : List Char} {c : Char} (hc : c ∈ trim s) (hlt : c.toNat < 65)
    (hplus : c ≠ '+') (hminus : c ≠ '-') : infinity? s = none := by
  have hnames : ∀ t ∈ ["infinity", "+infinity", "-infinity"],
      t.toList.all fun d => 65 ≤ d.toNat || d == '+' || d == '-' := by decide
  have hne : ∀ t ∈ ["infinity", "+infinity", "-infinity"],
      String.ofList (lower (trim s)) ≠ t := by
    intro t ht
    refine ofList_ne (mem_lower hc hlt) fun hmem => ?_
    have hd := List.all_eq_true.mp (hnames t ht) c hmem
    simp only [Bool.or_eq_true, decide_eq_true_eq, beq_iff_eq, or_assoc] at hd
    exact hd.elim (fun hle => by omega) (fun h => h.elim hplus hminus)
  unfold infinity?
  split
  · next h => exact absurd h (hne _ (by decide))
  · next h => exact absurd h (hne _ (by decide))
  · next h => exact absurd h (hne _ (by decide))
  · rfl

theorem infinity?_eq_none {s : List Char} {c : Char} (hc : c ∈ trim s) (hdigit : c.isDigit) :
    infinity? s = none := by
  have hlt := (Numeral.isDigit_iff c).mp hdigit
  refine infinity?_eq_none_of_mem hc (by omega) ?_ ?_
  · rintro rfl
    exact nomatch hdigit
  · rintro rfl
    exact nomatch hdigit

theorem upper_mem_of_eraMarker? {word : List Char} {bc : Bool} (h : eraMarker? word = some bc) :
    upper word ∈ ["BC".toList, "B.C.".toList, "AD".toList, "A.D.".toList] := by
  unfold eraMarker? at h
  split at h
  case h_5 => exact nomatch h
  all_goals
    next hword =>
      rw [← (String.toList_ofList : _ = upper word), hword]
      decide

/-- The era markers hold four letters and full stops. -/
theorem eraMarker?_eq_none_of_upper {word : List Char} {c : Char} (hc : c ∈ word)
    (h : c.toUpper ∉ ['A', 'B', 'C', 'D', '.']) : eraMarker? word = none := by
  have hmarkers : ∀ t ∈ ["BC".toList, "B.C.".toList, "AD".toList, "A.D.".toList],
      t.all fun d => ['A', 'B', 'C', 'D', '.'].contains d := by decide
  cases hera : eraMarker? word with
  | none => rfl
  | some bc =>
      have hall := List.all_eq_true.mp (hmarkers _ (upper_mem_of_eraMarker? hera))
      have hmem : c.toUpper ∈ upper word := List.mem_map_of_mem hc
      exact absurd (List.contains_iff_mem.mp (hall _ hmem)) h

/-- No character before the letters but a full stop stands in an era marker. -/
theorem eraMarker?_eq_none_of_mem {word : List Char} {c : Char} (hc : c ∈ word)
    (hlt : c.toNat < 65) (hstop : c ≠ '.') : eraMarker? word = none := by
  apply eraMarker?_eq_none_of_upper hc
  rw [toUpper_of_lt (by omega)]
  simp only [List.mem_cons, List.not_mem_nil, or_false, hstop]
  rintro (rfl | rfl | rfl | rfl) <;> exact absurd hlt (by decide)

theorem eraMarker?_eq_none {word : List Char} {c : Char} (hc : c ∈ word) (hdigit : c.isDigit) :
    eraMarker? word = none := by
  have hlt := (Numeral.isDigit_iff c).mp hdigit
  refine eraMarker?_eq_none_of_mem hc (by omega) ?_
  rintro rfl
  exact nomatch hdigit

/-- A marker is a word. -/
theorem word_of_eraMarker? {word : List Char} {bc : Bool} (h : eraMarker? word = some bc) :
    word ≠ [] ∧ ∀ c ∈ word, isBlank c = false := by
  have hletters : ['A', 'B', 'C', 'D', '.'].all fun d => !isBlank d.toLower := by decide
  constructor
  · rintro rfl
    have hnone : eraMarker? [] = none := by decide
    exact nomatch hnone.symm.trans h
  · intro c hc
    by_contra hblank
    rw [eraMarker?_eq_none_of_upper hc] at h
    · cases h
    · intro hmem
      have hupper := List.all_eq_true.mp hletters _ hmem
      rw [toLower_toUpper, isBlank_toLower, Bool.not_eq_true'] at hupper
      exact hblank hupper

/-- What stands before the last word of a text, with the blanks between, and that word. -/
def splitLastWord (s : List Char) : List Char × List Char :=
  ((s.reverse.dropWhile fun c => !isBlank c).reverse,
    (s.reverse.takeWhile fun c => !isBlank c).reverse)

theorem append_splitLastWord (s : List Char) : (splitLastWord s).1 ++ (splitLastWord s).2 = s := by
  rw [splitLastWord, ← List.reverse_append, List.takeWhile_append_dropWhile, List.reverse_reverse]

/-- What stands before the last word ends in a blank. -/
theorem last_splitLastWord (s : List Char) : ∀ c ∈ (splitLastWord s).1.getLast?, isBlank c := by
  intro c hc
  rw [splitLastWord, List.getLast?_reverse] at hc
  have hhead := List.head?_dropWhile_not (fun c => !isBlank c) s.reverse
  rw [Option.mem_def.mp hc] at hhead
  simpa using hhead

theorem splitLastWord_append {front : List Char} (hvisible : ∀ c ∈ front, isBlank c = false)
    (w : List Char) :
    splitLastWord (front ++ w) =
      if (splitLastWord w).1 = [] then ([], front ++ w)
      else (front ++ (splitLastWord w).1, (splitLastWord w).2) := by
  have hfront : ∀ c ∈ front.reverse, (!isBlank c) = true := by
    intro c hc
    rw [hvisible c (List.mem_reverse.mp hc)]
    rfl
  simp only [splitLastWord, List.reverse_append, List.reverse_eq_nil_iff]
  split_ifs with hword
  · have hall := List.dropWhile_eq_nil_iff.mp hword
    have hnil : front.reverse.dropWhile (fun c => !isBlank c) = [] :=
      List.dropWhile_eq_nil_iff.mpr hfront
    have hself := List.takeWhile_eq_self_iff.mpr hfront
    rw [List.dropWhile_append_of_pos hall, List.takeWhile_append_of_pos hall, hnil, hself,
      ← List.reverse_append, List.reverse_reverse]
    rfl
  · rw [dropWhile_append_of_ne_nil hword, takeWhile_append_of_ne_nil hword, List.reverse_append,
      List.reverse_reverse]

theorem splitEra_eq (s : List Char) :
    splitEra s =
      if (splitLastWord (trim s)).1 = [] then (trim s, false)
      else (eraMarker? (splitLastWord (trim s)).2).elim (trim s, false) fun bc =>
        (trimEnd (splitLastWord (trim s)).1, bc) := by
  have hhead : (trim s).take ((trim s).length - (splitLastWord (trim s)).2.length) =
      (splitLastWord (trim s)).1 := by
    have happend := append_splitLastWord (trim s)
    generalize splitLastWord (trim s) = found at happend ⊢
    rw [← happend, List.length_append, Nat.add_sub_cancel, List.take_left]
  unfold splitEra
  dsimp only
  rw [show ((trim s).reverse.takeWhile fun c => !isBlank c).reverse = (splitLastWord (trim s)).2
    from rfl, hhead]
  cases eraMarker? (splitLastWord (trim s)).2 <;> rfl

/-- Either nothing is taken off, or a marker and the blanks before it. -/
theorem splitEra_cases (s : List Char) :
    splitEra s = (trim s, false) ∨
      ∃ blanks word bc, blanks ≠ [] ∧ isBlankText blanks ∧
        trim s = (splitEra s).1 ++ (blanks ++ word) ∧ eraMarker? word = some bc := by
  rw [splitEra_eq]
  split_ifs with hhead
  · exact Or.inl rfl
  · cases hmarker : eraMarker? (splitLastWord (trim s)).2 with
    | none => exact Or.inl rfl
    | some bc =>
        obtain ⟨blanks, hblanks, hsplit⟩ :=
          exists_eq_trimEnd_append (splitLastWord (trim s)).1
        refine Or.inr ⟨blanks, (splitLastWord (trim s)).2, bc, ?_, hblanks, ?_, hmarker⟩
        · rintro rfl
          rw [List.append_nil] at hsplit
          have hlast := List.getLast?_eq_some_getLast hhead
          have hvisible := last_trimEnd (splitLastWord (trim s)).1
          rw [← hsplit] at hvisible
          have hblank := last_splitLastWord (trim s) _ hlast
          rw [hvisible _ hlast] at hblank
          exact Bool.false_ne_true hblank
        · change trim s = trimEnd (splitLastWord (trim s)).1 ++ (blanks ++ _)
          rw [← List.append_assoc, ← hsplit, append_splitLastWord]

section

variable {body blanks word : List Char}

/-- The last word holds the last digit, so it is no marker. -/
theorem splitEra_of_lastDigit (h : LastDigit body) : splitEra body = (body, false) := by
  obtain ⟨c, hc, hdigit⟩ := h.last
  have hword : c ∈ (body.reverse.takeWhile fun c => !isBlank c).reverse := by
    obtain ⟨init, rfl⟩ := List.getLast?_eq_some_iff.mp hc
    simp [isBlank_of_isDigit hdigit]
  simp only [splitEra, h.trim_eq, eraMarker?_eq_none hword hdigit]
  exact ite_self _

theorem trim_append_marker (h : LastDigit body) {bc : Bool} (hword : eraMarker? word = some bc) :
    trim (body ++ (blanks ++ word)) = body ++ (blanks ++ word) := by
  obtain ⟨hne, hvisible⟩ := word_of_eraMarker? hword
  apply trim_eq_self
  · rw [List.head?_append_of_ne_nil _ h.ne_nil]
    exact h.isBlank_head
  · intro c hc
    rw [← List.append_assoc, List.getLast?_append_of_ne_nil _ hne] at hc
    exact hvisible c (List.mem_of_getLast? hc)

/-- A marker behind blanks is what is taken off, and the blanks with it. -/
theorem splitEra_append_marker (h : LastDigit body) (hne : blanks ≠ [])
    (hblanks : isBlankText blanks) {bc : Bool} (hword : eraMarker? word = some bc) :
    splitEra (body ++ (blanks ++ word)) = (body, bc) := by
  obtain ⟨-, hvisible⟩ := word_of_eraMarker? hword
  have hblank := List.all_eq_true.mp hblanks
  have hlast : ((body ++ (blanks ++ word)).reverse.takeWhile fun c => !isBlank c).reverse =
      word := by
    rw [← List.append_assoc, List.reverse_append, takeWhile_append_of_head?, List.reverse_reverse]
    · intro c hc
      simp [hvisible c (List.mem_reverse.mp hc)]
    · intro c hc
      rw [List.head?_reverse, List.getLast?_append_of_ne_nil _ hne] at hc
      simp [hblank c (List.mem_of_getLast? hc)]
  have hhead : (body ++ (blanks ++ word)).take ((body ++ (blanks ++ word)).length - word.length) =
      body ++ blanks := by
    rw [← List.append_assoc, List.length_append, Nat.add_sub_cancel, List.take_left]
  simp only [splitEra, trim_append_marker h hword, hlast, hhead, hword,
    if_neg (List.append_ne_nil_of_left_ne_nil h.ne_nil blanks)]
  rw [trimEnd_append h.isBlank_last hblank]

theorem splitEra_append_bc (h : DigitEnds body) :
    splitEra (body ++ " BC".toList) = (body, true) :=
  @splitEra_append_marker body [' '] "BC".toList h.lastDigit (by decide) (by decide) true
    (by decide)

/-- The era of a year is told by its suffix. -/
theorem splitEra_append_eraSuffix (h : DigitEnds body) (year : Int) :
    splitEra (body ++ eraSuffix year) = (body, (eraYear year).2) := by
  rw [eraSuffix]
  split
  · next hbc => rw [splitEra_append_bc h, hbc]
  · next hbc =>
      rw [List.append_nil, splitEra_of_lastDigit h.lastDigit, eq_false_of_ne_true hbc]

theorem infinity?_of_lastDigit (h : LastDigit body) : infinity? body = none := by
  obtain ⟨c, hc, hdigit⟩ := h.last
  exact infinity?_eq_none (h.trim_eq.symm ▸ List.mem_of_getLast? hc) hdigit

theorem infinity?_append_marker (h : LastDigit body) {bc : Bool}
    (hword : eraMarker? word = some bc) : infinity? (body ++ (blanks ++ word)) = none := by
  obtain ⟨c, hc, hdigit⟩ := h.last
  refine infinity?_eq_none (c := c) ?_ hdigit
  rw [trim_append_marker h hword]
  exact List.mem_append_left _ (List.mem_of_getLast? hc)

theorem infinity?_append_eraSuffix (h : DigitEnds body) (year : Int) :
    infinity? (body ++ eraSuffix year) = none := by
  rw [eraSuffix]
  split
  · exact @infinity?_append_marker body [' '] "BC".toList h.lastDigit true (by decide)
  · rw [List.append_nil]
    exact infinity?_of_lastDigit h.lastDigit

end

end ScalarWire.Literal
