import ScalarWire.Proofs.Text.Fold

/-!
# The words of a text

Words end at blanks, however many there are, so the words on the two sides of a blank do not depend
on each other. The words of a text, joined by single spaces, are a text with the same words. They
are the same, up to letter case, in every text that differs only in the width of its gaps.
-/

namespace ScalarWire.Text

theorem startsBlank_of_isBlankText {blanks : List Char} (hblanks : isBlankText blanks) :
    StartsBlank blanks :=
  fun c hc => List.all_eq_true.mp hblanks c (List.mem_of_head? hc)

theorem StartsBlank.append {s t : List Char} (hs : StartsBlank s) (ht : StartsBlank t) :
    StartsBlank (s ++ t) := by
  cases s with
  | nil => exact ht
  | cons c s => exact hs

theorem StartsBlank.lower {s : List Char} (hs : StartsBlank s) : StartsBlank (lower s) := by
  cases s with
  | nil => exact hs
  | cons c s =>
      intro d hd
      rw [← Option.mem_some_iff.mp hd, isBlank_toLower]
      exact hs c rfl

theorem StartsBlank.trimEnd {s : List Char} (hs : StartsBlank s) : StartsBlank (trimEnd s) := by
  obtain ⟨blanks, -, hsplit⟩ := exists_eq_trimEnd_append s
  intro c hc
  apply hs c
  rw [hsplit, List.head?_append, Option.mem_def.mp hc]
  rfl

/-- The words gathered so far, once a blank or the start of the text ends the one under way. -/
def endWord (p : List Char × List (List Char)) : List (List Char) :=
  if p.1 = [] then p.2 else p.1 :: p.2

theorem words_eq_endWord (s : List Char) : words s = endWord (s.foldr gather ([], [])) := by
  rw [words]
  generalize s.foldr gather ([], []) = p
  obtain ⟨word, done⟩ := p
  cases word with
  | nil => rfl
  | cons c word => rfl

theorem gather_of_blank {c : Char} (hc : isBlank c) (p : List Char × List (List Char)) :
    gather c p = ([], endWord p) :=
  if_pos hc

theorem gather_of_visible {c : Char} (hc : isBlank c = false) (p : List Char × List (List Char)) :
    gather c p = (c :: p.1, p.2) :=
  if_neg (by simp [hc])

@[simp] theorem words_nil : words [] = [] := rfl

/-- A blank has ended whatever word stands before it. -/
theorem foldr_gather_of_startsBlank {s : List Char} (hs : StartsBlank s) :
    s.foldr gather ([], []) = ([], words s) := by
  cases s with
  | nil => rfl
  | cons c s =>
      rw [words_eq_endWord, List.foldr_cons, gather_of_blank (hs c rfl)]
      rfl

theorem foldr_gather_done (s : List Char) (done : List (List Char)) :
    s.foldr gather ([], done) =
      ((s.foldr gather ([], [])).1, (s.foldr gather ([], [])).2 ++ done) := by
  induction s with
  | nil => rfl
  | cons c s ih =>
      rw [List.foldr_cons, List.foldr_cons, ih]
      by_cases hc : isBlank c
      · rw [gather_of_blank hc, gather_of_blank hc]
        unfold endWord
        split_ifs <;> rfl
      · have hvisible := eq_false_of_ne_true hc
        rw [gather_of_visible hvisible, gather_of_visible hvisible]

/-- The words before a blank and those behind it. -/
theorem words_append (s : List Char) {t : List Char} (ht : StartsBlank t) :
    words (s ++ t) = words s ++ words t := by
  rw [words_eq_endWord, List.foldr_append, foldr_gather_of_startsBlank ht, foldr_gather_done,
    words_eq_endWord s]
  unfold endWord
  split_ifs <;> rfl

theorem words_cons_of_blank {c : Char} (hc : isBlank c) (s : List Char) :
    words (c :: s) = words s := by
  rw [words_eq_endWord, List.foldr_cons, gather_of_blank hc, words_eq_endWord s]
  rfl

theorem words_blank_append {blanks : List Char} (hblanks : isBlankText blanks) (s : List Char) :
    words (blanks ++ s) = words s := by
  induction blanks with
  | nil => rfl
  | cons c blanks ih =>
      obtain ⟨hc, hrest⟩ := Bool.and_eq_true_iff.mp hblanks
      rw [List.cons_append, words_cons_of_blank hc, ih hrest]

theorem words_of_isBlankText {blanks : List Char} (hblanks : isBlankText blanks) :
    words blanks = [] := by
  rw [← List.append_nil blanks, words_blank_append hblanks, words_nil]

theorem words_append_blank (s : List Char) {blanks : List Char} (hblanks : isBlankText blanks) :
    words (s ++ blanks) = words s := by
  rw [words_append s (startsBlank_of_isBlankText hblanks), words_of_isBlankText hblanks,
    List.append_nil]

theorem words_trimEnd (s : List Char) : words (trimEnd s) = words s := by
  obtain ⟨blanks, hblanks, hs⟩ := exists_eq_trimEnd_append s
  conv_rhs => rw [hs, words_append_blank _ hblanks]

theorem words_trim (s : List Char) : words (trim s) = words s := by
  obtain ⟨blanks, hblanks, hs⟩ := exists_eq_append_trimStart s
  rw [trim, words_trimEnd]
  conv_rhs => rw [hs, words_blank_append hblanks]

/-- A word stands between blanks: it has at least one character, and none is blank. -/
def IsWord (w : List Char) : Prop :=
  w ≠ [] ∧ ∀ c ∈ w, isBlank c = false

theorem foldr_gather_of_visible {w : List Char} (hw : ∀ c ∈ w, isBlank c = false) :
    w.foldr gather ([], []) = (w, []) := by
  induction w with
  | nil => rfl
  | cons c w ih =>
      obtain ⟨hc, hrest⟩ := List.forall_mem_cons.mp hw
      rw [List.foldr_cons, ih hrest, gather_of_visible hc]

theorem IsWord.words_eq {w : List Char} (hw : IsWord w) : words w = [w] := by
  rw [words_eq_endWord, foldr_gather_of_visible hw.2, endWord, if_neg hw.1]

theorem isWord_of_mem_endWord {p : List Char × List (List Char)}
    (hword : ∀ c ∈ p.1, isBlank c = false) (hdone : ∀ w ∈ p.2, IsWord w) :
    ∀ w ∈ endWord p, IsWord w := by
  intro w hw
  rw [endWord] at hw
  split_ifs at hw with hnil
  · exact hdone w hw
  · rcases List.mem_cons.mp hw with rfl | hw
    · exact ⟨hnil, hword⟩
    · exact hdone w hw

theorem isWord_of_mem_gathered (s : List Char) :
    (∀ c ∈ (s.foldr gather ([], [])).1, isBlank c = false) ∧
      ∀ w ∈ (s.foldr gather ([], [])).2, IsWord w := by
  induction s with
  | nil => exact ⟨nofun, nofun⟩
  | cons c s ih =>
      obtain ⟨hword, hdone⟩ := ih
      rw [List.foldr_cons]
      by_cases hc : isBlank c
      · rw [gather_of_blank hc]
        exact ⟨nofun, isWord_of_mem_endWord hword hdone⟩
      · have hvisible := eq_false_of_ne_true hc
        rw [gather_of_visible hvisible]
        exact ⟨List.forall_mem_cons.mpr ⟨hvisible, hword⟩, hdone⟩

theorem isWord_of_mem_words {s w : List Char} (hw : w ∈ words s) : IsWord w := by
  obtain ⟨hword, hdone⟩ := isWord_of_mem_gathered s
  rw [words_eq_endWord] at hw
  exact isWord_of_mem_endWord hword hdone w hw

/-- Words that are joined by spaces are read back. -/
theorem words_intercalate {ws : List (List Char)} (h : ∀ w ∈ ws, IsWord w) :
    words ([' '].intercalate ws) = ws := by
  induction ws with
  | nil => rfl
  | cons w ws ih =>
      obtain ⟨hw, hrest⟩ := List.forall_mem_cons.mp h
      cases ws with
      | nil => rw [List.intercalate_singleton, hw.words_eq]
      | cons w' ws =>
          have hspace : StartsBlank ([' '] ++ [' '].intercalate (w' :: ws)) :=
            fun c hc => Option.mem_some_iff.mp hc ▸ by decide
          rw [List.intercalate_cons_cons, List.append_assoc, words_append w hspace, hw.words_eq,
            words_blank_append (by decide), ih hrest, List.singleton_append]

/-! ### Letter case and the width of gaps -/

/-- At least one blank, and nothing else. -/
def IsGap (g : List Char) : Prop :=
  g ≠ [] ∧ isBlankText g

instance (g : List Char) : Decidable (IsGap g) :=
  inferInstanceAs (Decidable (g ≠ [] ∧ isBlankText g))

/-- Two texts that differ only in the case of ASCII letters and in the runs of blanks between and
around their words. -/
inductive Respaced : List Char → List Char → Prop where
  | nil : Respaced [] []
  | char {c d : Char} {s t : List Char} (hcase : c.toLower = d.toLower) (hrest : Respaced s t) :
      Respaced (c :: s) (d :: t)
  | gap {g g' s t : List Char} (hg : IsGap g) (hg' : IsGap g') (hrest : Respaced s t) :
      Respaced (g ++ s) (g' ++ t)

theorem words_lower_blank_append {blanks : List Char} (hblanks : isBlankText blanks)
    (s : List Char) : words (lower (blanks ++ s)) = words (lower s) := by
  rw [lower_append, words_blank_append ((isBlankText_lower blanks).trans hblanks)]

theorem words_lower_append_blank (s : List Char) {blanks : List Char}
    (hblanks : isBlankText blanks) : words (lower (s ++ blanks)) = words (lower s) := by
  rw [lower_append, words_append_blank _ ((isBlankText_lower blanks).trans hblanks)]

theorem IsGap.startsBlank_append {g : List Char} (hg : IsGap g) (s : List Char) :
    StartsBlank (g ++ s) := by
  intro c hc
  rw [List.head?_append_of_ne_nil _ hg.1] at hc
  exact startsBlank_of_isBlankText hg.2 c hc

theorem IsGap.lower {g : List Char} (hg : IsGap g) : IsGap (lower g) :=
  ⟨mt (lower_eq_nil_iff g).mp hg.1, (isBlankText_lower g).trans hg.2⟩

namespace Respaced

variable {s t : List Char}

theorem of_lower_eq (h : lower s = lower t) : Respaced s t := by
  induction s generalizing t with
  | nil =>
      obtain rfl := (lower_eq_nil_iff t).mp h.symm
      exact .nil
  | cons c s ih =>
      cases t with
      | nil => exact nomatch h
      | cons d t =>
          obtain ⟨hcase, hrest⟩ := List.cons.inj h
          exact .char hcase (ih hrest)

theorem append {s' t' : List Char} (h : Respaced s t) (h' : Respaced s' t') :
    Respaced (s ++ s') (t ++ t') := by
  induction h with
  | nil => exact h'
  | char hcase _ ih => exact .char hcase ih
  | gap hg hg' _ ih =>
      rw [List.append_assoc, List.append_assoc]
      exact .gap hg hg' ih

/-- Once a gap is over, nothing tells how wide it was. -/
theorem foldr_gather_eq (h : Respaced s t) :
    (lower s).foldr gather ([], []) = (lower t).foldr gather ([], []) := by
  induction h with
  | nil => rfl
  | char hcase _ ih => rw [lower_cons, lower_cons, List.foldr_cons, List.foldr_cons, hcase, ih]
  | @gap g g' s t hg hg' _ ih =>
      have hwords : words (lower s) = words (lower t) := by
        rw [words_eq_endWord, words_eq_endWord, ih]
      rw [lower_append, lower_append, foldr_gather_of_startsBlank (hg.lower.startsBlank_append _),
        foldr_gather_of_startsBlank (hg'.lower.startsBlank_append _),
        words_blank_append hg.lower.2, words_blank_append hg'.lower.2, hwords]

theorem words_lower_eq (h : Respaced s t) : words (lower s) = words (lower t) := by
  rw [words_eq_endWord, words_eq_endWord, h.foldr_gather_eq]

/-- A visible character that precedes the letters stays. -/
theorem mem_iff (h : Respaced s t) {d : Char} (hd : d.toNat < 65) (hvisible : isBlank d = false) :
    d ∈ s ↔ d ∈ t := by
  have hgap : ∀ {g : List Char}, IsGap g → d ∉ g := by
    intro g hg hmem
    exact absurd (List.all_eq_true.mp hg.2 d hmem) (by simp [hvisible])
  induction h with
  | nil => rfl
  | @char c c' s t hcase _ ih =>
      have hhead : d = c ↔ d = c' := by
        rw [eq_comm, ← toLower_eq_iff hd, hcase, toLower_eq_iff hd, eq_comm]
      exact List.mem_cons.trans ((or_congr hhead ih).trans List.mem_cons.symm)
  | gap hg hg' _ ih =>
      simp only [List.mem_append, hgap hg, hgap hg', false_or, ih]

end Respaced

end ScalarWire.Text
