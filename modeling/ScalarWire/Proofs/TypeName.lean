import ScalarWire.Proofs.Text.Words
import ScalarWire.WireType

/-!
# Type names

A text without parentheses names a type if it has the words of one of the type's names, in any
letter case. A modifier in parentheses behind a word takes nothing from the words on either side of
it and joins none of them.
-/

namespace ScalarWire.WireType

open Text

/-- The texts that stand for the same name as `s`: letter case and the width of blanks are free,
blanks may stand around it, and at its end or before a blank there may be a modifier in
parentheses, with blanks before it. -/
inductive Respelled (s : List Char) : List Char → Prop where
  | plain {before t behind : List Char} (hbefore : isBlankText before) (hspaced : Respaced s t)
      (hbehind : isBlankText behind) : Respelled s (before ++ t ++ behind)
  | modified {before front gap m back behind : List Char} (hbefore : isBlankText before)
      (hspaced : Respaced s (front ++ back)) (hback : StartsBlank back) (hgap : isBlankText gap)
      (hm : ')' ∉ m) (hbehind : isBlankText behind) :
      Respelled s (before ++ front ++ gap ++ '(' :: (m ++ ')' :: (back ++ behind)))

/-- The type with this name among its names. -/
def ofAlias? (name : String) : Option WireType :=
  all.find? (·.aliases.contains name)

/-- The type whose name has these words. -/
def ofWords? (words : List (List Char)) : Option WireType :=
  ofAlias? (String.ofList ([' '].intercalate words))

theorem ofName?_eq (s : List Char) :
    ofName? s = ofWords? (words (dropModifier (trim (lower s)))) :=
  rfl

/-! ### Names -/

theorem mem_all (type : WireType) : type ∈ all := by
  cases type <;> decide

/-- No two types share a name. -/
theorem ofAlias?_eq_some_iff {name : String} {type : WireType} :
    ofAlias? name = some type ↔ name ∈ type.aliases := by
  constructor
  · intro h
    rw [ofAlias?] at h
    simpa using List.find?_some h
  · have hnames : ∀ type ∈ all, ∀ name ∈ type.aliases, ofAlias? name = some type := by
      decide +kernel
    exact hnames type (mem_all type) name

/-- Every name is written with single spaces. -/
theorem ofList_intercalate_words {name : String} {type : WireType} (h : name ∈ type.aliases) :
    String.ofList ([' '].intercalate (words name.toList)) = name := by
  have hnames : ∀ type ∈ all, ∀ name ∈ type.aliases,
      String.ofList ([' '].intercalate (words name.toList)) = name := by
    decide +kernel
  exact hnames type (mem_all type) name h

theorem ofWords?_words_eq_some_iff {s : List Char} {type : WireType} :
    ofWords? (words s) = some type ↔ ∃ name ∈ type.aliases, words s = words name.toList := by
  rw [ofWords?, ofAlias?_eq_some_iff]
  constructor
  · intro h
    refine ⟨_, h, ?_⟩
    rw [String.toList_ofList, words_intercalate fun w hw => isWord_of_mem_words hw]
  · rintro ⟨name, hname, hwords⟩
    rwa [hwords, ofList_intercalate_words hname]

/-! ### Modifiers -/

section modifier

variable {s p m q : List Char}

theorem dropModifier_of_not_mem (hs : '(' ∉ s) : dropModifier s = s := by
  have hnone : s.dropWhile (· != '(') = [] :=
    List.dropWhile_eq_nil_iff.mpr fun c hc => bne_iff_ne.mpr fun h => hs (h ▸ hc)
  rw [dropModifier, hnone]

theorem dropModifier_append (hp : '(' ∉ p) (hm : ')' ∉ m) :
    dropModifier (p ++ '(' :: (m ++ ')' :: q)) = trimEnd p ++ q := by
  have hfront : ∀ c ∈ p, c != '(' := fun c hc => bne_iff_ne.mpr fun h => hp (h ▸ hc)
  have hinside : ∀ c ∈ '(' :: m, c != ')' :=
    List.forall_mem_cons.mpr ⟨by decide, fun c hc => bne_iff_ne.mpr fun h => hm (h ▸ hc)⟩
  have hopen : ∀ c ∈ ('(' :: (m ++ ')' :: q)).head?, (c != '(') = false :=
    fun c hc => Option.mem_some_iff.mp hc ▸ rfl
  have hclose : ∀ c ∈ (')' :: q).head?, (c != ')') = false :=
    fun c hc => Option.mem_some_iff.mp hc ▸ rfl
  rw [dropModifier, dropWhile_append_of_head? hfront hopen, takeWhile_append_of_head? hfront hopen]
  change trimEnd p ++ ((('(' :: m) ++ ')' :: q).dropWhile (· != ')')).drop 1 = _
  rw [dropWhile_append_of_head? hinside hclose, List.drop_one, List.tail_cons]

/-- Trimming does not reach the parentheses from either side. -/
theorem trim_append_modifier (p m q : List Char) :
    trim (p ++ '(' :: (m ++ ')' :: q)) = trimStart p ++ '(' :: (m ++ ')' :: trimEnd q) := by
  have hstart : trimStart (p ++ '(' :: (m ++ ')' :: q)) =
      trimStart p ++ '(' :: (m ++ ')' :: q) :=
    dropWhile_append_of_ends fun c hc => Option.mem_some_iff.mp hc ▸ rfl
  have hend : trimEnd (trimStart p ++ '(' :: (m ++ ')' :: q)) =
      trimStart p ++ '(' :: (m ++ ')' :: trimEnd q) := by
    have hq : q.reverse ++ (')' :: (m.reverse ++ '(' :: (trimStart p).reverse)) =
        (trimStart p ++ '(' :: (m ++ ')' :: q)).reverse := by
      simp
    rw [trimEnd, ← hq, dropWhile_append_of_ends fun c hc => Option.mem_some_iff.mp hc ▸ rfl]
    simp [trimEnd]
  rw [trim, hstart, hend]

/-- The words on the two sides of a modifier. -/
theorem words_dropModifier_trim (hp : '(' ∉ p) (hm : ')' ∉ m) (hq : StartsBlank q) :
    words (dropModifier (trim (p ++ '(' :: (m ++ ')' :: q)))) = words p ++ words q := by
  have hfront : '(' ∉ trimStart p := fun h => hp ((List.dropWhile_sublist _).subset h)
  rw [trim_append_modifier, dropModifier_append hfront hm, ← trim,
    words_append _ hq.trimEnd, words_trim, words_trimEnd]

theorem words_dropModifier_trim_of_not_mem (hs : '(' ∉ s) :
    words (dropModifier (trim s)) = words s := by
  obtain ⟨before, behind, -, -, hsplit⟩ := exists_eq_append_trim s
  have htrim : '(' ∉ trim s := by
    intro h
    apply hs
    rw [hsplit]
    exact List.mem_append_right _ (List.mem_append_left _ h)
  rw [dropModifier_of_not_mem htrim, words_trim]

end modifier

/-! ### Spellings of one name -/

section spelling

variable {s t : List Char}

theorem not_mem_lower_surrounded {before behind : List Char} (hbefore : isBlankText before)
    (hs : '(' ∉ s) (hbehind : isBlankText behind) : '(' ∉ lower (before ++ s ++ behind) := by
  have hblank {blanks : List Char} (hblanks : isBlankText blanks) : '(' ∉ blanks :=
    fun hmem => absurd (List.all_eq_true.mp hblanks _ hmem) (by decide)
  rw [mem_lower_iff (by decide), List.mem_append, List.mem_append]
  simp only [hblank hbefore, hs, hblank hbehind, or_false, not_false_eq_true]

/-- What is looked up for any spelling of a name is what its words say. -/
theorem Respelled.words_eq (hs : '(' ∉ s) (h : Respelled s t) :
    words (dropModifier (trim (lower t))) = words (lower s) := by
  have hstays {t : List Char} (hspaced : Respaced s t) : '(' ∉ t :=
    mt (hspaced.mem_iff (by decide) rfl).mpr hs
  cases h with
  | @plain before t behind hbefore hspaced hbehind =>
      have hopen := not_mem_lower_surrounded hbefore (hstays hspaced) hbehind
      rw [words_dropModifier_trim_of_not_mem hopen, words_lower_append_blank _ hbehind,
        words_lower_blank_append hbefore, hspaced.words_lower_eq]
  | @modified before front gap m back behind hbefore hspaced hback hgap hm hbehind =>
      have hfront : '(' ∉ front := fun h => hstays hspaced (List.mem_append_left _ h)
      have hopen := not_mem_lower_surrounded hbefore hfront hgap
      have hclose : ')' ∉ lower m := mt (mem_lower_iff (by decide)).mp hm
      have hrest : StartsBlank (lower (back ++ behind)) :=
        (hback.append (startsBlank_of_isBlankText hbehind)).lower
      have hlower : lower (before ++ front ++ gap ++ '(' :: (m ++ ')' :: (back ++ behind))) =
          lower (before ++ front ++ gap) ++ '(' :: (lower m ++ ')' :: lower (back ++ behind)) := by
        rw [lower_append, lower_cons, lower_append m, lower_cons]
        rfl
      rw [hlower, words_dropModifier_trim hopen hclose hrest, words_lower_append_blank _ hgap,
        words_lower_blank_append hbefore, words_lower_append_blank _ hbehind,
        ← words_append _ hback.lower, ← lower_append, hspaced.words_lower_eq]

/-- Every spelling of a name without parentheses stands for the same type as the name itself, which
is the type that has a name with these words. -/
theorem ofName?_of_respelled (hs : '(' ∉ s) (h : Respelled s t) :
    ofName? t = ofName? s ∧
      ∀ type, ofName? s = some type ↔
        ∃ name ∈ type.aliases, words (lower s) = words name.toList := by
  have hself : ofName? s = ofWords? (words (lower s)) := by
    rw [ofName?_eq, words_dropModifier_trim_of_not_mem (mt (mem_lower_iff (by decide)).mp hs)]
  refine ⟨?_, fun type => ?_⟩
  · rw [ofName?_eq, h.words_eq hs, hself]
  · rw [hself, ofWords?_words_eq_some_iff]

/-- In other letters and with other blanks, and with a modifier behind the first word that has an
opening parenthesis in it. -/
theorem ofName?_of_respelled_timestamp :
    let s := "timestamp with time zone".toList
    let t := "\u3000TIMEstamp  (3, (a)\u00A0With \t time zone\n".toList
    '(' ∉ s ∧ Respelled s t ∧ ofName? t = some .timestamptz := by
  intro s t
  have hplain : '(' ∉ s := by decide +kernel
  have hspace : IsGap [' '] := by decide
  have hnarrow : IsGap ['\u00A0'] := by decide
  have hwide : IsGap [' ', '\t', ' '] := by decide
  have hfirst : Respaced "timestamp".toList "TIMEstamp".toList := .of_lower_eq (by decide +kernel)
  have hsecond : Respaced "with".toList "With".toList := .of_lower_eq (by decide +kernel)
  have hlast : Respaced "time zone".toList "time zone".toList := .of_lower_eq rfl
  have hback := Respaced.gap hspace hnarrow (hsecond.append (.gap hspace hwide hlast))
  have hrespelled := Respelled.modified (show isBlankText ['\u3000'] by decide)
    (hfirst.append hback) (hnarrow.startsBlank_append _) (show isBlankText [' ', ' '] by decide)
    (show ')' ∉ "3, (a".toList by decide) (show isBlankText ['\n'] by decide)
  have hs : "timestamp".toList ++ ([' '] ++ ("with".toList ++ ([' '] ++ "time zone".toList))) =
      s := by
    decide +kernel
  have ht : ['\u3000'] ++ "TIMEstamp".toList ++ [' ', ' '] ++ '(' :: ("3, (a".toList ++ ')' ::
      (['\u00A0'] ++ ("With".toList ++ ([' ', '\t', ' '] ++ "time zone".toList)) ++ ['\n'])) =
        t := by
    decide +kernel
  rw [hs, ht] at hrespelled
  obtain ⟨hsame, hname⟩ := ofName?_of_respelled hplain hrespelled
  refine ⟨hplain, hrespelled, hsame.trans ((hname .timestamptz).mpr ?_)⟩
  exact ⟨"timestamp with time zone", by decide, by decide +kernel⟩

end spelling

end ScalarWire.WireType
