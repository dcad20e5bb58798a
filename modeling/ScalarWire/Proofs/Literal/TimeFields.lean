import ScalarWire.Proofs.Literal.Time
import ScalarWire.Proofs.Text.Blank
import ScalarWire.Proofs.Text.Letter

/-!
# The fields of a time

A text that begins with a time is spelled by its fields one behind the other: hour and minute, then
perhaps seconds, which alone can have a fraction, and perhaps a meridiem. Where nothing is left of
the text, these fields are the ones that are found.
-/

namespace ScalarWire.Literal

open Text

/-- One or two decimal digits of any script. -/
def IsDigitPair (digits : List Char) : Prop :=
  digits ≠ [] ∧ digits.length ≤ 2 ∧ ∀ c ∈ digits, isDecimalDigit c

instance (digits : List Char) : Decidable (IsDigitPair digits) :=
  decidable_of_iff (digits ≠ [] ∧ digits.length ≤ 2 ∧ digits.all isDecimalDigit)
    (by rw [IsDigitPair, List.all_eq_true])

/-- The spellings of seconds behind a colon, with the digits of a fraction behind a point or a
comma. -/
inductive SpellsSeconds : Option (List Char) → Option (List Char) → List Char → Prop where
  | none : SpellsSeconds none none []
  | whole {digits : List Char} (hdigits : IsDigitPair digits) :
      SpellsSeconds (some digits) none (':' :: digits)
  | pointed {digits fraction : List Char} {mark : Char} (hdigits : IsDigitPair digits)
      (hmark : mark = '.' ∨ mark = ',') (hne : fraction ≠ [])
      (hfraction : ∀ c ∈ fraction, isDecimalDigit c) :
      SpellsSeconds (some digits) (some fraction) (':' :: (digits ++ mark :: fraction))

def Meridiem.word : Meridiem → List Char
  | am => "am".toList
  | pm => "pm".toList

/-- The spellings of a meridiem, in any letter case behind any blanks. -/
inductive SpellsMeridiem : Option Meridiem → List Char → Prop where
  | none : SpellsMeridiem none []
  | some {meridiem : Meridiem} {blanks word : List Char} (hblanks : isBlankText blanks)
      (hword : sameFold word meridiem.word) : SpellsMeridiem (some meridiem) (blanks ++ word)

/-- A text that begins with these fields of a time and goes on with the rest. -/
def TimeText.Spells (t : TimeText) (s : List Char) : Prop :=
  IsDigitPair t.hour ∧ IsDigitPair t.minute ∧ ∃ seconds meridiem,
    s = t.hour ++ ':' :: (t.minute ++ (seconds ++ (meridiem ++ t.rest))) ∧
      SpellsSeconds t.second? t.fraction? seconds ∧ SpellsMeridiem t.meridiem? meridiem

section meridiem

variable {s word rest text : List Char} {meridiem : Meridiem} {meridiem? : Option Meridiem}

theorem meridiemOf?_eq_some_iff :
    meridiemOf? word = some meridiem ↔ sameFold word meridiem.word := by
  have hword : ∀ m : Meridiem, sameFold word m.word ↔ lower word = m.word := by
    intro m
    rw [sameFold, beq_iff_eq]
    cases m <;> rfl
  rw [hword]
  constructor
  · intro h
    rcases lower_of_meridiemOf? h with hlower | hlower
    · rw [meridiemOf?, hlower] at h
      cases h
      exact hlower
    · rw [meridiemOf?, hlower] at h
      cases h
      exact hlower
  · intro h
    rw [meridiemOf?, h]
    cases meridiem <;> rfl

theorem exists_of_splitOptional_splitMeridiem?
    (h : splitOptional splitMeridiem? s = (meridiem?, rest)) :
    ∃ text, s = text ++ rest ∧ SpellsMeridiem meridiem? text := by
  cases hs : splitMeridiem? s with
  | none =>
      rw [splitOptional_of_none hs] at h
      cases h
      exact ⟨[], rfl, .none⟩
  | some found =>
      rw [splitOptional_of_some hs] at h
      cases h
      rw [splitMeridiem?_eq] at hs
      obtain ⟨m, hword, hs⟩ := Option.bind_eq_some_iff.mp hs
      split_ifs at hs
      cases hs
      obtain ⟨blanks, hblanks, hblank⟩ := exists_eq_append_trimStart s
      refine ⟨blanks ++ (trimStart s).take 2, ?_, .some hblanks (meridiemOf?_eq_some_iff.mp hword)⟩
      rw [List.append_assoc, List.take_append_drop, ← hblank]

/-- What begins the spelling of a meridiem, if anything does. -/
theorem head_of_sameFold (h : sameFold word meridiem.word) :
    word.length = 2 ∧ ∀ c ∈ word.head?, c.toLower = 'a' ∨ c.toLower = 'p' := by
  have hlower : lower word = lower meridiem.word := beq_iff_eq.mp h
  constructor
  · rw [← length_lower word, hlower]
    cases meridiem <;> rfl
  · intro c hc
    have hhead : c.toLower ∈ (lower meridiem.word).head? := by
      rw [← hlower, lower, List.head?_map]
      exact Option.mem_map_of_mem _ hc
    cases meridiem with
    | am => exact Or.inl (Option.mem_some.mp hhead).symm
    | pm => exact Or.inr (Option.mem_some.mp hhead).symm

theorem splitOptional_splitMeridiem?_of_spells (h : SpellsMeridiem meridiem? text) :
    splitOptional splitMeridiem? text = (meridiem?, []) := by
  cases h with
  | none => rfl
  | some hblanks hword =>
      obtain ⟨hlen, hhead⟩ := head_of_sameFold hword
      apply splitOptional_of_some
      rw [splitMeridiem?_eq, trimStart_append_of_blank hblanks, trimStart_eq_self,
        List.take_of_length_le hlen.le, List.drop_of_length_le hlen.le,
        meridiemOf?_eq_some_iff.mpr hword]
      · rfl
      · intro c hc
        rw [← isBlank_toLower]
        rcases hhead c hc with hletter | hletter <;> rw [hletter] <;> decide

end meridiem

/-- What may follow the digits of a time without going on with its fields. -/
structure EndsFields (text : List Char) : Prop where
  endsDigits : EndsDigits text
  not_mark : ∀ c ∈ text.head?, c ≠ ':' ∧ c ≠ '.' ∧ c ≠ ','

theorem endsFields_of_spellsMeridiem {meridiem? : Option Meridiem} {text : List Char}
    (h : SpellsMeridiem meridiem? text) : EndsFields text := by
  have hclass : ∀ c ∈ text.head?, isBlank c ∨ c.toLower = 'a' ∨ c.toLower = 'p' := by
    intro c hc
    cases h with
    | none => cases hc
    | @some _ blanks word hblanks hword =>
        cases blanks with
        | nil => exact Or.inr ((head_of_sameFold hword).2 c hc)
        | cons d blanks =>
            cases hc
            exact Or.inl (List.all_eq_true.mp hblanks c List.mem_cons_self)
  constructor
  · intro c hc
    rcases hclass c hc with hblank | hletter | hletter
    · exact (classes_of_isBlank hblank).1
    · rw [← isDecimalDigit_toLower, hletter]
      decide
    · rw [← isDecimalDigit_toLower, hletter]
      decide
  · intro c hc
    refine ⟨?_, ?_, ?_⟩ <;> rintro rfl <;> exact absurd (hclass _ hc) (by decide)

section seconds

variable {s rest tail digits : List Char} {second? fraction? : Option (List Char)}

theorem eq_of_splitSecond? (h : splitSecond? s = some (digits, rest)) :
    s = ':' :: (digits ++ rest) ∧ digits.length ≤ 2 ∧ digits ≠ [] ∧
      ∀ c ∈ digits, isDecimalDigit c := by
  unfold splitSecond? at h
  split at h
  · next s' =>
      rcases hs : splitDigits 2 s' with ⟨digits', rest'⟩
      simp only [hs] at h
      split_ifs at h with hne
      cases h
      obtain ⟨rfl, hlen, hdigits⟩ := eq_of_splitDigits hs
      exact ⟨rfl, hlen, hne, hdigits⟩
  · cases h

theorem eq_of_splitFraction? (h : splitFraction? s = some (digits, rest)) :
    ∃ mark, s = mark :: (digits ++ rest) ∧ (mark = '.' ∨ mark = ',') ∧ digits ≠ [] ∧
      ∀ c ∈ digits, isDecimalDigit c := by
  cases s with
  | nil => cases h
  | cons mark s =>
      rcases hs : splitDigitRun s with ⟨digits', rest'⟩
      simp only [splitFraction?, hs] at h
      obtain ⟨⟨hmark, hne⟩, h⟩ := Option.ite_none_right_eq_some.mp h
      cases h
      obtain ⟨rfl, hdigits⟩ := eq_of_splitDigitRun hs
      exact ⟨mark, rfl, hmark, hne, hdigits⟩

/-- The digits of the seconds and of their fraction, and what follows. -/
def splitSeconds (s : List Char) : Option (List Char) × Option (List Char) × List Char :=
  let (second?, s) := splitOptional splitSecond? s
  let (fraction?, s) := if second?.isSome then splitOptional splitFraction? s else (none, s)
  (second?, fraction?, s)

theorem exists_of_splitSeconds (h : splitSeconds s = (second?, fraction?, rest)) :
    ∃ text, s = text ++ rest ∧ SpellsSeconds second? fraction? text := by
  cases hsecond : splitSecond? s with
  | none =>
      simp only [splitSeconds, splitOptional_of_none hsecond] at h
      cases h
      exact ⟨[], rfl, .none⟩
  | some found =>
      obtain ⟨digits, mid⟩ := found
      obtain ⟨rfl, hlen, hne, hdigits⟩ := eq_of_splitSecond? hsecond
      have hpair : IsDigitPair digits := ⟨hne, hlen, hdigits⟩
      simp only [splitSeconds, splitOptional_of_some hsecond, Option.isSome_some, if_true] at h
      cases hfraction : splitFraction? mid with
      | none =>
          rw [splitOptional_of_none hfraction] at h
          cases h
          exact ⟨':' :: digits, rfl, .whole hpair⟩
      | some found =>
          obtain ⟨fraction, left⟩ := found
          obtain ⟨mark, rfl, hmark, hne', hdigits'⟩ := eq_of_splitFraction? hfraction
          rw [splitOptional_of_some hfraction] at h
          cases h
          exact ⟨_, by simp, .pointed hpair hmark hne' hdigits'⟩

theorem splitDigits_pair (h : IsDigitPair digits) (htail : EndsDigits tail) :
    splitDigits 2 (digits ++ tail) = (digits, tail) :=
  splitDigits_append h.2.2 h.2.1 fun _ => htail

theorem splitSecond?_pair (h : IsDigitPair digits) (htail : EndsDigits tail) :
    splitSecond? (':' :: (digits ++ tail)) = some (digits, tail) := by
  simp only [splitSecond?, splitDigits_pair h htail]
  exact if_neg h.1

namespace EndsFields

theorem splitFraction? (h : EndsFields tail) : splitFraction? tail = none := by
  cases tail with
  | nil => rfl
  | cons c tail => exact splitFraction?_cons (h.not_mark c rfl).2.1 (h.not_mark c rfl).2.2

theorem splitSecond? (h : EndsFields tail) : splitSecond? tail = none := by
  unfold Literal.splitSecond?
  split
  · exact absurd rfl (h.not_mark ':' rfl).1
  · rfl

end EndsFields

/-- No digit begins the spelling of seconds or what follows it. -/
theorem SpellsSeconds.endsDigits_append (h : SpellsSeconds second? fraction? s)
    (htail : EndsFields tail) : EndsDigits (s ++ tail) := by
  cases h with
  | none => exact htail.endsDigits
  | whole => exact endsDigits_cons (by decide)
  | pointed => exact endsDigits_cons (by decide)

theorem SpellsSeconds.splitSeconds_append (h : SpellsSeconds second? fraction? s)
    (htail : EndsFields tail) : splitSeconds (s ++ tail) = (second?, fraction?, tail) := by
  cases h with
  | none =>
      simp only [splitSeconds, List.nil_append, splitOptional_of_none htail.splitSecond?]
      rfl
  | whole hpair =>
      simp only [splitSeconds, List.cons_append,
        splitOptional_of_some (splitSecond?_pair hpair htail.endsDigits),
        splitOptional_of_none htail.splitFraction?]
      rfl
  | @pointed digits fraction mark hpair hmark hne hfraction =>
      have hends : EndsDigits (mark :: (fraction ++ tail)) := by
        rcases hmark with rfl | rfl <;> exact endsDigits_cons (by decide)
      have hsplit : splitFraction? (mark :: (fraction ++ tail)) = some (fraction, tail) := by
        simp only [splitFraction?, splitDigitRun_append hfraction htail.endsDigits]
        exact if_pos ⟨hmark, hne⟩
      simp only [splitSeconds, List.cons_append, List.append_assoc,
        splitOptional_of_some (splitSecond?_pair hpair hends), splitOptional_of_some hsplit]
      rfl

end seconds

variable {s : List Char} {t : TimeText}

theorem timeText?_eq (s : List Char) :
    timeText? s =
      let (hour, behind) := splitDigits 2 s
      match behind with
      | ':' :: behind =>
        let (minute, left) := splitDigits 2 behind
        if hour = [] ∨ minute = [] then none
        else
          let (second?, fraction?, left) := splitSeconds left
          let (meridiem?, rest) := splitOptional splitMeridiem? left
          some ⟨hour, minute, second?, fraction?, meridiem?, rest⟩
      | _ => none := rfl

theorem spells_of_timeText? (h : timeText? s = some t) : t.Spells s := by
  rcases hhour : splitDigits 2 s with ⟨hour, behind⟩
  obtain ⟨rfl, hlen, hdigits⟩ := eq_of_splitDigits hhour
  simp only [timeText?_eq, hhour] at h
  split at h
  · next behind =>
      rcases hminute : splitDigits 2 behind with ⟨minute, left⟩
      obtain ⟨rfl, hlen', hdigits'⟩ := eq_of_splitDigits hminute
      rcases hseconds : splitSeconds left with ⟨second?, fraction?, left'⟩
      obtain ⟨seconds, rfl, hspells⟩ := exists_of_splitSeconds hseconds
      rcases hmeridiem : splitOptional splitMeridiem? left' with ⟨meridiem?, rest⟩
      obtain ⟨text, rfl, hspells'⟩ := exists_of_splitOptional_splitMeridiem? hmeridiem
      simp only [hminute, hseconds, hmeridiem] at h
      obtain ⟨hne, h⟩ := Option.ite_none_left_eq_some.mp h
      cases h
      obtain ⟨hhour, hminute⟩ := not_or.mp hne
      exact ⟨⟨hhour, hlen, hdigits⟩, ⟨hminute, hlen', hdigits'⟩, seconds, text, rfl, hspells,
        hspells'⟩
  · cases h

/-- The fields found in a text that they make up are the ones that spell it. -/
theorem timeText?_eq_some_iff (hrest : t.rest = []) : timeText? s = some t ↔ t.Spells s := by
  refine ⟨spells_of_timeText?, ?_⟩
  rintro ⟨hhour, hminute, seconds, meridiem, rfl, hseconds, hmeridiem⟩
  have hends := endsFields_of_spellsMeridiem hmeridiem
  rw [hrest, List.append_nil, timeText?_eq, splitDigits_pair hhour (endsDigits_cons (by decide))]
  simp only [splitDigits_pair hminute (hseconds.endsDigits_append hends),
    hseconds.splitSeconds_append hends, splitOptional_splitMeridiem?_of_spells hmeridiem]
  rw [if_neg (not_or.mpr ⟨hhour.1, hminute.1⟩)]
  cases t
  cases hrest
  rfl

end ScalarWire.Literal
