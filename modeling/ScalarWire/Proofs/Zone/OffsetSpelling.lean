import Mathlib.Algebra.Group.Nat.Even
import ScalarWire.Proofs.Zone.Token

/-!
# The spellings of a numeric offset

Behind its sign an offset is spelled by an hour of one or two digits and then by at most two fields
of two digits, each with a colon in front or without. The number of digits tells how many of them
belong to the hour, so no text is spelled by two offsets, and reading finds the one that spells it.
-/

namespace ScalarWire.Offset

/-- This many ASCII digits for a number. -/
def SpellsField (width n : Nat) (digits : List Char) : Prop :=
  digits.length = width ∧ Numeral.read? digits = some n

/-- Two digits, with a colon in front or without. -/
inductive SpellsPair (n : Nat) : List Char → Prop where
  | plain {digits : List Char} (h : SpellsField 2 n digits) : SpellsPair n digits
  | colon {digits : List Char} (h : SpellsField 2 n digits) : SpellsPair n (':' :: digits)

/-- What stands behind the hour: minutes and seconds, minutes alone, or nothing. What is left out is
zero. -/
inductive SpellsMinutes : Nat → Nat → List Char → Prop where
  | nothing : SpellsMinutes 0 0 []
  | minutes {m : Nat} {s : List Char} (h : SpellsPair m s) : SpellsMinutes m 0 s
  | seconds {m n : Nat} {s s' : List Char} (h : SpellsPair m s) (h' : SpellsPair n s') :
      SpellsMinutes m n (s ++ s')

/-- Hour, minutes and seconds, with an hour of one digit or of two. -/
def SpellsClock (h m n : Nat) (s : List Char) : Prop :=
  ∃ width digits rest, (width = 1 ∨ width = 2) ∧ s = digits ++ rest ∧
    SpellsField width h digits ∧ SpellsMinutes m n rest

/-- The spellings of a number of seconds, without a sign. -/
def SpellsDisplacement (seconds : Nat) (s : List Char) : Prop :=
  ∃ h m n, SpellsClock h m n s ∧ m < 60 ∧ n < 60 ∧ seconds = h * 3600 + m * 60 + n

section field

variable {width n : Nat} {digits s rest : List Char}

theorem SpellsField.isDigit (h : SpellsField width n digits) : ∀ c ∈ digits, c.isDigit :=
  (Numeral.read?_eq_some_iff.mp h.2).2.1

theorem spellsField_padded (hwidth : 0 < width) (hn : n < 10 ^ width) :
    SpellsField width n (Numeral.padded width n) :=
  ⟨Numeral.length_padded hwidth hn, Numeral.read?_padded width n⟩

end field

section pair

variable {n : Nat} {s rest : List Char}

/-- Two digits at the start of a text. -/
theorem splitPlain_eq_some_iff :
    (if (s.take 2).length = 2 then (Numeral.read? (s.take 2)).map fun n => (n, s.drop 2)
      else none) = some (n, rest) ↔ ∃ digits, s = digits ++ rest ∧ SpellsField 2 n digits := by
  constructor
  · intro h
    split_ifs at h with hlen
    obtain ⟨m, hread, heq⟩ := Option.map_eq_some_iff.mp h
    cases heq
    exact ⟨s.take 2, (List.take_append_drop 2 s).symm, hlen, hread⟩
  · rintro ⟨digits, rfl, hlen, hread⟩
    rw [List.take_left' hlen, List.drop_left' hlen, if_pos hlen, hread]
    rfl

theorem splitPair?_eq_some_iff :
    splitPair? s = some (n, rest) ↔ ∃ pair, s = pair ++ rest ∧ SpellsPair n pair := by
  constructor
  · intro h
    dsimp only [splitPair?] at h
    split at h
    · obtain ⟨digits, rfl, hdigits⟩ := splitPlain_eq_some_iff.mp h
      exact ⟨':' :: digits, rfl, .colon hdigits⟩
    · obtain ⟨digits, rfl, hdigits⟩ := splitPlain_eq_some_iff.mp h
      exact ⟨digits, rfl, .plain hdigits⟩
  · rintro ⟨pair, rfl, hpair⟩
    cases hpair with
    | colon hdigits => exact splitPlain_eq_some_iff.mpr ⟨_, rfl, hdigits⟩
    | plain hdigits =>
        have hne : pair ≠ [] := List.ne_nil_of_length_eq_add_one hdigits.1
        obtain ⟨c, digits, rfl⟩ := List.exists_cons_of_ne_nil hne
        have hcolon : c ≠ ':' := by
          rintro rfl
          exact absurd (hdigits.isDigit _ List.mem_cons_self) (by decide)
        rw [List.cons_append, splitPair?_of_ne_colon hcolon]
        exact splitPlain_eq_some_iff.mpr ⟨c :: digits, rfl, hdigits⟩

theorem SpellsPair.splitPair?_append (h : SpellsPair n s) (rest : List Char) :
    splitPair? (s ++ rest) = some (n, rest) :=
  splitPair?_eq_some_iff.mpr ⟨s, rfl, h⟩

theorem SpellsPair.splitPair? (h : SpellsPair n s) : splitPair? s = some (n, []) := by
  have hsplit := h.splitPair?_append []
  rwa [List.append_nil] at hsplit

theorem SpellsPair.ne_nil (h : SpellsPair n s) : s ≠ [] := by
  cases h with
  | plain hdigits => exact List.ne_nil_of_length_eq_add_one hdigits.1
  | colon => exact List.cons_ne_nil _ _

end pair

section clock

variable {width h m n : Nat} {s : List Char}

theorem readMinutes?_of_ne_nil (hne : s ≠ []) :
    readMinutes? s =
      match splitPair? s with
      | none => none
      | some (minutes, []) => some (minutes, 0)
      | some (minutes, s) =>
        match splitPair? s with
        | some (seconds, []) => some (minutes, seconds)
        | _ => none := by
  cases s with
  | nil => exact absurd rfl hne
  | cons c s => rfl

theorem readMinutes?_eq_some_iff : readMinutes? s = some (m, n) ↔ SpellsMinutes m n s := by
  constructor
  · intro hread
    unfold readMinutes? at hread
    split at hread
    · cases hread
      exact .nothing
    · split at hread
      · cases hread
      · next hpair =>
          cases hread
          obtain ⟨pair, rfl, hfirst⟩ := splitPair?_eq_some_iff.mp hpair
          rw [List.append_nil]
          exact .minutes hfirst
      · next hpair =>
          split at hread
          · next hpair' =>
              cases hread
              obtain ⟨pair, rfl, hfirst⟩ := splitPair?_eq_some_iff.mp hpair
              obtain ⟨pair', rfl, hsecond⟩ := splitPair?_eq_some_iff.mp hpair'
              rw [List.append_nil]
              exact .seconds hfirst hsecond
          · cases hread
  · intro hspells
    cases hspells with
    | nothing => rfl
    | minutes hfirst => rw [readMinutes?_of_ne_nil hfirst.ne_nil, hfirst.splitPair?]
    | @seconds _ _ first second hfirst hsecond =>
        have hpair := hsecond.splitPair?
        obtain ⟨c, second, rfl⟩ := List.exists_cons_of_ne_nil hsecond.ne_nil
        rw [readMinutes?_of_ne_nil (List.append_ne_nil_of_left_ne_nil hfirst.ne_nil _),
          hfirst.splitPair?_append]
        dsimp only
        rw [hpair]

theorem readClock?_eq_some_iff :
    readClock? width s = some (h, m, n) ↔
      ∃ digits rest, s = digits ++ rest ∧ SpellsField width h digits ∧ SpellsMinutes m n rest := by
  unfold readClock?
  constructor
  · intro hread
    split_ifs at hread with hlen
    obtain ⟨hours, hhours, hread⟩ := Option.bind_eq_some_iff.mp hread
    obtain ⟨⟨minutes, seconds⟩, hminutes, heq⟩ := Option.map_eq_some_iff.mp hread
    cases heq
    refine ⟨s.take width, s.drop width, (List.take_append_drop width s).symm, ⟨?_, hhours⟩,
      readMinutes?_eq_some_iff.mp hminutes⟩
    rw [List.length_take]
    omega
  · rintro ⟨digits, rest, rfl, ⟨hlen, hhours⟩, hminutes⟩
    have hlong : ¬(digits ++ rest).length < width := by
      rw [List.length_append]
      omega
    rw [if_neg hlong, List.take_left' hlen, List.drop_left' hlen, hhours, Option.bind_some,
      readMinutes?_eq_some_iff.mpr hminutes]
    rfl

theorem SpellsField.countP (hfield : SpellsField width n s) : s.countP Char.isDigit = width := by
  rw [List.countP_eq_length.mpr hfield.isDigit, hfield.1]

theorem SpellsPair.countP (hpair : SpellsPair n s) : s.countP Char.isDigit = 2 := by
  cases hpair with
  | plain hdigits => exact hdigits.countP
  | colon hdigits =>
      rw [List.countP_cons_of_neg (by decide)]
      exact hdigits.countP

/-- Minutes and seconds have an even number of digits. -/
theorem SpellsMinutes.even_countP (hminutes : SpellsMinutes m n s) :
    Even (s.countP Char.isDigit) := by
  cases hminutes with
  | nothing => exact Even.zero
  | minutes hpair =>
      rw [hpair.countP]
      exact even_two
  | seconds hpair hpair' =>
      rw [List.countP_append, hpair.countP, hpair'.countP]
      decide

/-- An hour of two digits is tried first. If one of a single digit spells the text, then two digits
do not, whatever follows them. -/
theorem readClock?_or_eq_some_iff :
    (readClock? 2 s <|> readClock? 1 s) = some (h, m, n) ↔ SpellsClock h m n s := by
  rw [Option.orElse_eq_orElse, Option.orElse_eq_or, Option.or_eq_some_iff]
  constructor
  · rintro (hread | ⟨-, hread⟩)
    · obtain ⟨digits, rest, hs, hspells⟩ := readClock?_eq_some_iff.mp hread
      exact ⟨2, digits, rest, Or.inr rfl, hs, hspells⟩
    · obtain ⟨digits, rest, hs, hspells⟩ := readClock?_eq_some_iff.mp hread
      exact ⟨1, digits, rest, Or.inl rfl, hs, hspells⟩
  · rintro ⟨width, digits, rest, rfl | rfl, hs, hhour, hminutes⟩
    · refine Or.inr ⟨?_, readClock?_eq_some_iff.mpr ⟨digits, rest, hs, hhour, hminutes⟩⟩
      rw [Option.eq_none_iff_forall_ne_some]
      rintro ⟨h', m', n'⟩ hread
      obtain ⟨digits', rest', hs', hhour', hminutes'⟩ := readClock?_eq_some_iff.mp hread
      have hcount : digits.countP Char.isDigit + rest.countP Char.isDigit =
          digits'.countP Char.isDigit + rest'.countP Char.isDigit := by
        rw [← List.countP_append, ← List.countP_append, ← hs, ← hs']
      rw [hhour.countP, hhour'.countP] at hcount
      have heven := Nat.even_iff.mp hminutes.even_countP
      have heven' := Nat.even_iff.mp hminutes'.even_countP
      omega
    · exact Or.inl (readClock?_eq_some_iff.mpr ⟨digits, rest, hs, hhour, hminutes⟩)

end clock

section sign

variable {negative : Bool} {s : List Char} {east : Int}

def signChar (negative : Bool) : Char :=
  if negative then '-' else '+'

theorem readSeconds?_signChar (negative : Bool) (s : List Char) :
    readSeconds? (signChar negative :: s) =
      (readClock? 2 s <|> readClock? 1 s).bind fun clock =>
        if 59 < clock.2.1 ∨ 59 < clock.2.2 then none
        else some (Numeral.negateIf negative (clock.1 * 3600 + clock.2.1 * 60 + clock.2.2)) := by
  cases negative <;>
    simp only [readSeconds?, signChar] <;>
    cases readClock? 2 s <|> readClock? 1 s <;> rfl

/-- Behind a sign exactly the spelled numbers of seconds are read. -/
theorem readSeconds?_signChar_eq_some_iff :
    readSeconds? (signChar negative :: s) = some east ↔
      ∃ seconds, SpellsDisplacement seconds s ∧ east = Numeral.negateIf negative seconds := by
  rw [readSeconds?_signChar, Option.bind_eq_some_iff]
  constructor
  · rintro ⟨⟨h, m, n⟩, hclock, heast⟩
    dsimp only at heast
    split_ifs at heast with hlimits
    obtain ⟨hm, hn⟩ := not_or.mp hlimits
    exact ⟨_, ⟨h, m, n, readClock?_or_eq_some_iff.mp hclock, by omega, by omega, rfl⟩,
      (Option.some.inj heast).symm⟩
  · rintro ⟨_, ⟨h, m, n, hclock, hm, hn, rfl⟩, rfl⟩
    exact ⟨_, readClock?_or_eq_some_iff.mpr hclock, if_neg (by dsimp only; omega)⟩

theorem SpellsDisplacement.readSeconds? {seconds : Nat} (h : SpellsDisplacement seconds s)
    (negative : Bool) :
    Offset.readSeconds? (signChar negative :: s) = some (Numeral.negateIf negative seconds) :=
  readSeconds?_signChar_eq_some_iff.mpr ⟨seconds, h, rfl⟩

end sign

end ScalarWire.Offset
