import Mathlib.Tactic.SplitIfs
import ScalarWire.Proofs.Number.Numeral
import ScalarWire.Proofs.Text.Blank
import ScalarWire.Proofs.Zone.Table

/-!
# Written offsets

An offset from UTC is written as a sign and its hours, and then its minutes and seconds unless these
are zero. It resolves to those seconds, and the table has no say in it.
-/

namespace ScalarWire

namespace Offset

/-- How an offset is written: to the second, to the minute with a colon or without, or to the
hour. -/
inductive Spelling where
  | seconds | minutes | compactMinutes | hours
  deriving DecidableEq, Repr

namespace Spelling

/-- What a spelling leaves out of a number of seconds is zero. -/
def Fits : Spelling → Nat → Prop
  | seconds, _ => True
  | minutes, n | compactMinutes, n => n % 60 = 0
  | hours, n => n % 3600 = 0

instance (form : Spelling) (n : Nat) : Decidable (form.Fits n) := by
  cases form <;> unfold Fits <;> infer_instance

/-- What stands behind the hours. -/
def minutesText : Spelling → Nat → List Char
  | seconds, n => ':' :: Numeral.padded 2 (n / 60 % 60) ++ ':' :: Numeral.padded 2 (n % 60)
  | minutes, n => ':' :: Numeral.padded 2 (n / 60 % 60)
  | compactMinutes, n => Numeral.padded 2 (n / 60 % 60)
  | hours, _ => []

def text (form : Spelling) (negative : Bool) (n : Nat) : List Char :=
  (if negative then '-' else '+') :: (Numeral.padded 2 (n / 3600) ++ form.minutesText n)

end Spelling

theorem splitPair?_of_ne_colon {c : Char} {s : List Char} (hc : c ≠ ':') :
    splitPair? (c :: s) =
      if ((c :: s).take 2).length = 2 then
        (Numeral.read? ((c :: s).take 2)).map fun n => (n, (c :: s).drop 2)
      else none := by
  dsimp only [splitPair?]
  split
  · next h => exact absurd (List.cons.inj h).1 hc
  · rfl

section Read

variable {n : Nat} (hn : n < 100) (rest : List Char)

include hn

theorem length_padded_two : (Numeral.padded 2 n).length = 2 :=
  Numeral.length_padded (by decide) hn

theorem take_padded : (Numeral.padded 2 n ++ rest).take 2 = Numeral.padded 2 n :=
  List.take_left' (length_padded_two hn)

theorem drop_padded : (Numeral.padded 2 n ++ rest).drop 2 = rest :=
  List.drop_left' (length_padded_two hn)

theorem splitPair?_colon : splitPair? (':' :: (Numeral.padded 2 n ++ rest)) = some (n, rest) := by
  simp only [splitPair?, take_padded hn, drop_padded hn, length_padded_two hn, if_true,
    Numeral.read?_padded, Option.map_some]

/-- No digit is a colon, so two digits are read as such without one. -/
theorem splitPair?_padded : splitPair? (Numeral.padded 2 n ++ rest) = some (n, rest) := by
  obtain ⟨c, digits, hpadded⟩ := List.exists_cons_of_ne_nil (Numeral.padded_ne_nil 2 n)
  have hmem : c ∈ Numeral.padded 2 n := by
    rw [hpadded]
    exact List.mem_cons_self
  have hcolon : c ≠ ':' := by
    have hc := Numeral.isDigit_of_mem_padded c hmem
    rintro rfl
    exact absurd hc (by decide)
  have htake := take_padded hn rest
  have hdrop := drop_padded hn rest
  have hread := Numeral.read?_padded 2 n
  have hlen := length_padded_two hn
  rw [hpadded] at htake hdrop hread hlen ⊢
  rw [List.cons_append] at htake hdrop ⊢
  rw [splitPair?_of_ne_colon hcolon, htake, hdrop, hread, if_pos hlen, Option.map_some]

theorem readClock?_padded :
    readClock? 2 (Numeral.padded 2 n ++ rest) =
      (readMinutes? rest).map fun (minutes, seconds) => (n, minutes, seconds) := by
  have hlen : ¬(Numeral.padded 2 n ++ rest).length < 2 := by
    rw [List.length_append, length_padded_two hn]
    omega
  rw [readClock?, if_neg hlen, take_padded hn, drop_padded hn, Numeral.read?_padded,
    Option.bind_some]

end Read

namespace Spelling

variable {form : Spelling} {n : Nat}

theorem readMinutes?_minutesText (h : form.Fits n) :
    readMinutes? (form.minutesText n) = some (n / 60 % 60, n % 60) := by
  have hminutes : n / 60 % 60 < 100 := by omega
  have hseconds : n % 60 < 100 := by omega
  cases form with
  | seconds =>
      have hfirst := splitPair?_colon hminutes (':' :: Numeral.padded 2 (n % 60))
      have hsecond := splitPair?_colon hseconds []
      rw [List.append_nil] at hsecond
      simp only [minutesText, List.cons_append, readMinutes?, hfirst, hsecond]
  | minutes =>
      have hzero : n % 60 = 0 := h
      have hfirst := splitPair?_colon hminutes []
      rw [List.append_nil] at hfirst
      simp only [minutesText, readMinutes?, hfirst, hzero]
  | compactMinutes =>
      have hzero : n % 60 = 0 := h
      have hfirst := splitPair?_padded hminutes []
      rw [List.append_nil] at hfirst
      obtain ⟨c, digits, hpadded⟩ :=
        List.exists_cons_of_ne_nil (Numeral.padded_ne_nil 2 (n / 60 % 60))
      simp only [minutesText, hzero]
      rw [hpadded] at hfirst ⊢
      simp only [readMinutes?, hfirst]
  | hours =>
      have hzero : n % 3600 = 0 := h
      have hparts : n / 60 % 60 = 0 ∧ n % 60 = 0 := by omega
      rw [hparts.1, hparts.2]
      rfl

/-- An offset with an hour of two digits is read as the seconds that it was written from. -/
theorem readSeconds?_text (negative : Bool) (h : form.Fits n) (hn : n < 360000) :
    readSeconds? (form.text negative n) = some (Numeral.negateIf negative n) := by
  have hhour : n / 3600 < 100 := by omega
  have hclock : (readClock? 2 (Numeral.padded 2 (n / 3600) ++ form.minutesText n) <|>
      readClock? 1 (Numeral.padded 2 (n / 3600) ++ form.minutesText n)) =
        some (n / 3600, n / 60 % 60, n % 60) := by
    rw [readClock?_padded hhour, readMinutes?_minutesText h]
    rfl
  have hparts : n / 3600 * 3600 + n / 60 % 60 * 60 + n % 60 = n := by omega
  have hlimits : ¬(59 < n / 60 % 60 ∨ 59 < n % 60) := by omega
  cases negative <;>
    simp only [text, readSeconds?, hclock, hparts, if_neg hlimits] <;> rfl

theorem natAbs_negateIf (negative : Bool) (n : Nat) : (Numeral.negateIf negative n).natAbs = n := by
  cases negative
  · exact Int.natAbs_natCast n
  · exact (Int.natAbs_neg _).trans (Int.natAbs_natCast n)

theorem ofDisplacement?_negateIf (negative : Bool) (hn : n ≤ maxDisplacement) :
    ∃ offset : Offset, ofDisplacement? (Numeral.negateIf negative n) = some offset ∧
      offset.east = Numeral.negateIf negative n := by
  rw [maxDisplacement] at hn
  have habs := natAbs_negateIf negative n
  have hday : -86400 < Numeral.negateIf negative n ∧ Numeral.negateIf negative n < 86400 := by
    omega
  refine ⟨⟨_, hday⟩, ?_, rfl⟩
  rw [ofDisplacement?, if_pos (by rw [habs, maxDisplacement]; omega), ofSeconds?, dif_pos hday]

/-- Every spelling ends in a field of two digits. -/
theorem exists_text_eq (form : Spelling) (negative : Bool) (n : Nat) :
    ∃ mid k, form.text negative n =
      (if negative then '-' else '+') :: (mid ++ Numeral.padded 2 k) := by
  cases form with
  | seconds =>
      exact ⟨Numeral.padded 2 (n / 3600) ++ ':' :: Numeral.padded 2 (n / 60 % 60) ++ [':'],
        n % 60, by simp [text, minutesText]⟩
  | minutes =>
      exact ⟨Numeral.padded 2 (n / 3600) ++ [':'], n / 60 % 60, by simp [text, minutesText]⟩
  | compactMinutes => exact ⟨Numeral.padded 2 (n / 3600), n / 60 % 60, rfl⟩
  | hours => exact ⟨[], n / 3600, by simp [text, minutesText]⟩

theorem trim_text (form : Spelling) (negative : Bool) (n : Nat) :
    Text.trim (form.text negative n) = form.text negative n := by
  obtain ⟨mid, k, htext⟩ := form.exists_text_eq negative n
  rw [htext]
  apply Text.trim_eq_self
  · intro c hc
    cases hc
    cases negative <;> decide
  · intro c hc
    have hne := Numeral.padded_ne_nil 2 k
    rw [← List.cons_append, List.getLast?_append_of_ne_nil _ hne] at hc
    exact Text.isBlank_of_isDigit (Numeral.isDigit_of_mem_padded c (List.mem_of_getLast? hc))

end Spelling

end Offset

theorem ZoneTable.isSigned_text (form : Offset.Spelling) (negative : Bool) (n : Nat) :
    isSigned (form.text negative n) := by
  cases negative <;> rfl

/-- A written offset is no name, so every table resolves it alike. -/
theorem ZoneTable.resolve_text (t : ZoneTable) (regions : RegionDatabase) (type : WireType)
    {form : Offset.Spelling} (negative : Bool) {n : Nat} (h : form.Fits n)
    (hn : n ≤ Offset.maxDisplacement) :
    ∃ offset, t.resolve regions type (form.text negative n) = .ok (.fixed offset) ∧
      offset.east = Numeral.negateIf negative n := by
  obtain ⟨offset, hoffset, heast⟩ := Offset.Spelling.ofDisplacement?_negateIf negative hn
  refine ⟨offset, ?_, heast⟩
  have hhours : n < 360000 := by
    rw [Offset.maxDisplacement] at hn
    omega
  rw [resolve_eq_ok_iff, form.trim_text, zone?, if_pos (isSigned_text form negative n),
    form.readSeconds?_text negative h hhours, Option.bind_some, hoffset, Option.map_some]

/-- An offset that is written well but too large is out of range in every table. -/
theorem ZoneTable.resolve_text_of_lt (t : ZoneTable) (regions : RegionDatabase) (type : WireType)
    {form : Offset.Spelling} (negative : Bool) {n : Nat} (h : form.Fits n)
    (hlarge : Offset.maxDisplacement < n) (hn : n < 360000) :
    t.resolve regions type (form.text negative n) =
      .error (.outOfRange type (String.ofList (form.text negative n))) := by
  have hlimit : ¬(Numeral.negateIf negative n).natAbs ≤ Offset.maxDisplacement := by
    rw [Offset.Spelling.natAbs_negateIf]
    omega
  have hread := form.readSeconds?_text negative h hn
  unfold resolve
  rw [form.trim_text]
  cases negative <;>
    simp only [Offset.Spelling.text] at hread ⊢ <;>
    simp only [hread, Offset.ofDisplacement?, if_neg hlimit] <;> rfl

end ScalarWire
