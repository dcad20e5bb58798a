import ScalarWire.Proofs.Literal.Era
import ScalarWire.Proofs.Literal.TimeFields

/-!
# How the text of a time begins and ends

A time is taken off the front of a text up to a digit or the last letter of a meridiem. So a time
that makes up a trimmed text leaves nothing of it, and no era marker can be seen at its end.
-/

namespace ScalarWire.Literal

open Text

/-- The characters that a time can end in. -/
def ClosesTime (c : Char) : Prop :=
  isDecimalDigit c ∨ c.toLower = 'm'

/-- Something is taken off the front of a text, and its last character can end a time. -/
def TakesTime (s rest : List Char) : Prop :=
  ∃ front c, s = front ++ c :: rest ∧ ClosesTime c

namespace TakesTime

variable {s mid rest : List Char}

theorem append (h : TakesTime mid rest) (front : List Char) : TakesTime (front ++ mid) rest := by
  obtain ⟨behind, c, rfl, hc⟩ := h
  exact ⟨front ++ behind, c, (List.append_assoc _ _ _).symm, hc⟩

theorem trans (h : TakesTime s mid) (h' : TakesTime mid rest) : TakesTime s rest := by
  obtain ⟨front, c, rfl, -⟩ := h
  rw [List.append_cons]
  exact h'.append (front ++ [c])

/-- Nothing changes if a part that may be empty is taken off too. -/
theorem take {part : List Char} (h : TakesTime s (part ++ rest))
    (hpart : ∀ c ∈ part.getLast?, ClosesTime c) : TakesTime s rest := by
  rcases List.eq_nil_or_concat part with rfl | ⟨front, c, rfl⟩
  · exact h
  · refine h.trans ⟨front, c, ?_, hpart c (by simp)⟩
    rw [List.concat_eq_append, List.append_assoc, List.singleton_append]

end TakesTime

/-- A field of digits ends in a digit. -/
theorem takesTime_of_digits {digits : List Char} (hne : digits ≠ [])
    (hdigits : ∀ c ∈ digits, isDecimalDigit c) (rest : List Char) :
    TakesTime (digits ++ rest) rest := by
  refine ⟨digits.dropLast, digits.getLast hne, ?_, Or.inl (hdigits _ (List.getLast_mem hne))⟩
  rw [List.append_cons, List.dropLast_append_getLast hne]

section parts

variable {text : List Char}

theorem closes_of_digits {digits : List Char} (front : List Char) (hne : digits ≠ [])
    (hdigits : ∀ c ∈ digits, isDecimalDigit c) :
    ∀ c ∈ (front ++ digits).getLast?, ClosesTime c := by
  intro c hc
  rw [List.getLast?_append_of_ne_nil _ hne] at hc
  exact Or.inl (hdigits c (List.mem_of_getLast? hc))

theorem SpellsSeconds.closes {second? fraction? : Option (List Char)}
    (h : SpellsSeconds second? fraction? text) : ∀ c ∈ text.getLast?, ClosesTime c := by
  cases h with
  | none => exact nofun
  | whole hpair => exact closes_of_digits [':'] hpair.1 hpair.2.2
  | @pointed digits fraction mark hpair hmark hne hfraction =>
      rw [← List.cons_append, List.append_cons]
      exact closes_of_digits (':' :: digits ++ [mark]) hne hfraction

/-- The words of the meridiems end in an `m`. -/
theorem SpellsMeridiem.closes {meridiem? : Option Meridiem} (h : SpellsMeridiem meridiem? text) :
    ∀ c ∈ text.getLast?, ClosesTime c := by
  cases h with
  | none => exact nofun
  | @some meridiem blanks word hblanks hword =>
      intro c hc
      have hne : word ≠ [] := List.ne_nil_of_length_pos (by simp [(head_of_sameFold hword).1])
      rw [List.getLast?_append_of_ne_nil _ hne] at hc
      have hlast : c.toLower ∈ (lower meridiem.word).getLast? := by
        rw [← beq_iff_eq.mp hword, lower, List.getLast?_map]
        exact Option.mem_map_of_mem _ hc
      cases meridiem <;> exact Or.inr (Option.mem_some.mp hlast).symm

/-- Whatever parts a time has, the last of them ends in a digit or in an `m`. -/
theorem takesTime_of_timeText? {s : List Char} {t : TimeText} (h : timeText? s = some t) :
    TakesTime s t.rest := by
  obtain ⟨-, hminute, seconds, meridiem, rfl, hseconds, hmeridiem⟩ := spells_of_timeText? h
  have hclock : TakesTime (t.hour ++ ':' :: (t.minute ++ (seconds ++ (meridiem ++ t.rest))))
      (seconds ++ (meridiem ++ t.rest)) := by
    rw [List.append_cons]
    exact (takesTime_of_digits hminute.1 hminute.2.2 _).append _
  exact (hclock.take hseconds.closes).take hmeridiem.closes

end parts

theorem last_of_takesTime {s : List Char} (h : TakesTime s []) :
    ∃ c ∈ s.getLast?, ClosesTime c := by
  obtain ⟨front, c, rfl, hc⟩ := h
  exact ⟨c, List.getLast?_concat, hc⟩

theorem toUpper_of_isDecimalDigit {c : Char} (h : isDecimalDigit c) : c.toUpper = c := by
  rcases toNat_of_isDecimalDigit h with hlt | hge
  · exact toUpper_of_lt (by omega)
  · exact toUpper_of_ge hge

/-- No era marker ends like a time. -/
theorem eraMarker?_eq_none_of_closesTime {word : List Char} {c : Char} (hmem : c ∈ word)
    (hc : ClosesTime c) : eraMarker? word = none := by
  apply eraMarker?_eq_none_of_upper hmem
  rcases hc with hdigit | hletter
  · have hletters : ['A', 'B', 'C', 'D', '.'].all fun d => !isDecimalDigit d := by decide
    rw [toUpper_of_isDecimalDigit hdigit]
    intro h
    have hc := List.all_eq_true.mp hletters c h
    rw [hdigit] at hc
    exact nomatch hc
  · rw [← toUpper_toLower, hletter]
    decide

end ScalarWire.Literal
