import ScalarWire.Proofs.Number.Literal
import ScalarWire.Proofs.Text.Blank

/-!
# The spelling of integers

An integer is spelled by ASCII digits behind at most one sign. Zeros in front do not matter, so it
has a spelling of every length; the one that is written for it is among them.
-/

namespace ScalarWire.Numeral

open DecimalLiteral (SpellsSign exists_splitSign not_sign_of_isDigit)

/-- The spellings of an integer. -/
inductive SpellsInteger : Int → List Char → Prop where
  | signed {negative : Bool} {sign digits : List Char} (hsign : SpellsSign negative sign)
      (hne : digits ≠ []) (hdigits : ∀ c ∈ digits, c.isDigit) :
      SpellsInteger (negateIf negative (value digits)) (sign ++ digits)

/-- Reading an integer finds the one that the text spells. -/
theorem readSigned?_eq_some_iff {s : List Char} {n : Int} :
    readSigned? s = some n ↔ SpellsInteger n s := by
  constructor
  · intro h
    obtain ⟨sign, hs, hsign⟩ := exists_splitSign s
    obtain ⟨k, hk, rfl⟩ := Option.map_eq_some_iff.mp h
    obtain ⟨hne, hdigits, rfl⟩ := read?_eq_some_iff.mp hk
    have hspells : SpellsInteger (negateIf (splitSign s).1 (value (splitSign s).2))
        (sign ++ (splitSign s).2) := .signed hsign hne hdigits
    rwa [← hs] at hspells
  · rintro ⟨hsign, hne, hdigits⟩
    have hhead := fun c hc => not_sign_of_isDigit (hdigits c (List.mem_of_head? hc))
    simp only [readSigned?, hsign.splitSign_append hhead]
    rw [read?_eq_some_iff.mpr ⟨hne, hdigits, rfl⟩]
    rfl

theorem SpellsInteger.unique {s : List Char} {m n : Int} (hm : SpellsInteger m s)
    (hn : SpellsInteger n s) : m = n :=
  Option.some.inj ((readSigned?_eq_some_iff.mpr hm).symm.trans (readSigned?_eq_some_iff.mpr hn))

theorem readSigned?_eq_none_iff {s : List Char} :
    readSigned? s = none ↔ ∀ n, ¬SpellsInteger n s := by
  rw [Option.eq_none_iff_forall_ne_some]
  exact forall_congr' fun n => not_congr readSigned?_eq_some_iff

/-- What is written for an integer spells it. -/
theorem spellsInteger_signed (z : Int) : SpellsInteger z (signed z) := by
  have hspells {negative : Bool} {sign : List Char} (hsign : SpellsSign negative sign) :=
    SpellsInteger.signed hsign (digits_ne_nil z.natAbs) isDigit_of_mem_digits
  unfold signed
  split_ifs with hz
  · have h := hspells .minus
    rwa [value_digits, show negateIf true z.natAbs = z by simp only [negateIf, if_true]; omega] at h
  · have h := hspells .none
    rwa [value_digits, show negateIf false z.natAbs = z by simp [negateIf]; omega] at h

theorem SpellsInteger.isBlank {s : List Char} {n : Int} (h : SpellsInteger n s) :
    ∀ c ∈ s, Text.isBlank c = false := by
  obtain ⟨hsign, -, hdigits⟩ := h
  intro c hc
  rcases List.mem_append.mp hc with hc | hc
  · cases hsign with
    | none => cases hc
    | plus | minus =>
        obtain rfl := List.mem_singleton.mp hc
        rfl
  · exact Text.isBlank_of_isDigit (hdigits c hc)

theorem SpellsInteger.trim_eq {s : List Char} {n : Int} (h : SpellsInteger n s) :
    Text.trim s = s :=
  Text.trim_eq_self (fun c hc => h.isBlank c (List.mem_of_head? hc))
    fun c hc => h.isBlank c (List.mem_of_getLast? hc)

end ScalarWire.Numeral
