import ScalarWire.Proofs.Float.Literal

/-!
# Texts of floating-point numbers

Digits times a power of ten are a literal of their product, written out as well as with an exponent.
So the text of a number is read as the pattern that it was written for. NaN and the infinities have
names, which hold no digits and are no literals.
-/

namespace ScalarWire.FloatFormat

open DecimalLiteral (SpellsSign SpellsFraction SpellsExponent)

variable {f : FloatFormat}

theorem spellsSign_minus : ∀ negative, SpellsSign negative (minus negative)
  | false => .none
  | true => .minus

section spelling

variable {digits : List Char} (hne : digits ≠ []) (hdigits : ∀ c ∈ digits, c.isDigit)
  (negative : Bool) (exponent : Int)
include hne hdigits

/-- Digits are written out as a literal of their product with the power of ten. -/
theorem exists_spells_positional :
    ∃ l : DecimalLiteral, l.Spells (minus negative ++ positional digits exponent) ∧
      l.negative = negative ∧ |l.toRat| = Numeral.value digits * 10 ^ exponent ∧
      l.exponentDigits = [] := by
  obtain ⟨k, whole, fraction, hpointed, hsplit, hwhole, hlen⟩ :=
    Decimal.pointed_eq (List.append_ne_nil_of_left_ne_nil hne (List.replicate exponent.toNat '0'))
      (-exponent).toNat
  have hpositional : positional digits exponent =
      Decimal.pointed (digits ++ List.replicate exponent.toNat '0') (-exponent).toNat := by
    rw [positional, Decimal.pointed]
    split_ifs with h hzero hzero
    · rfl
    · omega
    · omega
    · rw [show exponent.toNat = 0 by omega, List.replicate_zero, List.append_nil]
  have hall : ∀ c ∈ whole ++ fraction, c.isDigit := by
    rw [hsplit]
    intro c hc
    simp only [List.mem_append, List.mem_replicate] at hc
    rcases hc with ⟨-, rfl⟩ | hc | ⟨-, rfl⟩
    · rfl
    · exact hdigits c hc
    · rfl
  have hvalue : Numeral.value (whole ++ fraction) =
      Numeral.value digits * 10 ^ exponent.toNat := by
    rw [hsplit]
    simp only [Numeral.value_append, Numeral.value_replicate_zero, List.length_replicate]
    omega
  refine ⟨⟨negative, whole, fraction, false, []⟩, ?_, rfl, ?_, rfl⟩
  · rw [hpositional, hpointed]
    exact DecimalLiteral.read?_eq_some_iff.mp (DecimalLiteral.read?_positional hwhole
      (fun c hc => hall c (List.mem_append_left _ hc))
      fun c hc => hall c (List.mem_append_right _ hc))
  · rw [DecimalLiteral.abs_toRat, DecimalLiteral.digits, hvalue, hlen, Nat.cast_mul, Nat.cast_pow,
      Nat.cast_ofNat, mul_assoc, ← zpow_natCast, ← zpow_add₀ (by norm_num)]
    congr 2
    change _ + ((0 : Nat) - _ : Int) = _
    omega

/-- Digits are written with an exponent as a literal of the same product. -/
theorem exists_spells_scientific :
    ∃ l : DecimalLiteral, l.Spells (minus negative ++ scientific digits exponent) ∧
      l.negative = negative ∧ |l.toRat| = Numeral.value digits * 10 ^ exponent ∧
      l.digits = digits := by
  have hlen := List.length_pos_iff.mpr hne
  set moved := exponent + digits.length - 1 with hmoved
  refine ⟨⟨negative, digits.take 1, digits.drop 1, decide (moved < 0),
    Numeral.digits moved.natAbs⟩, ?_, rfl, ?_, List.take_append_drop 1 digits⟩
  · refine ⟨fun c hc => hdigits c (List.mem_of_mem_take hc), Or.inl ?_, minus negative,
      if digits.length ≤ 1 then [] else '.' :: digits.drop 1,
      'e' :: ((if 0 ≤ moved then ['+'] else ['-']) ++ Numeral.digits moved.natAbs), ?_,
      spellsSign_minus negative, ?_, ?_⟩
    · simpa using hne
    · rw [scientific, ← hmoved, Numeral.signed]
      split_ifs <;> first | omega | simp
    · split_ifs with h
      · rw [List.drop_eq_nil_iff.mpr h]
        exact .none
      · exact .point fun c hc => hdigits c (List.mem_of_mem_drop hc)
    · refine .marked (Or.inl rfl) ?_ (Numeral.digits_ne_nil _) Numeral.isDigit_of_mem_digits
      split_ifs with h
      · rw [decide_eq_false (by omega)]
        exact .plus
      · rw [decide_eq_true (by omega)]
        exact .minus
  · rw [DecimalLiteral.abs_toRat, DecimalLiteral.digits, List.take_append_drop]
    congr 2
    rw [DecimalLiteral.exponent, Numeral.value_digits, Numeral.negateIf, List.length_drop]
    split_ifs with h
    · have := of_decide_eq_true h
      omega
    · have := of_decide_eq_false (eq_false_of_ne_true h)
      omega

/-- Either text of a few digits is read as the pattern nearest to their product with the power. -/
theorem exists_readsNearest (hf : f.WithinDouble) (hlen : digits.length ≤ 18) (plain : Bool) :
    ∃ l : DecimalLiteral,
      l.Spells (minus negative ++
        if plain then positional digits exponent else scientific digits exponent) ∧
      l.negative = negative ∧ |l.toRat| = Numeral.value digits * 10 ^ exponent ∧
      f.ReadsNearest l := by
  cases plain with
  | true =>
      obtain ⟨l, hspells, hnegative, hvalue, hexponent⟩ :=
        exists_spells_positional hne hdigits negative exponent
      refine ⟨l, hspells, hnegative, hvalue, readsNearest hf hspells.isDigit_of_mem_digits ?_⟩
      left
      rw [hexponent]
      decide
  | false =>
      obtain ⟨l, hspells, hnegative, hvalue, hall⟩ :=
        exists_spells_scientific hne hdigits negative exponent
      refine ⟨l, hspells, hnegative, hvalue, readsNearest hf hspells.isDigit_of_mem_digits ?_⟩
      right
      rw [hall]
      omega

end spelling

section toText

variable {bits : Nat}

theorem significand_ne_zero (hne : bits ≠ 0) : f.significand bits ≠ 0 := by
  intro h
  have hpos := magnitude_pos (f := f) hne
  rw [magnitude, h, Nat.cast_zero, zero_mul] at hpos
  exact hpos.false

theorem toText_signed_zero (h : 0 < f.infinityBits) (negative : Bool) :
    f.toText (f.signed negative 0) = minus negative ++ ['0'] := by
  have hzero : f.significand 0 = 0 := by simp [significand]
  rw [toText, decode_signed h, hzero]
  rfl

/-- A number other than zero is written with its shortest digits. -/
theorem toText_signed (h : bits < f.infinityBits) (hne : bits ≠ 0) (negative : Bool)
    {digits : List Char} {exponent : Int}
    (hshortest : f.shortest (f.significand bits) (f.unitExponent bits) = (digits, exponent)) :
    f.toText (f.signed negative bits) =
      minus negative ++ if f.isPlain (f.signed negative bits) then
        positional digits exponent else scientific digits exponent := by
  rw [toText, decode_signed h]
  split
  · next heq => cases heq
  · next heq => cases heq
  · next hzero =>
      injection hzero with _ hzero
      exact absurd hzero (significand_ne_zero hne)
  · next heq =>
      cases heq
      rw [hshortest]

/-- A literal whose number rounds to a pattern is read as that pattern. -/
theorem ReadsNearest.ofLiteral_eq {l : DecimalLiteral} (h : f.ReadsNearest l)
    (hnearest : f.IsNearest |l.toRat| bits) : f.ofLiteral l = f.signed l.negative bits := by
  obtain ⟨other, hread, hother⟩ := h
  rw [hread, hother.unique hnearest]

/-- The text of a number is a literal, which is read as the pattern of that number. -/
theorem exists_spells_toText (hf : f.WithinDouble) (h : bits < f.infinityBits) (negative : Bool) :
    ∃ l : DecimalLiteral, l.Spells (f.toText (f.signed negative bits)) ∧
      f.ofLiteral l = f.signed negative bits ∧ (bits = 0 → l.toRat = 0) := by
  by_cases hzero : bits = 0
  · subst hzero
    obtain ⟨l, hspells, rfl, hvalue, hread⟩ := exists_readsNearest
      (List.cons_ne_nil '0' []) (List.forall_mem_singleton.mpr rfl) negative 0 hf (by decide) true
    have hrat : |l.toRat| = 0 := by
      rw [hvalue, show Numeral.value ['0'] = 0 from rfl, Nat.cast_zero, zero_mul]
    exact ⟨l, toText_signed_zero h _ ▸ hspells, hread.ofLiteral_eq (hrat ▸ isNearest_zero_zero),
      fun _ => abs_eq_zero.mp hrat⟩
  · rcases hshortest : f.shortest (f.significand bits) (f.unitExponent bits) with ⟨digits, exponent⟩
    obtain ⟨hne, hdigits, hlen, hnearest⟩ := shortest_spec hf hzero h.le hshortest
    obtain ⟨l, hspells, rfl, hvalue, hread⟩ := exists_readsNearest hne hdigits negative exponent
      hf hlen (f.isPlain (f.signed negative bits))
    rw [← hvalue] at hnearest
    exact ⟨l, toText_signed h hzero _ hshortest ▸ hspells, hread.ofLiteral_eq hnearest,
      fun h => absurd h hzero⟩

end toText

section special

variable {s : List Char}

/-- The names of NaN and of the infinities, in lower case. -/
def specialNames : List String :=
  ["nan", "inf", "+inf", "-inf", "infinity", "+infinity", "-infinity"]

/-- One of the names in any letter case. -/
def SpellsSpecial (s : List Char) : Prop :=
  ∃ name ∈ specialNames, Text.sameFold s name.toList

theorem special?_eq_none_iff : special? s = none ↔ ¬SpellsSpecial s := by
  have hlower : ∀ name ∈ specialNames, String.ofList (Text.lower name.toList) = name := by decide
  have hname : SpellsSpecial s ↔ String.ofList (Text.lower s) ∈ specialNames := by
    constructor
    · rintro ⟨name, hmem, h⟩
      rwa [show Text.lower s = Text.lower name.toList from beq_iff_eq.mp h, hlower name hmem]
    · intro h
      refine ⟨_, h, ?_⟩
      rw [String.toList_ofList, Text.sameFold_lower]
      exact beq_self_eq_true _
  rw [hname, special?]
  generalize String.ofList (Text.lower s) = t
  split <;> simp_all [specialNames]

/-- No name has a digit in it. -/
theorem special?_of_spells {l : DecimalLiteral} (h : l.Spells s) : special? s = none := by
  obtain ⟨c, hc, hdigit⟩ := h.exists_isDigit
  have hnames : ∀ name ∈ specialNames, name.toList.all fun d => !d.isDigit := by decide
  rw [special?_eq_none_iff]
  rintro ⟨name, hname, hfold⟩
  rw [Text.sameFold_eq_false_of_isDigit hc hdigit (hnames name hname)] at hfold
  cases hfold

end special

end ScalarWire.FloatFormat
