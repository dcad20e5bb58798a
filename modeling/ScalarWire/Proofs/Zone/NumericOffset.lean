import ScalarWire.Proofs.Zone.LoadedName
import ScalarWire.Proofs.Zone.OffsetSpelling
import ScalarWire.Zone.Excerpt

/-!
# Numeric offsets as tokens and as entries

A sign with a spelled number of seconds behind it is the fixed zone that many seconds east or west,
up to the largest displacement, and out of range beyond it. Every other text behind a sign is
refused, whichever sign it is. A document takes the same texts as the offsets of its entries.
-/

namespace ScalarWire

open Text

namespace Offset

/-- The usual spellings of an hour, minutes and seconds, each with the number of seconds that it
stands for. What is left out is zero. -/
inductive UsualSpelling (h m n : Nat) : Nat → List Char → Prop where
  | colons : UsualSpelling h m n (h * 3600 + m * 60 + n)
      (Numeral.padded 2 h ++ ':' :: (Numeral.padded 2 m ++ ':' :: Numeral.padded 2 n))
  | compact : UsualSpelling h m n (h * 3600 + m * 60 + n)
      (Numeral.padded 2 h ++ (Numeral.padded 2 m ++ Numeral.padded 2 n))
  | minutes : UsualSpelling h m n (h * 3600 + m * 60)
      (Numeral.padded 2 h ++ ':' :: Numeral.padded 2 m)
  | compactMinutes : UsualSpelling h m n (h * 3600 + m * 60)
      (Numeral.padded 2 h ++ Numeral.padded 2 m)
  | hour : UsualSpelling h m n (h * 3600) (Numeral.padded 2 h)
  | digitMinutes (hh : h < 10) : UsualSpelling h m n (h * 3600 + m * 60)
      (Numeral.padded 1 h ++ ':' :: Numeral.padded 2 m)
  | digitCompactMinutes (hh : h < 10) : UsualSpelling h m n (h * 3600 + m * 60)
      (Numeral.padded 1 h ++ Numeral.padded 2 m)

section spelling

variable {h m n k : Nat} {s : List Char}

theorem UsualSpelling.le (husual : UsualSpelling h m n k s) : k ≤ h * 3600 + m * 60 + n := by
  cases husual <;> omega

theorem SpellsMinutes.spellsDisplacement {width : Nat} (hwidth : width = 1 ∨ width = 2)
    (hh : h < 10 ^ width) (hspells : SpellsMinutes m n s) (hm : m < 60) (hn : n < 60)
    (hk : k = h * 3600 + m * 60 + n) : SpellsDisplacement k (Numeral.padded width h ++ s) :=
  ⟨h, m, n, ⟨width, _, s, hwidth, rfl, spellsField_padded (by omega) hh, hspells⟩, hm, hn, hk⟩

theorem UsualSpelling.spellsDisplacement (husual : UsualSpelling h m n k s) (hh : h < 100)
    (hm : m < 60) (hn : n < 60) : SpellsDisplacement k s := by
  have hminute : SpellsField 2 m (Numeral.padded 2 m) := spellsField_padded (by decide) (by omega)
  have hsecond : SpellsField 2 n (Numeral.padded 2 n) := spellsField_padded (by decide) (by omega)
  have hnone : 0 < 60 := by decide
  have hone : (1 : Nat) = 1 ∨ (1 : Nat) = 2 := Or.inl rfl
  have htwo : (2 : Nat) = 1 ∨ (2 : Nat) = 2 := Or.inr rfl
  cases husual with
  | colons =>
      have hrest := SpellsMinutes.seconds (.colon hminute) (.colon hsecond)
      exact hrest.spellsDisplacement htwo hh hm hn (by omega)
  | compact =>
      have hrest := SpellsMinutes.seconds (.plain hminute) (.plain hsecond)
      exact hrest.spellsDisplacement htwo hh hm hn (by omega)
  | minutes =>
      have hrest := SpellsMinutes.minutes (.colon hminute)
      exact hrest.spellsDisplacement htwo hh hm hnone (by omega)
  | compactMinutes =>
      have hrest := SpellsMinutes.minutes (.plain hminute)
      exact hrest.spellsDisplacement htwo hh hm hnone (by omega)
  | hour =>
      have hhour := SpellsMinutes.nothing.spellsDisplacement htwo hh hnone hnone (k := h * 3600)
        (by omega)
      rwa [List.append_nil] at hhour
  | digitMinutes hdigit =>
      have hrest := SpellsMinutes.minutes (.colon hminute)
      exact hrest.spellsDisplacement hone hdigit hm hnone (by omega)
  | digitCompactMinutes hdigit =>
      have hrest := SpellsMinutes.minutes (.plain hminute)
      exact hrest.spellsDisplacement hone hdigit hm hnone (by omega)

theorem isBlank_signChar (negative : Bool) : isBlank (signChar negative) = false := by
  cases negative <;> decide

theorem trim_signChar (negative : Bool) (r : List Char) :
    trim (signChar negative :: r) = signChar negative :: trimEnd r := by
  have hstart : trimStart (signChar negative :: r) = signChar negative :: r :=
    trimStart_eq_self fun c hc => Option.mem_some_iff.mp hc ▸ isBlank_signChar negative
  have hvisible : ∀ c ∈ [signChar negative], isBlank c = false :=
    fun c hc => List.mem_singleton.mp hc ▸ isBlank_signChar negative
  rw [trim, hstart]
  exact trimEnd_append_of_visible hvisible r

theorem SpellsDisplacement.trimEnd (hspells : SpellsDisplacement k s) : trimEnd s = s := by
  have hword := (isZoneWord_of_readSeconds? (hspells.readSeconds? false)).not_blank
  exact trimEnd_eq_self fun c hc => hword c (List.mem_cons_of_mem _ (List.mem_of_getLast? hc))

end spelling

end Offset

namespace ZoneTable

/-! ### Signed tokens -/

section token

variable (t : ZoneTable) (regions : RegionDatabase) (type : WireType) {k : Nat} {r : List Char}

theorem isSigned_signChar (negative : Bool) (r : List Char) :
    isSigned (Offset.signChar negative :: r) := by
  cases negative <;> rfl

/-- A signed token is never looked up. -/
theorem resolve_signChar (negative : Bool) (r : List Char) :
    t.resolve regions type (Offset.signChar negative :: r) =
      match Offset.readSeconds? (Offset.signChar negative :: trimEnd r) with
      | none => .error (.malformed type (String.ofList (Offset.signChar negative :: trimEnd r)))
      | some east =>
        match Offset.ofDisplacement? east with
        | none => .error (.outOfRange type (String.ofList (Offset.signChar negative :: trimEnd r)))
        | some offset => .ok (.fixed offset) := by
  unfold resolve
  rw [Offset.trim_signChar]
  cases negative <;> rfl

theorem resolve_signChar_of_le (negative : Bool)
    (hspells : Offset.SpellsDisplacement k (trimEnd r)) (hk : k ≤ Offset.maxDisplacement) :
    ∃ offset, t.resolve regions type (Offset.signChar negative :: r) = .ok (.fixed offset) ∧
      offset.east = Numeral.negateIf negative k := by
  obtain ⟨offset, hoffset, heast⟩ := Offset.Spelling.ofDisplacement?_negateIf negative hk
  refine ⟨offset, ?_, heast⟩
  rw [resolve_signChar, hspells.readSeconds? negative]
  dsimp only
  rw [hoffset]

theorem resolve_signChar_of_lt (negative : Bool)
    (hspells : Offset.SpellsDisplacement k (trimEnd r)) (hk : Offset.maxDisplacement < k) :
    t.resolve regions type (Offset.signChar negative :: r) =
      .error (.outOfRange type (String.ofList (Offset.signChar negative :: trimEnd r))) := by
  have hnone : Offset.ofDisplacement? (Numeral.negateIf negative k) = none := by
    rw [Offset.ofDisplacement?, Offset.Spelling.natAbs_negateIf]
    exact if_neg (Nat.not_le.mpr hk)
  rw [resolve_signChar, hspells.readSeconds? negative]
  dsimp only
  rw [hnone]

theorem resolve_signChar_of_not_spells (negative : Bool)
    (hspells : ∀ k, ¬Offset.SpellsDisplacement k (trimEnd r)) :
    t.resolve regions type (Offset.signChar negative :: r) =
      .error (.malformed type (String.ofList (Offset.signChar negative :: trimEnd r))) := by
  have hread : Offset.readSeconds? (Offset.signChar negative :: trimEnd r) = none := by
    rw [Option.eq_none_iff_forall_ne_some]
    intro east heast
    obtain ⟨k, hk, -⟩ := Offset.readSeconds?_signChar_eq_some_iff.mp heast
    exact hspells k hk
  rw [resolve_signChar, hread]

/-- A text is refused behind both signs, or it stands for as many seconds west as east. -/
theorem resolve_opposite (r : List Char) :
    (∃ e e', t.resolve regions type ('+' :: r) = .error e ∧
      t.resolve regions type ('-' :: r) = .error e') ∨
      ∃ east west : Offset, t.resolve regions type ('+' :: r) = .ok (.fixed east) ∧
        t.resolve regions type ('-' :: r) = .ok (.fixed west) ∧ west.east = -east.east ∧
          east.east.natAbs ≤ Offset.maxDisplacement := by
  by_cases hspells : ∃ k, Offset.SpellsDisplacement k (trimEnd r)
  · obtain ⟨k, hk⟩ := hspells
    rcases Nat.lt_or_ge Offset.maxDisplacement k with hlarge | hsmall
    · exact Or.inl ⟨_, _, resolve_signChar_of_lt t regions type false hk hlarge,
        resolve_signChar_of_lt t regions type true hk hlarge⟩
    · obtain ⟨east, hplus, heast⟩ := resolve_signChar_of_le t regions type false hk hsmall
      obtain ⟨west, hminus, hwest⟩ := resolve_signChar_of_le t regions type true hk hsmall
      refine Or.inr ⟨east, west, hplus, hminus, ?_, ?_⟩
      · rw [heast, hwest]
        rfl
      · rwa [heast, Offset.Spelling.natAbs_negateIf]
  · rw [not_exists] at hspells
    exact Or.inl ⟨_, _, resolve_signChar_of_not_spells t regions type false hspells,
      resolve_signChar_of_not_spells t regions type true hspells⟩

end token

/-! ### Signed texts in documents -/

section documents

variable (t : ZoneTable) (regions : RegionDatabase) (type : WireType) {offset : Offset}
  {text : List Char} {file : ZoneTableFile}

/-- The text is a numeric offset, and as a token it stands for this one. -/
def ResolvesNumeric (text : String) (offset : Offset) : Prop :=
  isSigned (trim text.toList) ∧ t.resolve regions type text.toList = .ok (.fixed offset)

theorem resolvesNumeric_iff {text : String} :
    t.ResolvesNumeric regions type text offset ↔
      numericOffset? (trim text.toList) = some offset := by
  constructor
  · rintro ⟨hsigned, hresolve⟩
    exact (resolve_of_isSigned hsigned).mp hresolve
  · intro h
    have hsigned := isSigned_of_readSeconds? (numericOffset?_eq_some_iff.mp h).1
    exact ⟨hsigned, (resolve_of_isSigned hsigned).mpr h⟩

theorem readOffset_signChar_eq_ok_iff (name : String) (negative : Bool) (r : List Char) :
    readOffset name (String.ofList (Offset.signChar negative :: r)) = .ok offset ↔
      t.resolve regions type (Offset.signChar negative :: r) = .ok (.fixed offset) := by
  have hsigned : isSigned (trim (Offset.signChar negative :: r)) :=
    Offset.trim_signChar negative r ▸ isSigned_signChar negative _
  rw [readOffset_eq_ok_iff, String.toList_ofList, resolve_of_isSigned hsigned]

/-- A document is accepted exactly if all of its offsets are numeric ones that a table resolves. -/
theorem exists_ofJsonText_eq_ok_iff
    (hread : readFile? text = some file) :
    (∃ loaded, ofJsonText text = .ok loaded) ↔
      ∀ entry ∈ file.zones, ∃ offset, t.ResolvesNumeric regions type entry.2 offset := by
  have hreadable : (∃ loaded, ofJsonText text = .ok loaded) ↔ Readable file.zones := by
    constructor
    · rintro ⟨loaded, hload⟩
      exact ((ofJsonText_eq_ok_iff_readable hread).mp hload).1
    · intro h
      exact ⟨_, (ofJsonText_eq_ok_iff_readable hread).mpr ⟨h, rfl⟩⟩
  rw [hreadable, Readable]
  refine forall₂_congr fun entry _ => ?_
  rw [Option.ne_none_iff_exists']
  exact exists_congr fun offset =>
    entryOffset?_eq_some_iff.trans (resolvesNumeric_iff t regions type).symm

/-- Every name of an accepted document has the offset that an entry of that name spells. -/
theorem exists_resolvesNumeric_of_mem_zones {loaded : ZoneTable} {entry : String × String}
    (hread : readFile? text = some file)
    (hload : ofJsonText text = .ok loaded) (hmem : entry ∈ file.zones) :
    ∃ entry' ∈ file.zones, ∃ offset, sameFold entry'.1.toList entry.1.toList ∧
      t.ResolvesNumeric regions type entry'.2 offset ∧
        loaded.get? entry.1.toList = some offset := by
  obtain ⟨entry', hmem', offset, hsame, hoffset, hget⟩ :=
    exists_entry_of_mem_zones hread hload hmem
  have hnumeric := (resolvesNumeric_iff t regions type).mpr (entryOffset?_eq_some_iff.mp hoffset)
  exact ⟨entry', hmem', offset, hsame, hnumeric, hget⟩

/-- A text is refused behind both signs or stands for opposite offsets of less than sixteen hours.
An entry of a document takes it as its offset exactly if it resolves, and so a document is accepted
exactly if the offsets of its entries resolve, and has them under their names. A spelled number of
seconds resolves to that number, or is out of range beyond the largest displacement. The usual
spellings are among those. -/
theorem resolve_numeric_offset (t : ZoneTable) (regions : RegionDatabase) (type : WireType) :
    (∀ r : List Char,
      (∃ e e', t.resolve regions type ('+' :: r) = .error e ∧
        t.resolve regions type ('-' :: r) = .error e') ∨
        ∃ east west : Offset, t.resolve regions type ('+' :: r) = .ok (.fixed east) ∧
          t.resolve regions type ('-' :: r) = .ok (.fixed west) ∧ west.east = -east.east ∧
            east.east.natAbs ≤ 57599) ∧
    (∀ (name : String) (negative : Bool) (r : List Char) (offset : Offset),
      readOffset name (String.ofList (Offset.signChar negative :: r)) = .ok offset ↔
        t.resolve regions type (Offset.signChar negative :: r) = .ok (.fixed offset)) ∧
    (∀ (text : List Char) (file : ZoneTableFile), readFile? text = some file →
      ((∃ loaded, ofJsonText text = .ok loaded) ↔
        ∀ entry ∈ file.zones, ∃ offset, t.ResolvesNumeric regions type entry.2 offset) ∧
      ∀ loaded, ofJsonText text = .ok loaded → ∀ entry ∈ file.zones,
        ∃ entry' ∈ file.zones, ∃ offset, sameFold entry'.1.toList entry.1.toList ∧
          t.ResolvesNumeric regions type entry'.2 offset ∧
            loaded.get? entry.1.toList = some offset) ∧
    (∀ (negative : Bool) (k : Nat) (s : List Char), Offset.SpellsDisplacement k s →
      (k ≤ 57599 → ∃ offset,
        t.resolve regions type (Offset.signChar negative :: s) = .ok (.fixed offset) ∧
          offset.east = Numeral.negateIf negative k) ∧
      (57599 < k → t.resolve regions type (Offset.signChar negative :: s) =
        .error (.outOfRange type (String.ofList (Offset.signChar negative :: s))))) ∧
    ∀ (negative : Bool) (h m n k : Nat) (s : List Char), m < 60 → n < 60 →
      h * 3600 + m * 60 + n ≤ 57599 → Offset.UsualSpelling h m n k s →
        ∃ offset, t.resolve regions type (Offset.signChar negative :: s) = .ok (.fixed offset) ∧
          offset.east = Numeral.negateIf negative k := by
  have hspelled : ∀ (negative : Bool) (k : Nat) (s : List Char), Offset.SpellsDisplacement k s →
      k ≤ 57599 → ∃ offset,
        t.resolve regions type (Offset.signChar negative :: s) = .ok (.fixed offset) ∧
          offset.east = Numeral.negateIf negative k := by
    intro negative k s hspells hk
    exact resolve_signChar_of_le t regions type negative (hspells.trimEnd.symm ▸ hspells) hk
  refine ⟨resolve_opposite t regions type, ?_, ?_, ?_, ?_⟩
  · intro name negative r offset
    exact readOffset_signChar_eq_ok_iff t regions type name negative r
  · intro text file hread
    refine ⟨exists_ofJsonText_eq_ok_iff t regions type hread, fun loaded hload entry hmem => ?_⟩
    exact exists_resolvesNumeric_of_mem_zones t regions type hread hload hmem
  · intro negative k s hspells
    refine ⟨hspelled negative k s hspells, fun hk => ?_⟩
    have hrange :=
      resolve_signChar_of_lt t regions type negative (hspells.trimEnd.symm ▸ hspells) hk
    rwa [hspells.trimEnd] at hrange
  · intro negative h m n k s hm hn hlimit husual
    have hspells := husual.spellsDisplacement (by omega) hm hn
    exact hspelled negative k s hspells (husual.le.trans hlimit)

/-- An hour of one digit is found although two digits are tried first, as a token and in a document,
and sixteen hours are out of range. -/
theorem resolve_numeric_offset_short_hour :
    (Offset.UsualSpelling 5 30 0 19800 "530".toList ∧
      ∃ offset, builtin.resolve .excerpt .timetz "-530".toList = .ok (.fixed offset) ∧
        offset.east = -19800) ∧
    (Offset.SpellsDisplacement 57600 "16".toList ∧
      builtin.resolve .excerpt .timetz "+16".toList = .error (.outOfRange .timetz "+16")) ∧
    readFile? "\x7b\"zones\": \x7b\"XST\": \"-530\"\x7d\x7d".toList =
        some ⟨none, [("XST", "-530")]⟩ ∧
      ofJsonText "\x7b\"zones\": \x7b\"XST\": \"-530\"\x7d\x7d".toList =
        .ok ⟨"custom", [("XST", ⟨-19800, by decide⟩)]⟩ ∧
      ∃ entry ∈ [("XST", "-530")], ∃ offset, sameFold entry.1.toList "XST".toList ∧
        builtin.ResolvesNumeric .excerpt .timetz entry.2 offset ∧
          (⟨"custom", [("XST", ⟨-19800, by decide⟩)]⟩ : ZoneTable).get? "XST".toList =
            some offset := by
  obtain ⟨-, -, hdocument, hspelled, husual⟩ := resolve_numeric_offset builtin .excerpt .timetz
  have hshort : Numeral.padded 1 5 ++ Numeral.padded 2 30 = "530".toList := by decide +kernel
  have hlong : Numeral.padded 2 16 = "16".toList := by decide +kernel
  have hhalf : Offset.UsualSpelling 5 30 0 19800 "530".toList :=
    hshort ▸ .digitCompactMinutes (by decide)
  have hsixteen : Offset.UsualSpelling 16 0 0 57600 "16".toList := hlong ▸ .hour
  have hspells := hsixteen.spellsDisplacement (by decide) (by decide) (by decide)
  have hread : readFile? "\x7b\"zones\": \x7b\"XST\": \"-530\"\x7d\x7d".toList =
      some ⟨none, [("XST", "-530")]⟩ := by
    decide +kernel
  have hload : ofJsonText "\x7b\"zones\": \x7b\"XST\": \"-530\"\x7d\x7d".toList =
      .ok ⟨"custom", [("XST", ⟨-19800, by decide⟩)]⟩ := by
    decide +kernel
  refine ⟨⟨hhalf, ?_⟩, ⟨hspells, ?_⟩, hread, hload, ?_⟩
  · exact husual true 5 30 0 19800 _ (by decide) (by decide) (by decide) hhalf
  · exact (hspelled false 57600 _ hspells).2 (by decide)
  · exact (hdocument _ _ hread).2 _ hload _ List.mem_cons_self

end documents

end ZoneTable

end ScalarWire
