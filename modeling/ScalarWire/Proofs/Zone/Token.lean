import ScalarWire.Proofs.Literal.WrittenOffset
import ScalarWire.Proofs.Zone.Table
import ScalarWire.Proofs.Zone.ZoneName

/-!
# Zone tokens behind a literal

No text that names a zone under the standard table can be taken for a part of the date or time
before it: it is one word, which is no era marker, does not begin with a time, with or without a `T`
in front, and does not begin with a meridiem.
-/

namespace ScalarWire

open Literal Text

/-- A word that is taken for no part of a date or a time. -/
structure IsZoneWord (word : List Char) : Prop where
  ne_nil : word ≠ []
  not_blank : ∀ c ∈ word, isBlank c = false
  eraMarker? : eraMarker? word = none
  startsWithDigit : startsWithDigit word = false
  dropJoint : dropJoint word = word
  splitMeridiem? : splitMeridiem? word = none

theorem eraMarker?_lower (word : List Char) : eraMarker? (lower word) = eraMarker? word := by
  rw [eraMarker?, upper_lower]
  rfl

theorem meridiemOf?_lower (word : List Char) : meridiemOf? (lower word) = meridiemOf? word := by
  rw [meridiemOf?, lower_lower]
  rfl

theorem startsWithDigit_lower (word : List Char) :
    startsWithDigit (lower word) = startsWithDigit word := by
  cases word with
  | nil => rfl
  | cons c word => exact isDigit_toLower c

theorem trimStart_of_not_blank {word : List Char} (h : ∀ c ∈ word, isBlank c = false) :
    trimStart word = word :=
  trimStart_eq_self fun c hc => h c (List.mem_of_head? hc)

/-- Where a meridiem ends its word, the word has no further letters. -/
theorem takeWhile_isAlpha_of_meridiemOf? {word : List Char} {meridiem : Meridiem}
    (h : meridiemOf? (word.take 2) = some meridiem) (hends : endsWord (word.drop 2)) :
    word.takeWhile Char.isAlpha = word.take 2 := by
  have hletters : ∀ c ∈ word.take 2, c.isAlpha := by
    rw [← List.all_eq_true, ← all_lower _ isAlpha_toLower]
    rcases lower_of_meridiemOf? h with hword | hword
    · rw [hword]
      rfl
    · rw [hword]
      rfl
  have hnext : ∀ c ∈ (word.drop 2).head?, c.isAlpha = false := by
    intro c hc
    obtain ⟨rest, hrest⟩ := List.head?_eq_some_iff.mp hc
    rw [hrest, endsWord, Bool.not_eq_true'] at hends
    by_contra halpha
    rw [isWordChar_of_isAlpha (eq_true_of_ne_false halpha)] at hends
    cases hends
  conv_lhs => rw [← List.take_append_drop 2 word]
  exact takeWhile_append_of_head? hletters hnext

namespace IsZoneName

variable {name : List Char}

theorem eraMarker? (h : IsZoneName name) : eraMarker? name = none := by
  have hmarkers : ∀ word ∈ ["BC".toList, "B.C.".toList, "AD".toList, "A.D.".toList],
      ¬IsZoneName word := by decide
  cases hera : Literal.eraMarker? name with
  | none => rfl
  | some bc =>
      have hupper : IsZoneName (upper name) := h.of_lower_eq (lower_upper name).symm
      exact absurd hupper (hmarkers _ (upper_mem_of_eraMarker? hera))

theorem splitMeridiem? (h : IsZoneName name) : splitMeridiem? name = none := by
  rw [splitMeridiem?_eq, trimStart_of_not_blank h.isBlank_of_mem]
  cases hmeridiem : meridiemOf? (name.take 2) with
  | none => rfl
  | some meridiem =>
      refine if_neg fun hends => h.word ?_
      rw [takeWhile_isAlpha_of_meridiemOf? hmeridiem hends]
      rcases lower_of_meridiemOf? hmeridiem with hword | hword
      · simp [hword]
      · simp [hword]

theorem isZoneWord (h : IsZoneName name) : IsZoneWord name := by
  obtain ⟨c, rest, rfl⟩ := List.exists_cons_of_ne_nil h.ne_nil
  have hdigit : c.isDigit = false := by
    rw [← Bool.not_eq_true, Numeral.isDigit_iff]
    have halpha := (isAlpha_iff c).mp h.first
    omega
  refine ⟨h.ne_nil, h.isBlank_of_mem, h.eraMarker?, hdigit, ?_, h.splitMeridiem?⟩
  simp only [dropJoint, trimStart_of_not_blank h.isBlank_of_mem]
  apply if_neg
  rintro ⟨-, hrest⟩
  have hsecond : startsWithDigit rest = false := by
    cases rest with
    | nil => rfl
    | cons d rest => exact h.second
  rw [hsecond] at hrest
  cases hrest

end IsZoneName

namespace Offset

/-- What a numeric offset is made of. -/
def IsOffsetChar (c : Char) : Prop :=
  c.isDigit ∨ c = ':' ∨ c = '+' ∨ c = '-'

theorem isBlank_of_isOffsetChar {c : Char} (h : IsOffsetChar c) : isBlank c = false := by
  rcases h with hdigit | rfl | rfl | rfl
  · exact isBlank_of_isDigit hdigit
  all_goals decide

theorem forall_append {s t : List Char} (hs : ∀ c ∈ s, IsOffsetChar c)
    (ht : ∀ c ∈ t, IsOffsetChar c) : ∀ c ∈ s ++ t, IsOffsetChar c :=
  List.forall_mem_append.mpr ⟨hs, ht⟩

theorem isOffsetChar_of_read? {s : List Char} {n : Nat} (h : Numeral.read? s = some n) :
    ∀ c ∈ s, IsOffsetChar c :=
  fun c hc => Or.inl ((Numeral.read?_eq_some_iff.mp h).2.1 c hc)

/-- Two digits that are taken off leave what they stand in front of. -/
theorem forall_of_splitPair? {s rest : List Char} {n : Nat} (h : splitPair? s = some (n, rest))
    (hrest : ∀ c ∈ rest, IsOffsetChar c) : ∀ c ∈ s, IsOffsetChar c := by
  have hdigits : ∀ {s : List Char}, (if (s.take 2).length = 2 then
      (Numeral.read? (s.take 2)).map fun n => (n, s.drop 2) else none) = some (n, rest) →
        ∀ c ∈ s, IsOffsetChar c := by
    intro s hs
    split_ifs at hs
    obtain ⟨m, hread, heq⟩ := Option.map_eq_some_iff.mp hs
    obtain ⟨-, rfl⟩ := Prod.mk.inj heq
    rw [← List.take_append_drop 2 s]
    exact forall_append (isOffsetChar_of_read? hread) hrest
  dsimp only [splitPair?] at h
  split at h
  · exact List.forall_mem_cons.mpr ⟨Or.inr (Or.inl rfl), hdigits h⟩
  · exact hdigits h

theorem forall_of_readMinutes? {s : List Char} {parts : Nat × Nat}
    (h : readMinutes? s = some parts) : ∀ c ∈ s, IsOffsetChar c := by
  unfold readMinutes? at h
  split at h
  · exact fun _ hc => absurd hc List.not_mem_nil
  · split at h
    · exact nomatch h
    · next hpair => exact forall_of_splitPair? hpair (fun _ hc => absurd hc List.not_mem_nil)
    · next hpair =>
        split at h
        · next hpair' =>
            exact forall_of_splitPair? hpair
              (forall_of_splitPair? hpair' fun _ hc => absurd hc List.not_mem_nil)
        · exact nomatch h

theorem forall_of_readClock? {width : Nat} {s : List Char} {parts : Nat × Nat × Nat}
    (h : readClock? width s = some parts) : ∀ c ∈ s, IsOffsetChar c := by
  unfold readClock? at h
  split_ifs at h
  obtain ⟨hours, hhours, h⟩ := Option.bind_eq_some_iff.mp h
  obtain ⟨minutes, hminutes, -⟩ := Option.map_eq_some_iff.mp h
  rw [← List.take_append_drop width s]
  exact forall_append (isOffsetChar_of_read? hhours) (forall_of_readMinutes? hminutes)

/-- A numeric offset is a sign with digits and colons behind it. -/
theorem exists_sign_of_readSeconds? {s : List Char} {east : Int} (h : readSeconds? s = some east) :
    ∃ sign rest, s = sign :: rest ∧ (sign = '+' ∨ sign = '-') ∧ ∀ c ∈ rest, IsOffsetChar c := by
  unfold readSeconds? at h
  split at h
  · next sign rest =>
      split_ifs at h with hsign
      split at h
      · next hclock =>
          refine ⟨sign, rest, rfl, hsign, ?_⟩
          rw [Option.orElse_eq_orElse, Option.orElse_eq_or, Option.or_eq_some_iff] at hclock
          rcases hclock with hclock | ⟨-, hclock⟩
          · exact forall_of_readClock? hclock
          · exact forall_of_readClock? hclock
      · exact nomatch h
  · exact nomatch h

end Offset

theorem isZoneWord_of_readSeconds? {word : List Char} {east : Int}
    (h : Offset.readSeconds? word = some east) : IsZoneWord word := by
  obtain ⟨sign, rest, rfl, hsign, hrest⟩ := Offset.exists_sign_of_readSeconds? h
  have hblank : ∀ c ∈ sign :: rest, isBlank c = false := by
    refine List.forall_mem_cons.mpr
      ⟨Offset.isBlank_of_isOffsetChar (Or.inr (Or.inr hsign)), fun c hc => ?_⟩
    exact Offset.isBlank_of_isOffsetChar (hrest c hc)
  refine ⟨List.cons_ne_nil _ _, hblank, ?_, ?_, ?_, ?_⟩
  · apply eraMarker?_eq_none_of_mem List.mem_cons_self
    · rcases hsign with rfl | rfl <;> decide
    · rcases hsign with rfl | rfl <;> decide
  · rcases hsign with rfl | rfl <;> rfl
  · simp only [dropJoint, trimStart_of_not_blank hblank]
    rcases hsign with rfl | rfl <;> exact if_neg (by simp)
  · rcases hsign with rfl | rfl <;> exact splitMeridiem?_cons (by decide) (by decide) (by decide)

/-- What resolves under the standard table is one word that no date or time goes on with. -/
theorem isZoneWord_of_resolve {regions : RegionDatabase} {type : WireType} {token : List Char}
    {zone : Zone} (h : ZoneTable.builtin.resolve regions type token = .ok zone) :
    IsZoneWord (trim token) := by
  rw [ZoneTable.resolve_eq_ok_iff, ZoneTable.zone?] at h
  split_ifs at h
  · obtain ⟨offset, hoffset, -⟩ := Option.map_eq_some_iff.mp h
    obtain ⟨east, hread, -⟩ := Option.bind_eq_some_iff.mp hoffset
    exact isZoneWord_of_readSeconds? hread
  · rcases Option.or_eq_some_iff.mp h with hfixed | ⟨-, hregion⟩
    · obtain ⟨offset, hget, -⟩ := Option.map_eq_some_iff.mp hfixed
      exact (ZoneTable.isZoneName_of_get? hget).isZoneWord
    · obtain ⟨region, hname, -⟩ := Option.map_eq_some_iff.mp hregion
      exact (RegionDatabase.isZoneName_of_region? hname).isZoneWord

end ScalarWire
