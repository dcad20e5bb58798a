import ScalarWire.Proofs.Number.Numeral
import ScalarWire.Proofs.Text.AsciiDigit
import ScalarWire.Zone.Table

/-!
# Names of zones

The form that names of zones have is a form in any letter case. So not only the names that a region
database and the standard table hold have it, but every text that is found under one of them.
-/

namespace ScalarWire

open Text

theorem isZoneNameChar_toLower (c : Char) : isZoneNameChar c.toLower = isZoneNameChar c :=
  apply_toLower isZoneNameChar (by decide) c

/-- What zones are named with is ASCII, and no blank. -/
theorem classes_of_isZoneNameChar {c : Char} (h : isZoneNameChar c) :
    c.toNat < 128 ∧ isBlank c = false := by
  have hlt : c.toNat < 128 := by
    simp only [isZoneNameChar, Char.isAlphanum, Bool.or_eq_true, beq_iff_eq, isAlpha_iff] at h
    rcases h with ((((halpha | hdigit) | rfl) | rfl) | rfl) | rfl
    · omega
    · have hrange := (Numeral.isDigit_iff c).mp hdigit
      omega
    all_goals decide
  refine ⟨hlt, ?_⟩
  have hascii : ∀ n < 128, isZoneNameChar (Char.ofNat n) → isBlank (Char.ofNat n) = false := by
    decide
  exact c.ofNat_toNat ▸ hascii c.toNat hlt (c.ofNat_toNat.symm ▸ h)

section lower

variable {s t : List Char}

theorem isZoneName_lower_iff : IsZoneName (lower s) ↔ IsZoneName s := by
  rw [isZoneName_iff, isZoneName_iff, all_lower s isZoneNameChar_toLower,
    any_head?_lower s isAlpha_toLower, lower_drop, any_head?_lower _ isDigit_toLower,
    takeWhile_lower s isAlpha_toLower, lower_lower]

theorem IsZoneName.of_lower_eq (hs : IsZoneName s) (h : lower s = lower t) : IsZoneName t := by
  rwa [← isZoneName_lower_iff, ← h, isZoneName_lower_iff]

end lower

namespace IsZoneName

variable {name : List Char}

theorem ne_nil (h : IsZoneName name) : name ≠ [] := by
  rintro rfl
  exact nomatch h.first

theorem isBlank_of_mem (h : IsZoneName name) : ∀ c ∈ name, isBlank c = false :=
  fun c hc => (classes_of_isZoneNameChar (List.all_eq_true.mp h.chars c hc)).2

theorem asciiDigits (h : IsZoneName name) : AsciiDigits name := by
  intro c hc hdigit
  have hlt := (classes_of_isZoneNameChar (List.all_eq_true.mp h.chars c hc)).1
  rwa [isDecimalDigit, if_pos hlt] at hdigit

end IsZoneName

namespace RegionDatabase

variable {db : RegionDatabase} {word : List Char} {r : Region}

theorem lower_eq_of_region? (h : db.region? word = some r) :
    r ∈ db.regions ∧ lower r.name.toList = lower word := by
  have hfound : sameFold r.name.toList word :=
    List.find?_some (p := fun r : Region => sameFold r.name.toList word) h
  exact ⟨List.mem_of_find?_eq_some h, beq_iff_eq.mp hfound⟩

theorem isZoneName_of_region? (h : db.region? word = some r) : IsZoneName word := by
  obtain ⟨hmem, hlower⟩ := lower_eq_of_region? h
  exact (db.isZoneName r hmem).of_lower_eq hlower

end RegionDatabase

namespace ZoneTable

theorem isZoneName_builtinEntries : ∀ entry ∈ builtinEntries, IsZoneName entry.1.toList := by
  decide +kernel

/-- A word that the standard table knows is one of its names in some letter case. -/
theorem isZoneName_of_get? {word : List Char} {offset : Offset}
    (h : builtin.get? word = some offset) : IsZoneName word := by
  obtain ⟨before, behind, hentries, -⟩ := List.lookup_eq_some_iff.mp h
  have hmem : (key word, offset) ∈ builtinEntries := by
    change builtinEntries = before ++ (key word, offset) :: behind at hentries
    rw [hentries]
    exact List.mem_append_right _ List.mem_cons_self
  apply (isZoneName_builtinEntries _ hmem).of_lower_eq
  rw [key, String.toList_ofList, lower_upper]

end ZoneTable

end ScalarWire
