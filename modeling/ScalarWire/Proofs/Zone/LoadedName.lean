import ScalarWire.Proofs.Zone.LoadOrder
import ScalarWire.Proofs.Zone.Token
import ScalarWire.Zone.Excerpt

/-!
# The names of a loaded table

A table that was loaded from a document has the offset of every entry under its name. As a token the
name stands for this offset, unless it begins with a sign: what begins with a sign is a numeric
offset and is not looked up. A name with blanks around it is not looked up as it is held.
-/

namespace ScalarWire

open Text

namespace Offset

theorem ofDisplacement?_eq_some_iff {east : Int} {offset : Offset} :
    ofDisplacement? east = some offset ↔ offset.east = east ∧ east.natAbs ≤ maxDisplacement := by
  unfold ofDisplacement? ofSeconds?
  constructor
  · intro h
    split_ifs at h with hlimit hday
    cases h
    exact ⟨rfl, hlimit⟩
  · rintro ⟨rfl, hlimit⟩
    rw [if_pos hlimit, dif_pos offset.within_day]

end Offset

namespace ZoneTable

/-- The offset that a signed text spells, if the server accepts it. -/
def numericOffset? (s : List Char) : Option Offset :=
  (Offset.readSeconds? s).bind Offset.ofDisplacement?

theorem numericOffset?_eq_some_iff {s : List Char} {offset : Offset} :
    numericOffset? s = some offset ↔
      Offset.readSeconds? s = some offset.east ∧ offset.east.natAbs ≤ Offset.maxDisplacement := by
  rw [numericOffset?, Option.bind_eq_some_iff]
  simp only [Offset.ofDisplacement?_eq_some_iff]
  constructor
  · rintro ⟨east, hread, rfl, hlimit⟩
    exact ⟨hread, hlimit⟩
  · rintro ⟨hread, hlimit⟩
    exact ⟨_, hread, rfl, hlimit⟩

theorem isSigned_of_readSeconds? {s : List Char} {east : Int}
    (h : Offset.readSeconds? s = some east) : isSigned s := by
  obtain ⟨sign, rest, rfl, hsign, -⟩ := Offset.exists_sign_of_readSeconds? h
  rw [isSigned_iff]
  rcases hsign with rfl | rfl
  · exact Or.inl ⟨rest, rfl⟩
  · exact Or.inr ⟨rest, rfl⟩

section resolve

variable {t : ZoneTable} {regions : RegionDatabase} {type : WireType} {token : List Char}
  {offset : Offset}

theorem resolve_of_isSigned (h : isSigned (trim token)) :
    t.resolve regions type token = .ok (.fixed offset) ↔
      numericOffset? (trim token) = some offset := by
  rw [resolve_eq_ok_iff, zone?, if_pos h, ← numericOffset?, Option.map_eq_some_iff]
  simp only [Zone.fixed.injEq, exists_eq_right]

theorem resolve_of_get? (h : ¬isSigned (trim token)) (hget : t.get? (trim token) = some offset) :
    t.resolve regions type token = .ok (.fixed offset) := by
  rw [resolve_eq_ok_iff, zone?, if_neg h, hget]
  rfl

end resolve

section documents

variable {t loaded : ZoneTable} {name text : List Char} {file : ZoneTableFile}
  {entry : String × String} {offset : Offset} {log : List (List Char × Offset)}

theorem readOffset_eq_ok_iff {name text : String} :
    readOffset name text = .ok offset ↔ numericOffset? (trim text.toList) = some offset := by
  rw [readOffset, ← numericOffset?]
  cases numericOffset? (trim text.toList) with
  | none => constructor <;> (intro h; cases h)
  | some o => exact pure_eq_ok_iff.trans Option.some_inj.symm

theorem entryOffset?_eq_some_iff :
    entryOffset? entry = some offset ↔ numericOffset? (trim entry.2.toList) = some offset :=
  toOption_eq_some_iff.trans readOffset_eq_ok_iff

theorem ofJsonText_of_readFile? (h : readFile? text = some file) :
    ofJsonText text = ofEntries (file.version?.getD "custom") file.zones := by
  rw [ofJsonText, ← readFile?, h]

/-- A document is accepted exactly if all of its offsets can be read, and its table is then made of
what its entries write. -/
theorem ofJsonText_eq_ok_iff_readable (h : readFile? text = some file) :
    ofJsonText text = .ok loaded ↔
      Readable file.zones ∧
        (empty (file.version?.getD "custom")).insertAll (file.zones.filterMap writeOf?) =
          loaded := by
  rw [ofJsonText_of_readFile? h]
  by_cases hreadable : Readable file.zones
  · rw [ofEntries_of_readable hreadable (List.Perm.refl _)]
    exact ⟨fun hok => ⟨hreadable, Except.ok.inj hok⟩, fun hok => congrArg Except.ok hok.2⟩
  · obtain ⟨entry, -, -, herror⟩ :=
      exists_ofEntries_eq_error (file.version?.getD "custom") hreadable (List.Perm.refl _)
    rw [herror]
    exact ⟨fun hok => (nomatch hok), fun hok => absurd hok.1 hreadable⟩

/-- No two entries have one name, in any letter case. -/
def EntriesDiffer (zones : List (String × String)) : Prop :=
  zones.Pairwise fun entry entry' => sameFold entry.1.toList entry'.1.toList = false

instance (zones : List (String × String)) : Decidable (EntriesDiffer zones) :=
  inferInstanceAs (Decidable (zones.Pairwise _))

/-- What is written later goes over what was written before. -/
theorem get?_insertAll_eq_latest? (log : List (List Char × Offset)) :
    (t.insertAll log).get? name = (latest? log.reverse name).or (t.get? name) := by
  induction log using List.reverseRecOn with
  | nil => rfl
  | append_singleton log write ih =>
      rw [insertAll_concat, get?_insert, ih, List.reverse_concat, latest?_cons]
      by_cases hsame : sameFold write.1 name
      · rw [if_pos hsame, if_pos hsame]
        rfl
      · rw [if_neg hsame, if_neg hsame]

theorem exists_write_of_latest? (h : latest? log name = some offset) :
    ∃ write ∈ log, sameFold write.1 name ∧ write.2 = offset := by
  obtain ⟨write, hfind, rfl⟩ := Option.map_eq_some_iff.mp h
  have hsame : sameFold write.1 name :=
    List.find?_some (p := fun write : List Char × Offset => sameFold write.1 name) hfind
  exact ⟨write, List.mem_of_find?_eq_some hfind, hsame, rfl⟩

/-- Every name of a document is found, with the offset of an entry of that name in some letter
case. -/
theorem exists_entry_of_mem_zones (hread : readFile? text = some file)
    (hload : ofJsonText text = .ok loaded) (hmem : entry ∈ file.zones) :
    ∃ entry' ∈ file.zones, ∃ offset, sameFold entry'.1.toList entry.1.toList ∧
      entryOffset? entry' = some offset ∧ loaded.get? entry.1.toList = some offset := by
  obtain ⟨hreadable, rfl⟩ := (ofJsonText_eq_ok_iff_readable hread).mp hload
  obtain ⟨written, hwritten⟩ := Option.ne_none_iff_exists'.mp (hreadable entry hmem)
  have hwrite : (entry.1.toList, written) ∈ file.zones.filterMap writeOf? :=
    List.mem_filterMap.mpr ⟨entry, hmem, writeOf?_eq_some_iff.mpr ⟨rfl, hwritten⟩⟩
  have hsome : latest? (file.zones.filterMap writeOf?).reverse entry.1.toList ≠ none := by
    intro hnone
    have hdiffer := latest?_eq_none_iff.mp hnone _ (List.mem_reverse.mpr hwrite)
    exact ne_true_of_eq_false hdiffer (beq_self_eq_true _)
  obtain ⟨offset, hoffset⟩ := Option.ne_none_iff_exists'.mp hsome
  obtain ⟨write, hlog, hsame, rfl⟩ := exists_write_of_latest? hoffset
  obtain ⟨entry', hmem', hentry'⟩ := List.mem_filterMap.mp (List.mem_reverse.mp hlog)
  obtain ⟨hname, hfound⟩ := writeOf?_eq_some_iff.mp hentry'
  refine ⟨entry', hmem', write.2, hname ▸ hsame, hfound, ?_⟩
  rw [get?_insertAll_eq_latest?, hoffset]
  rfl

/-- If no two entries have one name, every entry is found under its own. -/
theorem get?_of_mem_zones (hread : readFile? text = some file)
    (hload : ofJsonText text = .ok loaded) (hdiffer : EntriesDiffer file.zones)
    (hmem : entry ∈ file.zones) :
    ∃ offset, entryOffset? entry = some offset ∧ loaded.get? entry.1.toList = some offset := by
  obtain ⟨entry', hmem', offset, hsame, hoffset, hget⟩ :=
    exists_entry_of_mem_zones hread hload hmem
  have hsymm : Std.Symm fun entry entry' : String × String =>
      sameFold entry.1.toList entry'.1.toList = false :=
    ⟨fun entry entry' h => (sameFold_comm _ _).trans h⟩
  have hentry : entry' = entry := by
    by_contra hne
    exact ne_true_of_eq_false (hdiffer.forall hmem' hmem hne) hsame
  exact ⟨offset, hentry ▸ hoffset, hget⟩

/-- A name without blanks around it resolves to the offset of its entry, unless it begins with a
sign and does not spell that offset itself. -/
theorem resolve_loaded_name_iff (regions : RegionDatabase) (type : WireType)
    (hread : readFile? text = some file) (hload : ofJsonText text = .ok loaded)
    (hdiffer : EntriesDiffer file.zones) (hmem : entry ∈ file.zones)
    (hname : trim entry.1.toList = entry.1.toList) :
    ∃ offset, entryOffset? entry = some offset ∧
      (loaded.resolve regions type entry.1.toList = .ok (.fixed offset) ↔
        (isSigned entry.1.toList → Offset.readSeconds? entry.1.toList = some offset.east)) := by
  obtain ⟨offset, hoffset, hget⟩ := get?_of_mem_zones hread hload hdiffer hmem
  refine ⟨offset, hoffset, ?_⟩
  by_cases hsigned : isSigned entry.1.toList
  · have hlimit := (numericOffset?_eq_some_iff.mp (entryOffset?_eq_some_iff.mp hoffset)).2
    rw [resolve_of_isSigned (hname.symm ▸ hsigned), hname, numericOffset?_eq_some_iff]
    exact ⟨fun h _ => h.1, fun h => ⟨h hsigned, hlimit⟩⟩
  · refine iff_of_true (resolve_of_get? ?_ ?_) fun h => absurd h hsigned
    · rwa [hname]
    · rwa [hname]

/-- A name in lower case is found in spite of its case. -/
theorem resolve_loaded_name_lower_case :
    readFile? "\x7b\"zones\": \x7b\"chst\": \"+10:00\"\x7d\x7d".toList =
        some ⟨none, [("chst", "+10:00")]⟩ ∧
      ofJsonText "\x7b\"zones\": \x7b\"chst\": \"+10:00\"\x7d\x7d".toList =
        .ok ⟨"custom", [("CHST", ⟨36000, by decide⟩)]⟩ ∧
      EntriesDiffer [("chst", "+10:00")] ∧ ("chst", "+10:00") ∈ [("chst", "+10:00")] ∧
      trim "chst".toList = "chst".toList ∧
      ∃ offset, entryOffset? ("chst", "+10:00") = some offset ∧
        ((⟨"custom", [("CHST", ⟨36000, by decide⟩)]⟩ : ZoneTable).resolve .excerpt .timetz
            "chst".toList = .ok (.fixed offset) ↔
          (isSigned "chst".toList → Offset.readSeconds? "chst".toList = some offset.east)) := by
  have hread : readFile? "\x7b\"zones\": \x7b\"chst\": \"+10:00\"\x7d\x7d".toList =
      some ⟨none, [("chst", "+10:00")]⟩ := by
    decide +kernel
  have hload : ofJsonText "\x7b\"zones\": \x7b\"chst\": \"+10:00\"\x7d\x7d".toList =
      .ok ⟨"custom", [("CHST", ⟨36000, by decide⟩)]⟩ := by
    decide +kernel
  have hdiffer : EntriesDiffer [("chst", "+10:00")] := by decide +kernel
  have hname : trim "chst".toList = "chst".toList := by decide +kernel
  exact ⟨hread, hload, hdiffer, List.mem_cons_self, hname,
    resolve_loaded_name_iff .excerpt .timetz hread hload hdiffer List.mem_cons_self hname⟩

/-- An entry whose name begins with a sign is loaded, and so is one whose name begins with a blank,
but neither name stands for its offset. -/
theorem exists_loaded_name_not_resolved :
    (∃ file loaded offset,
      readFile? "\x7b\"zones\": \x7b\"+X\": \"+01\"\x7d\x7d".toList = some file ∧
      ofJsonText "\x7b\"zones\": \x7b\"+X\": \"+01\"\x7d\x7d".toList = .ok loaded ∧
      EntriesDiffer file.zones ∧ ("+X", "+01") ∈ file.zones ∧
      entryOffset? ("+X", "+01") = some offset ∧
      loaded.resolve .excerpt .timetz "+X".toList = .error (.malformed .timetz "+X")) ∧
    ∃ file loaded offset,
      readFile? "\x7b\"zones\": \x7b\" XST\": \"+01\"\x7d\x7d".toList = some file ∧
      ofJsonText "\x7b\"zones\": \x7b\" XST\": \"+01\"\x7d\x7d".toList = .ok loaded ∧
      EntriesDiffer file.zones ∧ (" XST", "+01") ∈ file.zones ∧
      entryOffset? (" XST", "+01") = some offset ∧
      loaded.resolve .excerpt .timetz " XST".toList = .error (.unknownZone "XST") := by
  refine ⟨⟨⟨none, [("+X", "+01")]⟩, ⟨"custom", [("+X", ⟨3600, by decide⟩)]⟩, ⟨3600, by decide⟩, ?_⟩,
    ⟨none, [(" XST", "+01")]⟩, ⟨"custom", [(" XST", ⟨3600, by decide⟩)]⟩, ⟨3600, by decide⟩, ?_⟩
  · decide +kernel
  · decide +kernel

end documents

end ZoneTable

end ScalarWire
