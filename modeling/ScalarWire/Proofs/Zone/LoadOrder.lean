import Mathlib.Data.List.Induction
import ScalarWire.Proofs.Zone.Table

/-!
# The order in which a zone table is loaded

A document that was read holds its zones in a hash map, and loading goes through them in whatever
order the map gives them. The order decides two things only: which of several offsets that cannot be
read is reported, which is the first, and which of several offsets that spellings of one name have
stays in the table, which is the last. It never decides whether the document is accepted, nor which
names the table knows.
-/

namespace ScalarWire.ZoneTable

open Text

/-- What is read from a document before any of its offsets is. -/
def readFile? (text : List Char) : Option ZoneTableFile :=
  (Json.ofText? text).bind ZoneTableFile.ofJson?

/-- A document may load to what its zones give in some order. -/
inductive MayLoad (text : List Char) : Except ConfigError ZoneTable → Prop
  | malformed (hread : readFile? text = none) : MayLoad text (.error .malformedJson)
  | ordered {file : ZoneTableFile} {zones : List (String × String)}
      (hread : readFile? text = some file) (hperm : zones.Perm file.zones) :
      MayLoad text (ofEntries (file.version?.getD "custom") zones)

/-- One table as a map, or one refusal. -/
def SameOutcome : Except ConfigError ZoneTable → Except ConfigError ZoneTable → Prop
  | .ok t, .ok t' => t.version = t'.version ∧ t.entries.Perm t'.entries
  | .error e, .error e' => e = e'
  | _, _ => False

instance (a b : Except ConfigError ZoneTable) : Decidable (SameOutcome a b) := by
  cases a <;> cases b <;> unfold SameOutcome <;> infer_instance

/-- Both are refused, or both are tables of one version that know the same names. -/
def SameNames : Except ConfigError ZoneTable → Except ConfigError ZoneTable → Prop
  | .ok t, .ok t' => t.version = t'.version ∧ t.keys.Perm t'.keys
  | .error _, .error _ => True
  | _, _ => False

/-! ### Entries in a given order -/

section entries

variable {version : String} {zones entries : List (String × String)} {entry : String × String}

/-- The offset of an entry, if it can be read. -/
def entryOffset? (entry : String × String) : Option Offset :=
  (readOffset entry.1 entry.2).toOption

theorem writeOf?_eq_some_iff {write : List Char × Offset} :
    writeOf? entry = some write ↔
      entry.1.toList = write.1 ∧ entryOffset? entry = some write.2 := by
  obtain ⟨name, offset⟩ := write
  rw [writeOf?, ← entryOffset?, Option.map_eq_some_iff]
  constructor
  · rintro ⟨o, ho, heq⟩
    cases heq
    exact ⟨rfl, ho⟩
  · rintro ⟨rfl, ho⟩
    exact ⟨offset, ho, rfl⟩

theorem readOffset_of_eq_none (h : entryOffset? entry = none) :
    readOffset entry.1 entry.2 = .error (.invalidOffset entry.1 entry.2) := by
  rw [entryOffset?, readOffset] at h
  rw [readOffset]
  split at h
  · exact nomatch h
  · rfl

/-- Entries are written as they come, up to the first whose offset cannot be read. -/
theorem foldlM_insert_eq {t : ZoneTable} :
    entries.foldlM (fun t (name, offset) => return t.insert name.toList (← readOffset name offset))
        t =
      match entries.find? fun entry => (entryOffset? entry).isNone with
      | some entry => .error (.invalidOffset entry.1 entry.2)
      | none => .ok (t.insertAll (entries.filterMap writeOf?)) := by
  induction entries generalizing t with
  | nil => rfl
  | cons entry entries ih =>
      rw [List.foldlM_cons, List.find?_cons]
      cases hoffset : entryOffset? entry with
      | none =>
          dsimp only [Option.isNone_none]
          rw [readOffset_of_eq_none hoffset]
          rfl
      | some offset =>
          have hwrite : writeOf? entry = some (entry.1.toList, offset) :=
            writeOf?_eq_some_iff.mpr ⟨rfl, hoffset⟩
          have hread := toOption_eq_some_iff.mp hoffset
          rw [bind_eq_of_ok (bind_pure_eq_ok_iff.mpr ⟨offset, hread, rfl⟩), ih,
            List.filterMap_cons_some hwrite]
          rfl

/-- All offsets can be read. -/
def Readable (entries : List (String × String)) : Prop :=
  ∀ entry ∈ entries, entryOffset? entry ≠ none

/-- If all offsets can be read, every order writes them all. -/
theorem ofEntries_of_readable (h : Readable zones) (hperm : entries.Perm zones) :
    ofEntries version entries =
      .ok ((empty version).insertAll (entries.filterMap writeOf?)) := by
  have hnone : entries.find? (fun entry => (entryOffset? entry).isNone) = none := by
    rw [List.find?_eq_none]
    intro entry hmem hisNone
    exact h entry (hperm.mem_iff.mp hmem) (Option.isNone_iff_eq_none.mp hisNone)
  rw [ofEntries, foldlM_insert_eq, hnone]

/-- If not, every order is refused, and the refusal names an entry whose offset cannot be read. -/
theorem exists_ofEntries_eq_error (version : String) (h : ¬Readable zones)
    (hperm : entries.Perm zones) :
    ∃ entry ∈ zones, entryOffset? entry = none ∧
      ofEntries version entries = .error (.invalidOffset entry.1 entry.2) := by
  rw [ofEntries, foldlM_insert_eq]
  cases hfind : entries.find? fun entry => (entryOffset? entry).isNone with
  | none =>
      rw [List.find?_eq_none] at hfind
      refine absurd (fun entry hmem hnone => ?_) h
      exact hfind entry (hperm.mem_iff.mpr hmem) (Option.isNone_iff_eq_none.mpr hnone)
  | some entry =>
      have hnone := List.find?_some hfind
      exact ⟨entry, hperm.mem_iff.mp (List.mem_of_find?_eq_some hfind),
        Option.isNone_iff_eq_none.mp hnone, rfl⟩

theorem ofEntries_cons_of_eq_none (h : entryOffset? entry = none) :
    ofEntries version (entry :: entries) = .error (.invalidOffset entry.1 entry.2) := by
  rw [ofEntries, foldlM_insert_eq, List.find?_cons, h]
  rfl

end entries

/-! ### What several writes leave in a table -/

section writes

variable {t : ZoneTable} {version : String} {writes writes' : List (List Char × Offset)}

theorem mem_entries_insert {name : List Char} {offset : Offset} {entry : String × Offset} :
    entry ∈ (t.insert name offset).entries ↔
      entry = (key name, offset) ∨ entry ∈ t.entries ∧ entry.1 ≠ key name := by
  rw [insert, put, List.mem_cons, List.mem_filter, bne_iff_ne]

theorem insertAll_concat (write : List Char × Offset) :
    t.insertAll (writes ++ [write]) = (t.insertAll writes).insert write.1 write.2 := by
  rw [insertAll, List.foldl_append]
  rfl

theorem nodup_keys_insertAll (h : t.keys.Nodup) : (t.insertAll writes).keys.Nodup := by
  induction writes generalizing t with
  | nil => exact h
  | cons write writes ih =>
      rw [insertAll_cons]
      exact ih (nodup_keys_insert h)

theorem nodup_keys_insertAll_empty : ((empty version).insertAll writes).keys.Nodup :=
  nodup_keys_insertAll List.nodup_nil

/-- All spellings of a name are given one offset. -/
def Consistent (writes : List (List Char × Offset)) : Prop :=
  ∀ write ∈ writes, ∀ write' ∈ writes, sameFold write.1 write'.1 → write.2 = write'.2

theorem mem_entries_insertAll_empty (h : Consistent writes) {entry : String × Offset} :
    entry ∈ ((empty version).insertAll writes).entries ↔
      ∃ write ∈ writes, entry = (key write.1, write.2) := by
  induction writes using List.reverseRecOn with
  | nil => simp [insertAll, empty]
  | append_singleton writes write ih =>
      have hinit : Consistent writes := fun w hw w' hw' =>
        h w (List.mem_append_left _ hw) w' (List.mem_append_left _ hw')
      rw [insertAll_concat, mem_entries_insert, ih hinit]
      constructor
      · rintro (rfl | ⟨⟨w, hw, rfl⟩, -⟩)
        · exact ⟨write, List.mem_append_right _ List.mem_cons_self, rfl⟩
        · exact ⟨w, List.mem_append_left _ hw, rfl⟩
      · rintro ⟨w, hw, rfl⟩
        rcases List.mem_append.mp hw with hold | hnew
        · by_cases hkey : key w.1 = key write.1
          -- an earlier write to the same name is gone, but it gave the same offset
          · have hoffset : w.2 = write.2 :=
              h w hw write (List.mem_append_right _ List.mem_cons_self) (key_eq_key_iff.mp hkey)
            exact Or.inl (by rw [hkey, hoffset])
          · exact Or.inr ⟨⟨w, hold, rfl⟩, hkey⟩
        · rw [List.mem_singleton.mp hnew]
          exact Or.inl rfl

theorem perm_keys_insertAll_empty (hperm : writes.Perm writes') :
    ((empty version).insertAll writes).keys.Perm ((empty version).insertAll writes').keys := by
  rw [List.perm_ext_iff_of_nodup nodup_keys_insertAll_empty nodup_keys_insertAll_empty]
  intro name
  rw [mem_keys_insertAll, mem_keys_insertAll, (hperm.map _).mem_iff]

theorem perm_entries_insertAll_empty (h : Consistent writes) (hperm : writes.Perm writes') :
    ((empty version).insertAll writes).entries.Perm
      ((empty version).insertAll writes').entries := by
  have h' : Consistent writes' := fun w hw w' hw' =>
    h w (hperm.mem_iff.mpr hw) w' (hperm.mem_iff.mpr hw')
  rw [List.perm_ext_iff_of_nodup (List.Nodup.of_map _ nodup_keys_insertAll_empty)
    (List.Nodup.of_map _ nodup_keys_insertAll_empty)]
  intro entry
  rw [mem_entries_insertAll_empty h, mem_entries_insertAll_empty h']
  simp only [hperm.mem_iff]

end writes

/-! ### Entries in every order -/

section orders

variable {version : String} {zones entries entries' : List (String × String)}

/-- At most one offset cannot be read, and if all can, then spellings of one name have the same. -/
structure OrderFree (zones : List (String × String)) : Prop where
  one_refusal : ∀ entry ∈ zones, ∀ entry' ∈ zones,
    entryOffset? entry = none → entryOffset? entry' = none → entry = entry'
  spellings : Readable zones → ∀ entry ∈ zones, ∀ entry' ∈ zones,
    sameFold entry.1.toList entry'.1.toList → entryOffset? entry = entryOffset? entry'

theorem consistent_filterMap_writeOf? (h : OrderFree zones) (hreadable : Readable zones)
    (hperm : entries.Perm zones) : Consistent (entries.filterMap writeOf?) := by
  intro write hwrite write' hwrite' hsame
  obtain ⟨entry, hmem, hentry⟩ := List.mem_filterMap.mp hwrite
  obtain ⟨entry', hmem', hentry'⟩ := List.mem_filterMap.mp hwrite'
  obtain ⟨hname, hoffset⟩ := writeOf?_eq_some_iff.mp hentry
  obtain ⟨hname', hoffset'⟩ := writeOf?_eq_some_iff.mp hentry'
  rw [← hname, ← hname'] at hsame
  have heq := h.spellings hreadable entry (hperm.mem_iff.mp hmem) entry' (hperm.mem_iff.mp hmem')
    hsame
  rw [hoffset, hoffset'] at heq
  exact Option.some.inj heq

/-- Every order accepts or none does, and an accepted document gives offsets to the same names. -/
theorem sameNames_ofEntries (hperm : entries.Perm zones) (hperm' : entries'.Perm zones) :
    SameNames (ofEntries version entries) (ofEntries version entries') := by
  by_cases hreadable : Readable zones
  · rw [ofEntries_of_readable hreadable hperm, ofEntries_of_readable hreadable hperm']
    refine ⟨?_, perm_keys_insertAll_empty ((hperm.trans hperm'.symm).filterMap _)⟩
    rw [version_insertAll, version_insertAll]
  · obtain ⟨entry, -, -, herror⟩ := exists_ofEntries_eq_error version hreadable hperm
    obtain ⟨entry', -, -, herror'⟩ := exists_ofEntries_eq_error version hreadable hperm'
    rw [herror, herror']
    trivial

theorem OrderFree.sameOutcome_ofEntries (h : OrderFree zones) (hperm : entries.Perm zones)
    (hperm' : entries'.Perm zones) :
    SameOutcome (ofEntries version entries) (ofEntries version entries') := by
  by_cases hreadable : Readable zones
  · rw [ofEntries_of_readable hreadable hperm, ofEntries_of_readable hreadable hperm']
    constructor
    · rw [version_insertAll, version_insertAll]
    · exact perm_entries_insertAll_empty (consistent_filterMap_writeOf? h hreadable hperm)
        ((hperm.trans hperm'.symm).filterMap _)
  · obtain ⟨entry, hmem, hnone, herror⟩ := exists_ofEntries_eq_error version hreadable hperm
    obtain ⟨entry', hmem', hnone', herror'⟩ := exists_ofEntries_eq_error version hreadable hperm'
    rw [herror, herror', h.one_refusal entry hmem entry' hmem' hnone hnone']
    exact rfl

/-- Any entry may come first, and what the first entry is refused for is what is reported. -/
theorem eq_of_sameOutcome_of_eq_none
    (h : ∀ entries entries', entries.Perm zones → entries'.Perm zones →
      SameOutcome (ofEntries version entries) (ofEntries version entries'))
    {entry entry' : String × String} (hmem : entry ∈ zones) (hmem' : entry' ∈ zones)
    (hnone : entryOffset? entry = none) (hnone' : entryOffset? entry' = none) :
    entry = entry' := by
  have hsame := h _ _ (List.perm_cons_erase hmem).symm (List.perm_cons_erase hmem').symm
  rw [ofEntries_cons_of_eq_none hnone, ofEntries_cons_of_eq_none hnone'] at hsame
  have herror : ConfigError.invalidOffset entry.1 entry.2 = .invalidOffset entry'.1 entry'.2 :=
    hsame
  injection herror with hname hoffset
  exact Prod.ext hname hoffset

/-- What is written last stays. -/
theorem mem_entries_concat (before : List (String × String)) {entry : String × String}
    {offset : Offset} (hoffset : entryOffset? entry = some offset) :
    (key entry.1.toList, offset) ∈
      ((empty version).insertAll ((before ++ [entry]).filterMap writeOf?)).entries := by
  have hwrite : writeOf? entry = some (entry.1.toList, offset) :=
    writeOf?_eq_some_iff.mpr ⟨rfl, hoffset⟩
  rw [List.filterMap_append, List.filterMap_cons_some hwrite, List.filterMap_nil,
    insertAll_concat, mem_entries_insert]
  exact Or.inl rfl

/-- Any entry may come last, and the table then has its offset under its name. -/
theorem entryOffset?_eq_of_sameOutcome
    (h : ∀ entries entries', entries.Perm zones → entries'.Perm zones →
      SameOutcome (ofEntries version entries) (ofEntries version entries'))
    (hreadable : Readable zones) {entry entry' : String × String} (hmem : entry ∈ zones)
    (hmem' : entry' ∈ zones) (hsame : sameFold entry.1.toList entry'.1.toList) :
    entryOffset? entry = entryOffset? entry' := by
  have hlast : ∀ entry ∈ zones, (zones.erase entry ++ [entry]).Perm zones := fun entry hmem =>
    (List.perm_append_singleton entry _).trans (List.perm_cons_erase hmem).symm
  obtain ⟨offset, hoffset⟩ := Option.ne_none_iff_exists'.mp (hreadable entry hmem)
  obtain ⟨offset', hoffset'⟩ := Option.ne_none_iff_exists'.mp (hreadable entry' hmem')
  have houtcome := h _ _ (hlast entry hmem) (hlast entry' hmem')
  rw [ofEntries_of_readable hreadable (hlast entry hmem),
    ofEntries_of_readable hreadable (hlast entry' hmem')] at houtcome
  have hin := houtcome.2.mem_iff.mp (mem_entries_concat _ hoffset)
  have hin' : _ ∈ ((empty version).insertAll _).entries :=
    mem_entries_concat (zones.erase entry') hoffset'
  rw [key_eq_key_iff.mpr hsame] at hin
  have hentry := List.inj_on_of_nodup_map nodup_keys_insertAll_empty hin hin' rfl
  rw [hoffset, hoffset', congrArg some (Prod.mk.inj hentry).2]

/-- The orders of the entries agree exactly if nothing in the entries tells them apart. -/
theorem sameOutcome_ofEntries_iff (version : String) :
    (∀ entries entries', entries.Perm zones → entries'.Perm zones →
      SameOutcome (ofEntries version entries) (ofEntries version entries')) ↔ OrderFree zones := by
  constructor
  · intro h
    constructor
    · intro entry hmem entry' hmem' hnone hnone'
      exact eq_of_sameOutcome_of_eq_none h hmem hmem' hnone hnone'
    · intro hreadable entry hmem entry' hmem' hsame
      exact entryOffset?_eq_of_sameOutcome h hreadable hmem hmem' hsame
  · intro h entries entries' hperm hperm'
    exact h.sameOutcome_ofEntries hperm hperm'

end orders

/-! ### Documents -/

section documents

variable {text : List Char} {a b : Except ConfigError ZoneTable}

theorem mayLoad_ofJsonText (text : List Char) : MayLoad text (ofJsonText text) := by
  rw [ofJsonText, ← readFile?]
  cases hread : readFile? text with
  | none => exact .malformed hread
  | some file => exact .ordered hread (List.Perm.refl _)

theorem MayLoad.eq_of_none (h : MayLoad text a) (hread : readFile? text = none) :
    a = .error .malformedJson := by
  cases h with
  | malformed => rfl
  | ordered hsome => exact nomatch hread.symm.trans hsome

theorem MayLoad.exists_perm {file : ZoneTableFile} (h : MayLoad text a)
    (hread : readFile? text = some file) :
    ∃ zones, zones.Perm file.zones ∧ a = ofEntries (file.version?.getD "custom") zones := by
  cases h with
  | malformed hnone => exact nomatch hread.symm.trans hnone
  | ordered hsome hperm =>
      cases hread.symm.trans hsome
      exact ⟨_, hperm, rfl⟩

theorem MayLoad.sameNames (ha : MayLoad text a) (hb : MayLoad text b) : SameNames a b := by
  cases hread : readFile? text with
  | none =>
      rw [ha.eq_of_none hread, hb.eq_of_none hread]
      trivial
  | some file =>
      obtain ⟨zones, hperm, rfl⟩ := ha.exists_perm hread
      obtain ⟨zones', hperm', rfl⟩ := hb.exists_perm hread
      exact sameNames_ofEntries hperm hperm'

theorem MayLoad.sameOutcome (ha : MayLoad text a) (hb : MayLoad text b)
    (h : ∀ file, readFile? text = some file → OrderFree file.zones) : SameOutcome a b := by
  cases hread : readFile? text with
  | none =>
      rw [ha.eq_of_none hread, hb.eq_of_none hread]
      exact rfl
  | some file =>
      obtain ⟨zones, hperm, rfl⟩ := ha.exists_perm hread
      obtain ⟨zones', hperm', rfl⟩ := hb.exists_perm hread
      exact (h file hread).sameOutcome_ofEntries hperm hperm'

theorem orderFree_of_sameOutcome (h : ∀ a b, MayLoad text a → MayLoad text b → SameOutcome a b)
    {file : ZoneTableFile} (hread : readFile? text = some file) : OrderFree file.zones := by
  refine (sameOutcome_ofEntries_iff (file.version?.getD "custom")).mp ?_
  intro entries entries' hperm hperm'
  exact h _ _ (.ordered hread hperm) (.ordered hread hperm')

/-- Loading agrees with every order of the zones on whether the document is accepted and on the
names that the table knows. All orders agree on the whole outcome exactly if the document has no two
offsets that cannot be read and, where it has none, no two offsets for one name. -/
theorem mayLoad_and_sameOutcome_iff (text : List Char) :
    MayLoad text (ofJsonText text) ∧
      (∀ a b, MayLoad text a → MayLoad text b → SameNames a b) ∧
      ((∀ a b, MayLoad text a → MayLoad text b → SameOutcome a b) ↔
        ∀ file, readFile? text = some file → OrderFree file.zones) := by
  refine ⟨mayLoad_ofJsonText text, fun a b ha hb => ha.sameNames hb, ?_, ?_⟩
  · intro h file hread
    exact orderFree_of_sameOutcome h hread
  · intro h a b ha hb
    exact ha.sameOutcome hb h

/-- A name in two spellings loads to the offset of one of them or of the other, and two offsets that
cannot be read to the refusal of one of them or of the other. -/
theorem exists_mayLoad_not_sameOutcome :
    (∃ a b,
      MayLoad "\x7b\"zones\": \x7b\"EST\": \"-05:00\", \"est\": \"-04:00\"\x7d\x7d".toList a ∧
      MayLoad "\x7b\"zones\": \x7b\"EST\": \"-05:00\", \"est\": \"-04:00\"\x7d\x7d".toList b ∧
      ¬SameOutcome a b) ∧
    ∃ a b,
      MayLoad "\x7b\"zones\": \x7b\"EST\": \"west\", \"EDT\": \"noon\"\x7d\x7d".toList a ∧
      MayLoad "\x7b\"zones\": \x7b\"EST\": \"west\", \"EDT\": \"noon\"\x7d\x7d".toList b ∧
      ¬SameOutcome a b := by
  have hspellings :
      readFile? "\x7b\"zones\": \x7b\"EST\": \"-05:00\", \"est\": \"-04:00\"\x7d\x7d".toList =
        some ⟨none, [("EST", "-05:00"), ("est", "-04:00")]⟩ := by
    decide +kernel
  have hrefusals :
      readFile? "\x7b\"zones\": \x7b\"EST\": \"west\", \"EDT\": \"noon\"\x7d\x7d".toList =
        some ⟨none, [("EST", "west"), ("EDT", "noon")]⟩ := by
    decide +kernel
  refine ⟨⟨_, _, .ordered hspellings (List.Perm.refl _),
    .ordered hspellings (List.Perm.swap _ _ _), ?_⟩, ⟨_, _, .ordered hrefusals (List.Perm.refl _),
    .ordered hrefusals (List.Perm.swap _ _ _), ?_⟩⟩
  · decide +kernel
  · decide +kernel

end documents

end ScalarWire.ZoneTable
