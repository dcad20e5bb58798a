import Mathlib.Data.List.Dedup
import Mathlib.Tactic.SplitIfs
import ScalarWire.Proofs.Error
import ScalarWire.Proofs.Text.Letter
import ScalarWire.Zone.TableFile

/-!
# Zone tables as maps

A zone table is a map on names up to letter case. What is written under a name is found under every
spelling of it, a later write goes over an earlier one, and writing leaves the other names alone.
Every operation keeps one entry for each name, so the size of a table counts the names written. A
token that is no numeric offset stands for what the table holds under it, or else for a region.
-/

namespace ScalarWire.ZoneTable

open Text

/-- Two names are held in one form if they are equal up to letter case. -/
theorem key_eq_key_iff {name name' : List Char} : key name = key name' ↔ sameFold name name' := by
  rw [key, key, String.ofList_inj, sameFold, beq_iff_eq]
  constructor
  · intro h
    rw [← lower_upper name, h, lower_upper]
  · intro h
    rw [← upper_lower name, h, upper_lower]

/-- The forms of the names that a table holds. -/
def keys (t : ZoneTable) : List String :=
  t.entries.map (·.1)

section put

variable {entries others : List (String × Offset)} {key key' : String} {offset : Offset}

theorem lookup_filter_ne (h : key' ≠ key) :
    (entries.filter (·.1 != key)).lookup key' = entries.lookup key' := by
  induction entries with
  | nil => rfl
  | cons entry entries ih =>
      by_cases hentry : entry.1 = key
      · have hne : (key' == entry.1) = false := beq_eq_false_iff_ne.mpr (hentry ▸ h)
        rw [List.filter_cons_of_neg (by simpa using hentry), List.lookup_cons, hne, ih]
      · rw [List.filter_cons_of_pos (by simpa using hentry), List.lookup_cons, List.lookup_cons, ih]

theorem lookup_put :
    (put entries key offset).lookup key' =
      if key' = key then some offset else entries.lookup key' := by
  rw [put, List.lookup_cons]
  split_ifs with h
  · rw [beq_iff_eq.mpr h]
  · rw [beq_eq_false_iff_ne.mpr h]
    exact lookup_filter_ne h

theorem mem_map_put :
    key' ∈ (put entries key offset).map (·.1) ↔ key' = key ∨ key' ∈ entries.map (·.1) := by
  simp only [put, List.map_cons, List.mem_cons, List.mem_map, List.mem_filter, bne_iff_ne]
  constructor
  · rintro (h | ⟨entry, ⟨hmem, -⟩, rfl⟩)
    · exact Or.inl h
    · exact Or.inr ⟨entry, hmem, rfl⟩
  · rintro (h | ⟨entry, hmem, rfl⟩)
    · exact Or.inl h
    · by_cases h : entry.1 = key
      · exact Or.inl h
      · exact Or.inr ⟨entry, ⟨hmem, h⟩, rfl⟩

theorem nodup_map_put (h : (entries.map (·.1)).Nodup) :
    ((put entries key offset).map (·.1)).Nodup := by
  rw [put, List.map_cons, List.nodup_cons]
  constructor
  · simp
  · exact (List.filter_sublist.map _).nodup h

theorem lookup_foldr_put :
    (others.foldr (fun (key, offset) entries => put entries key offset) entries).lookup key' =
      (others.lookup key').or (entries.lookup key') := by
  induction others with
  | nil => rfl
  | cons other others ih =>
      rw [List.foldr_cons, lookup_put, ih, List.lookup_cons]
      by_cases h : key' = other.1
      · rw [if_pos h, beq_iff_eq.mpr h]
        rfl
      · rw [if_neg h, beq_eq_false_iff_ne.mpr h]

theorem mem_map_foldr_put :
    key' ∈ (others.foldr (fun (key, offset) entries => put entries key offset) entries).map (·.1) ↔
      key' ∈ others.map (·.1) ∨ key' ∈ entries.map (·.1) := by
  induction others with
  | nil => simp
  | cons other others ih =>
      rw [List.foldr_cons, mem_map_put, ih, List.map_cons, List.mem_cons, or_assoc]

theorem nodup_map_foldr_put (h : (entries.map (·.1)).Nodup) :
    ((others.foldr (fun (key, offset) entries => put entries key offset) entries).map
      (·.1)).Nodup := by
  induction others with
  | nil => exact h
  | cons other others ih => exact nodup_map_put ih

end put

variable {t other : ZoneTable} {name name' : List Char} {offset : Offset}

theorem get?_eq_none_iff : t.get? name = none ↔ key name ∉ t.keys := by
  rw [get?, List.lookup_eq_none_iff, keys, List.mem_map]
  constructor
  · rintro h ⟨entry, hmem, hkey⟩
    exact bne_iff_ne.mp (h entry hmem) hkey.symm
  · intro h entry hmem
    exact bne_iff_ne.mpr fun hkey => h ⟨entry, hmem, hkey.symm⟩

theorem get?_insert :
    (t.insert name offset).get? name' =
      if sameFold name name' then some offset else t.get? name' := by
  rw [get?, insert, lookup_put, get?]
  exact if_congr (key_eq_key_iff.trans (by rw [sameFold_comm])) rfl rfl

theorem get?_extend : (t.extend other).get? name = (other.get? name).or (t.get? name) :=
  lookup_foldr_put

theorem mem_keys_insert {key' : String} :
    key' ∈ (t.insert name offset).keys ↔ key' = key name ∨ key' ∈ t.keys :=
  mem_map_put

theorem mem_keys_extend {key' : String} :
    key' ∈ (t.extend other).keys ↔ key' ∈ other.keys ∨ key' ∈ t.keys :=
  mem_map_foldr_put

theorem nodup_keys_insert (h : t.keys.Nodup) : (t.insert name offset).keys.Nodup :=
  nodup_map_put h

theorem nodup_keys_extend (h : t.keys.Nodup) : (t.extend other).keys.Nodup :=
  nodup_map_foldr_put h

/-- The size of a table is the number of different names in any list of those it holds. -/
theorem size_eq_length_dedup {names : List String} (hnodup : t.keys.Nodup)
    (hmem : ∀ key, key ∈ t.keys ↔ key ∈ names) : t.size = names.dedup.length := by
  have hperm : t.keys.Perm names.dedup := by
    rw [List.perm_ext_iff_of_nodup hnodup (List.nodup_dedup names)]
    intro key
    rw [List.mem_dedup, hmem]
  rw [← hperm.length_eq, keys, List.length_map, size]

/-! ### Tokens -/

section token

variable {regions : RegionDatabase} {type : WireType} {token : List Char}

/-- Whether a token can only be a numeric offset. -/
def isSigned (token : List Char) : Bool :=
  token.head?.any fun c => c == '+' || c == '-'

theorem isSigned_iff :
    isSigned token ↔ (∃ rest, token = '+' :: rest) ∨ ∃ rest, token = '-' :: rest := by
  cases token with
  | nil => simp [isSigned]
  | cons c rest => simp [isSigned]

/-- What a trimmed token stands for, if it stands for anything. -/
def zone? (t : ZoneTable) (regions : RegionDatabase) (token : List Char) : Option Zone :=
  if isSigned token then
    ((Offset.readSeconds? token).bind Offset.ofDisplacement?).map .fixed
  else
    ((t.get? token).map .fixed).or ((regions.region? token).map .region)

/-- A token is accepted exactly if it stands for something. -/
theorem resolve_eq_ok_iff {zone : Zone} :
    t.resolve regions type token = .ok zone ↔ t.zone? regions (trim token) = some zone := by
  unfold resolve
  generalize trim token = word
  by_cases hsigned : isSigned word
  · rw [zone?, if_pos hsigned]
    obtain ⟨rest, rfl⟩ | ⟨rest, rfl⟩ := isSigned_iff.mp hsigned
    all_goals
      dsimp only
      generalize Offset.readSeconds? _ = east?
      rcases east? with - | east
      · exact ⟨fun h => (nomatch h), fun h => (nomatch h)⟩
      · dsimp only [Option.bind_some]
        rcases Offset.ofDisplacement? east with - | offset
        · exact ⟨fun h => (nomatch h), fun h => (nomatch h)⟩
        · exact pure_eq_ok_iff.trans Option.some_inj.symm
  · rw [zone?, if_neg hsigned]
    dsimp only
    split
    · exact absurd rfl hsigned
    · exact absurd rfl hsigned
    · rcases t.get? word with - | offset
      · rcases regions.region? word with - | region
        · exact ⟨fun h => (nomatch h), fun h => (nomatch h)⟩
        · exact pure_eq_ok_iff.trans Option.some_inj.symm
      · exact pure_eq_ok_iff.trans Option.some_inj.symm

end token

/-- What a token resolves to depends on the table only through the offset under its name. -/
theorem resolve_congr {regions : RegionDatabase} {type : WireType} {token : List Char}
    (h : t.get? (trim token) = other.get? (trim token)) :
    t.resolve regions type token = other.resolve regions type token := by
  unfold resolve
  simp only [h]

/-! ### Names and offsets in the order of writing -/

/-- What was written last under a name, in any letter case. The latest writes come first. -/
def latest? (log : List (List Char × Offset)) (name : List Char) : Option Offset :=
  (log.find? fun write => sameFold write.1 name).map (·.2)

section latest

variable {log log' : List (List Char × Offset)}

theorem latest?_cons (write : List Char × Offset) :
    latest? (write :: log) name =
      if sameFold write.1 name then some write.2 else latest? log name := by
  rw [latest?, List.find?_cons]
  cases sameFold write.1 name <;> rfl

theorem latest?_append :
    latest? (log ++ log') name = (latest? log name).or (latest? log' name) := by
  rw [latest?, List.find?_append, Option.map_or]
  rfl

theorem latest?_eq_none_iff :
    latest? log name = none ↔ ∀ write ∈ log, sameFold write.1 name = false := by
  rw [latest?, Option.map_eq_none_iff, List.find?_eq_none]
  simp only [Bool.not_eq_true]

/-- No name is written twice, in any letter case. -/
def NamesDiffer (log : List (List Char × Offset)) : Prop :=
  log.Pairwise fun write write' => sameFold write.1 write'.1 = false

instance (log : List (List Char × Offset)) : Decidable (NamesDiffer log) :=
  inferInstanceAs (Decidable (log.Pairwise _))

/-- A table with these entries, of which later ones go over earlier ones. -/
def insertAll (t : ZoneTable) (writes : List (List Char × Offset)) : ZoneTable :=
  writes.foldl (fun t write => t.insert write.1 write.2) t

theorem insertAll_cons (write : List Char × Offset) (writes : List (List Char × Offset)) :
    t.insertAll (write :: writes) = (t.insert write.1 write.2).insertAll writes := rfl

/-- If all names differ, it does not matter in which order they are written. -/
theorem get?_insertAll {writes : List (List Char × Offset)} (h : NamesDiffer writes) :
    (t.insertAll writes).get? name = (latest? writes name).or (t.get? name) := by
  induction writes generalizing t with
  | nil => rfl
  | cons write writes ih =>
      obtain ⟨hwrite, hwrites⟩ := List.pairwise_cons.mp h
      rw [insertAll_cons, ih hwrites, get?_insert, latest?_cons]
      by_cases hsame : sameFold write.1 name
      · have hnone : latest? writes name = none := by
          rw [latest?_eq_none_iff]
          intro write' hmem
          rw [← hwrite write' hmem, sameFold, sameFold, beq_iff_eq.mp hsame]
          exact Bool.beq_comm
        rw [if_pos hsame, if_pos hsame, hnone]
        rfl
      · rw [if_neg hsame, if_neg hsame]

theorem mem_keys_insertAll {key' : String} {writes : List (List Char × Offset)} :
    key' ∈ (t.insertAll writes).keys ↔ key' ∈ writes.map (fun w => key w.1) ∨ key' ∈ t.keys := by
  induction writes generalizing t with
  | nil => simp [insertAll]
  | cons write writes ih =>
      rw [insertAll_cons, ih, mem_keys_insert, List.map_cons, List.mem_cons]
      tauto

end latest

theorem version_insertAll (writes : List (List Char × Offset)) :
    (t.insertAll writes).version = t.version := by
  induction writes generalizing t with
  | nil => rfl
  | cons write writes ih => rw [insertAll_cons, ih, insert]

/-! ### The built-in abbreviations -/

theorem key_of_mem_builtinEntries :
    ∀ entry ∈ builtinEntries, key entry.1.toList = entry.1 := by
  decide +kernel

theorem nodup_keys_builtin : builtin.keys.Nodup := by
  decide +kernel

/-- The built-in abbreviations as they were written. -/
def builtinLog : List (List Char × Offset) :=
  builtinEntries.map fun entry => (entry.1.toList, entry.2)

/-- A table whose names are held in their own form finds what its entries say. -/
theorem get?_eq_latest? (h : ∀ entry ∈ t.entries, key entry.1.toList = entry.1) :
    t.get? name = latest? (t.entries.map fun entry => (entry.1.toList, entry.2)) name := by
  obtain ⟨version, entries⟩ := t
  dsimp only at h
  rw [get?]
  dsimp only
  induction entries with
  | nil => rfl
  | cons entry entries ih =>
      obtain ⟨hentry, hentries⟩ := List.forall_mem_cons.mp h
      have hsame : (key name == entry.1) = sameFold entry.1.toList name := by
        rw [Bool.eq_iff_iff, beq_iff_eq, ← key_eq_key_iff, hentry]
        exact eq_comm
      rw [List.map_cons, latest?_cons, List.lookup_cons, hsame, ih hentries]
      cases sameFold entry.1.toList name <;> rfl

theorem get?_builtin : builtin.get? name = latest? builtinLog name :=
  get?_eq_latest? key_of_mem_builtinEntries

theorem mem_keys_builtin {key' : String} :
    key' ∈ builtin.keys ↔ key' ∈ builtinLog.map fun write => key write.1 := by
  rw [builtinLog, List.map_map, keys]
  refine iff_of_eq (congrArg (key' ∈ ·) (List.map_congr_left ?_))
  intro entry hmem
  exact (key_of_mem_builtinEntries entry hmem).symm

/-! ### Documents -/

/-- What an entry of a document writes, provided that its offset can be read. -/
def writeOf? (entry : String × String) : Option (List Char × Offset) :=
  (readOffset entry.1 entry.2).toOption.map (entry.1.toList, ·)

/-- What a document writes, and its version, provided that it is accepted. -/
def document? (text : List Char) : Option (String × List (List Char × Offset)) :=
  ((Json.ofText? text).bind ZoneTableFile.ofJson?).bind fun file =>
    (file.zones.mapM writeOf?).map (file.version?.getD "custom", ·)

theorem foldlM_insert_eq_ok_iff {entries : List (String × String)} {t' : ZoneTable} :
    entries.foldlM (fun t (name, offset) => return t.insert name.toList (← readOffset name offset))
        t = .ok t' ↔
      ∃ writes, entries.mapM writeOf? = some writes ∧ t.insertAll writes = t' := by
  induction entries generalizing t with
  | nil =>
      constructor
      · intro h
        exact ⟨[], rfl, pure_eq_ok_iff.mp h⟩
      · rintro ⟨writes, hread, rfl⟩
        cases hread
        rfl
  | cons entry entries ih =>
      rw [List.foldlM_cons, bind_eq_ok_iff, List.mapM_cons]
      constructor
      · rintro ⟨t₁, hstep, hrest⟩
        obtain ⟨offset, hoffset, rfl⟩ := bind_pure_eq_ok_iff.mp hstep
        obtain ⟨writes, hwrites, rfl⟩ := ih.mp hrest
        refine ⟨(entry.1.toList, offset) :: writes, ?_, rfl⟩
        rw [writeOf?, hoffset, hwrites]
        rfl
      · rintro ⟨writes, hread, rfl⟩
        obtain ⟨write, hwrite, hread⟩ := Option.bind_eq_some_iff.mp hread
        obtain ⟨later, hlater, hread⟩ := Option.bind_eq_some_iff.mp hread
        obtain ⟨offset, hoffset, rfl⟩ := Option.map_eq_some_iff.mp hwrite
        cases hread
        exact ⟨_, bind_eq_of_ok (toOption_eq_some_iff.mp hoffset), ih.mpr ⟨later, hlater, rfl⟩⟩

/-- The table of a document is made of what the document writes. -/
theorem ofJsonText_eq_ok_iff {text : List Char} :
    ofJsonText text = .ok t ↔
      ∃ version writes, document? text = some (version, writes) ∧
        (empty version).insertAll writes = t := by
  rw [ofJsonText, document?]
  cases (Json.ofText? text).bind ZoneTableFile.ofJson? with
  | none => exact ⟨fun h => (nomatch h), fun ⟨_, _, h, _⟩ => (nomatch h)⟩
  | some file =>
      dsimp only
      rw [ofEntries, foldlM_insert_eq_ok_iff, Option.bind_some]
      constructor
      · rintro ⟨writes, hread, rfl⟩
        exact ⟨_, writes, by rw [hread]; rfl, rfl⟩
      · rintro ⟨version, writes, hread, rfl⟩
        obtain ⟨writes, hwrites, heq⟩ := Option.map_eq_some_iff.mp hread
        cases heq
        exact ⟨writes, hwrites, rfl⟩

end ScalarWire.ZoneTable
