import ScalarWire.Proofs.Zone.Table
import ScalarWire.Registry

/-!
# Histories of zone tables

A zone table comes from the empty or the built-in one by single writes and by extensions with other
tables, which have histories of their own, or with documents, of which some are refused. Whatever
the history, the offset under a name is the one written last under any spelling of that name.
-/

namespace ScalarWire

open Text

mutual

/-- How a zone table came about. -/
inductive ZoneHistory where
  | empty (version : String)
  | builtin
  | after (before : ZoneHistory) (op : ZoneOperation)

/-- A step in the history of a zone table. -/
inductive ZoneOperation where
  | insert (name : List Char) (offset : Offset)
  | extend (other : ZoneHistory)
  | document (text : List Char)

end

mutual

/-- The table that comes from a history. -/
def ZoneHistory.table : ZoneHistory → ZoneTable
  | .empty version => .empty version
  | .builtin => .builtin
  | .after before op => op.apply before.table

/-- What a step makes of a table. A document that is refused adds nothing. -/
def ZoneOperation.apply : ZoneOperation → ZoneTable → ZoneTable
  | .insert name offset, t => t.insert name offset
  | .extend other, t => t.extend other.table
  | .document text, t =>
    match ZoneTable.ofJsonText text with
    | .ok other => t.extend other
    | .error _ => t

end

mutual

/-- Every write of a history, the latest first. -/
def ZoneHistory.log : ZoneHistory → List (List Char × Offset)
  | .empty _ => []
  | .builtin => ZoneTable.builtinLog
  | .after before op => op.log ++ before.log

/-- Every write of a step. Those of a document stand in the order of the document. -/
def ZoneOperation.log : ZoneOperation → List (List Char × Offset)
  | .insert name offset => [(name, offset)]
  | .extend other => other.log
  | .document text => (ZoneTable.document? text).elim [] (·.2)

end

mutual

/-- The version of the last extension, or of the table at the start. -/
def ZoneHistory.version : ZoneHistory → String
  | .empty version => version
  | .builtin => "builtin-1"
  | .after before op => op.version?.getD before.version

/-- The version that a step brings, if it is an extension. -/
def ZoneOperation.version? : ZoneOperation → Option String
  | .insert _ _ => none
  | .extend other => some other.version
  | .document text => (ZoneTable.document? text).map (·.1)

end

mutual

/-- No document in a history gives a name twice, in any letter case. -/
def ZoneHistory.IsUnambiguous : ZoneHistory → Prop
  | .empty _ => True
  | .builtin => True
  | .after before op => op.IsUnambiguous ∧ before.IsUnambiguous

def ZoneOperation.IsUnambiguous : ZoneOperation → Prop
  | .insert _ _ => True
  | .extend other => other.IsUnambiguous
  | .document text => ZoneTable.NamesDiffer (ZoneOperation.document text).log

end

namespace ZoneTable

/-- A document either is refused and writes nothing, or gives a table of what it writes. -/
theorem ofJsonText_cases (text : List Char) :
    (∃ e, ofJsonText text = .error e ∧ document? text = none) ∨
      ∃ version writes, ofJsonText text = .ok ((empty version).insertAll writes) ∧
        document? text = some (version, writes) := by
  cases hdocument : document? text with
  | some result =>
      obtain ⟨version, writes⟩ := result
      exact Or.inr
        ⟨version, writes, ofJsonText_eq_ok_iff.mpr ⟨version, writes, hdocument, rfl⟩, rfl⟩
  | none =>
      cases hread : ofJsonText text with
      | error e => exact Or.inl ⟨e, rfl, rfl⟩
      | ok t =>
          obtain ⟨version, writes, h, -⟩ := ofJsonText_eq_ok_iff.mp hread
          rw [hdocument] at h
          exact nomatch h

end ZoneTable

open ZoneTable

/-! ### One step -/

namespace ZoneOperation

theorem isUnambiguous_document (text : List Char) :
    (document text).IsUnambiguous ↔ NamesDiffer (document text).log :=
  Iff.rfl

theorem nodup_keys_apply (op : ZoneOperation) {t : ZoneTable} (h : t.keys.Nodup) :
    (op.apply t).keys.Nodup := by
  cases op with
  | insert name offset => exact nodup_keys_insert h
  | extend other => exact nodup_keys_extend h
  | document text =>
      rw [apply]
      split
      · exact nodup_keys_extend h
      · exact h

end ZoneOperation

mutual

/-- The names that a table holds are those that were ever written. -/
theorem ZoneHistory.mem_keys_table : (h : ZoneHistory) → ∀ key',
    key' ∈ h.table.keys ↔ key' ∈ h.log.map fun write => key write.1
  | .empty _, _ => Iff.rfl
  | .builtin, _ => mem_keys_builtin
  | .after before op, key' => by
      rw [ZoneHistory.table, ZoneHistory.log, op.mem_keys_apply, List.map_append, List.mem_append,
        before.mem_keys_table]

theorem ZoneOperation.mem_keys_apply : (op : ZoneOperation) → ∀ (t : ZoneTable) (key' : String),
    key' ∈ (op.apply t).keys ↔ key' ∈ op.log.map (fun write => key write.1) ∨ key' ∈ t.keys
  | .insert name offset, t, key' => by
      rw [ZoneOperation.apply, ZoneOperation.log, mem_keys_insert, List.map_singleton,
        List.mem_singleton]
  | .extend other, t, key' => by
      rw [ZoneOperation.apply, ZoneOperation.log, mem_keys_extend, other.mem_keys_table]
  | .document text, t, key' => by
      rw [ZoneOperation.apply, ZoneOperation.log]
      obtain ⟨e, hread, hdocument⟩ | ⟨version, writes, hread, hdocument⟩ := ofJsonText_cases text
      · rw [hread, hdocument]
        exact (or_iff_right List.not_mem_nil).symm
      · rw [hread, hdocument]
        refine mem_keys_extend.trans (or_congr_left ?_)
        exact mem_keys_insertAll.trans (or_iff_left List.not_mem_nil)

end

mutual

theorem ZoneHistory.get?_table : (h : ZoneHistory) → h.IsUnambiguous → ∀ name,
    h.table.get? name = latest? h.log name
  | .empty _, _, _ => rfl
  | .builtin, _, _ => get?_builtin
  | .after before op, h, name => by
      rw [ZoneHistory.table, ZoneHistory.log, op.get?_apply h.1, latest?_append,
        before.get?_table h.2]

/-- What a step has written goes over what was there, and the rest stays. -/
theorem ZoneOperation.get?_apply : (op : ZoneOperation) → op.IsUnambiguous →
    ∀ (t : ZoneTable) (name : List Char),
      (op.apply t).get? name = (latest? op.log name).or (t.get? name)
  | .insert written offset, _, t, name => by
      rw [ZoneOperation.apply, ZoneOperation.log, get?_insert, latest?_cons]
      cases sameFold written name <;> rfl
  | .extend other, h, t, name => by
      rw [ZoneOperation.apply, ZoneOperation.log, get?_extend, other.get?_table h]
  | .document text, h, t, name => by
      rw [ZoneOperation.isUnambiguous_document, ZoneOperation.log] at h
      rw [ZoneOperation.apply, ZoneOperation.log]
      obtain ⟨e, hread, hdocument⟩ | ⟨version, writes, hread, hdocument⟩ := ofJsonText_cases text
      · rw [hread, hdocument]
        rfl
      · rw [hdocument] at h ⊢
        rw [hread]
        refine get?_extend.trans (congrArg (Option.or · (t.get? name)) ?_)
        exact (get?_insertAll h).trans Option.or_none

end

mutual

theorem ZoneHistory.version_table : (h : ZoneHistory) → h.table.version = h.version
  | .empty _ => rfl
  | .builtin => rfl
  | .after before op => by
      rw [ZoneHistory.table, ZoneHistory.version, op.version_apply, before.version_table]

theorem ZoneOperation.version_apply : (op : ZoneOperation) → ∀ t : ZoneTable,
    (op.apply t).version = op.version?.getD t.version
  | .insert _ _, _ => rfl
  | .extend other, t => by
      rw [ZoneOperation.apply, ZoneOperation.version?, extend, other.version_table]
      rfl
  | .document text, t => by
      rw [ZoneOperation.apply, ZoneOperation.version?]
      obtain ⟨e, hread, hdocument⟩ | ⟨version, writes, hread, hdocument⟩ := ofJsonText_cases text
      · rw [hread, hdocument]
        rfl
      · rw [hread, hdocument]
        exact version_insertAll writes

end

/-- A step leaves alone every name that it does not write, also if a document gives a name twice. -/
theorem ZoneOperation.get?_apply_of_forall (op : ZoneOperation) (t : ZoneTable) {name : List Char}
    (h : ∀ write ∈ op.log, sameFold write.1 name = false) :
    (op.apply t).get? name = t.get? name := by
  have hextend : ∀ {other : ZoneTable},
      (∀ key', key' ∈ other.keys ↔ key' ∈ op.log.map fun write => key write.1) →
        (t.extend other).get? name = t.get? name := by
    intro other hkeys
    have hnone : other.get? name = none := by
      rw [get?_eq_none_iff, hkeys, List.mem_map]
      rintro ⟨write, hmem, hkey⟩
      exact Bool.eq_false_iff.mp (h write hmem) (key_eq_key_iff.mp hkey)
    rw [get?_extend, hnone, Option.none_or]
  cases op with
  | insert written offset =>
      have hne : sameFold written name = false := h (written, offset) List.mem_cons_self
      rw [apply, get?_insert, hne]
      rfl
  | extend other => exact hextend other.mem_keys_table
  | document text =>
      rw [apply]
      obtain ⟨e, hread, -⟩ | ⟨version, writes, hread, hdocument⟩ := ofJsonText_cases text
      · rw [hread]
      · rw [hread]
        apply hextend
        intro key'
        rw [log, hdocument]
        exact mem_keys_insertAll.trans (or_iff_left List.not_mem_nil)

/-! ### Whole histories -/

namespace ZoneHistory

theorem nodup_keys_table : (h : ZoneHistory) → h.table.keys.Nodup
  | .empty _ => List.nodup_nil
  | .builtin => nodup_keys_builtin
  | .after before op => op.nodup_keys_apply before.nodup_keys_table

/-- The offset under a name is the one that was written last, in any letter case, and there is one
entry for each name; the version is that of the last extension. A document that is refused changes
nothing, and no step changes what a token stands for unless it writes the name of that token. -/
theorem last_write_wins (h : ZoneHistory) (hdocuments : h.IsUnambiguous) :
    (∀ name, h.table.get? name = latest? h.log name) ∧
      h.table.size = (h.log.map fun write => key write.1).dedup.length ∧
      h.table.version = h.version ∧
      (∀ text e, ofJsonText text = .error e → (h.after (.document text)).table = h.table) ∧
      ∀ op regions type token, (∀ write ∈ op.log, sameFold write.1 (trim token) = false) →
        (h.after op).table.resolve regions type token = h.table.resolve regions type token := by
  refine ⟨h.get?_table hdocuments, ?_, h.version_table, ?_, ?_⟩
  · exact size_eq_length_dedup h.nodup_keys_table h.mem_keys_table
  · intro text e hread
    rw [table, ZoneOperation.apply, hread]
  · intro op regions type token hforall
    apply resolve_congr
    exact op.get?_apply_of_forall h.table hforall

/-- A single write, an extension with another table and two documents, of which the second is
refused. -/
def site : ZoneHistory :=
  let written := ZoneHistory.builtin.after (.insert ['l', 'h', 's', 't'] .utc)
  let extended := written.after (.extend ((empty "other").after (.insert ['E', 's', 'T'] .utc)))
  let documented := extended.after
    (.document "\x7b\"version\": \"site\", \"zones\": \x7b\"LHST\": \"+10:30\"\x7d\x7d".toList)
  documented.after (.document "\x7b\"zones\": \x7b\"EST\": \"noon\"\x7d\x7d".toList)

theorem last_write_wins_site :
    site.IsUnambiguous ∧ site.table.get? ['L', 'h', 's', 't'] = some ⟨37800, by decide⟩ ∧
      site.table.size = 45 ∧ site.table.version = "site" := by
  have hdocuments : site.IsUnambiguous :=
    ⟨(ZoneOperation.isUnambiguous_document _).mpr (by decide +kernel),
      (ZoneOperation.isUnambiguous_document _).mpr (by decide +kernel),
      ⟨trivial, trivial⟩, trivial, trivial⟩
  obtain ⟨hget, hsize, hversion, -⟩ := last_write_wins site hdocuments
  exact ⟨hdocuments, (hget _).trans (by decide +kernel), hsize.trans (by decide +kernel),
    hversion.trans (by decide +kernel)⟩

end ZoneHistory

/-- The zones of a registry are the built-in ones, or those under a document. -/
theorem Registry.exists_history_of_zonesOf {contents? : String → Option String} {config : Config}
    {t : ZoneTable} (h : zonesOf contents? config = .ok t) :
    ∃ history : ZoneHistory, history.table = t := by
  unfold zonesOf at h
  split at h
  · exact ⟨.builtin, pure_eq_ok_iff.mp h⟩
  · split at h
    · exact nomatch h
    · next text _ =>
        refine ⟨.after .builtin (.document text.toList), ?_⟩
        rw [ZoneHistory.table, ZoneOperation.apply]
        cases hread : ofJsonText text.toList with
        | error e =>
            rw [hread] at h
            exact nomatch h
        | ok other =>
            rw [hread] at h
            exact Except.ok.inj h

end ScalarWire
