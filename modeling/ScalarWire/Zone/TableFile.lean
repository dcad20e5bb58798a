import ScalarWire.Json.Tree
import ScalarWire.Zone.Table

/-!
# Zone table documents

A zone table as a JSON document: a version, which may be left out, and the zones, each with a
numeric offset as its text.
-/

namespace ScalarWire

/-- What a document says: its version, and for each zone name the text of its offset. -/
structure ZoneTableFile where
  version? : Option String
  zones : List (String × String)
  deriving DecidableEq, Repr

/-- Keeps the last of the values given to each key. -/
def lastValues {α β : Type} [BEq α] (entries : List (α × β)) : List (α × β) :=
  entries.foldr (fun (k, v) kept => if kept.any (·.1 == k) then kept else (k, v) :: kept) []

namespace ZoneTableFile

def ofJson? (j : Json) : Option ZoneTableFile :=
  match j.fields? ["version", "zones"] with
  | some [version?, some zones] => do
    let version? ← match version? with
      | some v => v.optionalString?
      | none => some none
    let entries ← (← zones.members?).mapM fun (name, offset) => offset.string?.map (name, ·)
    return ⟨version?, lastValues entries⟩
  | _ => none

end ZoneTableFile

namespace ZoneTable

/-- The offset of an entry, or the refusal of its text. -/
def readOffset (name offset : String) : Except ConfigError Offset :=
  match (Offset.readSeconds? (Text.trim offset.toList)).bind Offset.ofDisplacement? with
  | some o => pure o
  | none => throw (.invalidOffset name offset)

/-- The table with these entries, of which later ones go over earlier ones. -/
def ofEntries (version : String) (entries : List (String × String)) :
    Except ConfigError ZoneTable :=
  entries.foldlM (fun t (name, offset) => return t.insert name.toList (← readOffset name offset))
    (empty version)

/-- The table of a JSON document. -/
def ofJsonText (s : List Char) : Except ConfigError ZoneTable :=
  match (Json.ofText? s).bind ZoneTableFile.ofJson? with
  | some file => ofEntries (file.version?.getD "custom") file.zones
  | none => throw .malformedJson

end ZoneTable

end ScalarWire
