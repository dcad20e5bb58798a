import ScalarWire.Codec
import ScalarWire.Config
import ScalarWire.Zone.TableFile

/-!
# Registries

A registry reads and writes the values of all column types under one parse context. It is built
over a region database from a configuration; a table named there is read through a function from
paths to contents.
-/

namespace ScalarWire

structure Registry where
  context : Context
  deriving DecidableEq

namespace Registry

def standard (regions : RegionDatabase) : Registry :=
  ⟨.standard regions⟩

/-- The built-in abbreviations with those of the configured table over them. -/
def zonesOf (contents? : String → Option String) (config : Config) :
    Except ConfigError ZoneTable :=
  match config.zoneTable? with
  | none => pure .builtin
  | some path =>
    match contents? path with
    | none => throw .unreadable
    | some text => (ZoneTable.ofJsonText text.toList).map ZoneTable.builtin.extend

def ofConfig (regions : RegionDatabase) (contents? : String → Option String) (config : Config) :
    Except ConfigError Registry := do
  let zones ← zonesOf contents? config
  match zones.resolve regions .timestamptz config.sessionTimeZone.toList with
  | .ok zone => return ⟨⟨config.dateOrder, zones, regions, zone⟩⟩
  | .error _ => throw (.unknownZone config.sessionTimeZone)

/-- The registry of an environment. Where its settings cannot be used, all of them are passed
over. -/
def ofEnvironment (regions : RegionDatabase) (contents? get? : String → Option String) : Registry :=
  match ofConfig regions contents? (.ofEnvironment get?) with
  | .ok r => r
  | .error _ => standard regions

variable (r : Registry)

def decode (type : WireType) (p : Payload) : Except Failure Value :=
  Codec.decode type r.context p

def decodeText (type : WireType) (s : List Char) : Except Failure Value :=
  r.decode type (.ofText s)

/-- Reads a value by the object number of its type, if that is known. -/
def decodeOid? (oid : Int) (p : Payload) : Option (Except Failure Value) :=
  (WireType.ofOid? oid).map fun type => r.decode type p

def encode (_r : Registry) (type : WireType) (v : Value) (format : Format) :
    Except CodecError Payload :=
  Codec.encode type v format

def encodeText (type : WireType) (v : Value) : Except CodecError (List Char) :=
  (r.encode type v .text).map fun p => Utf8.decodeLossy p.bytes

/-- What one column of a row gives: nothing for null, else a value or an error of its own. -/
abbrev Column := Except CodecError (Option Value)

def decodeColumn (type : WireType) (p? : Option Payload) : Except Failure Column :=
  match p? with
  | none => pure (pure none)
  | some p =>
    match r.decode type p with
    | .ok v => pure (pure (some v))
    | .error (.rejected e) => pure (throw e)
    | .error .aborted => throw .aborted

/-- Reads a row column by column. An error stays within its column; only what ends for good ends
the row. -/
def decodeRow (columns : List (WireType × Option Payload)) : Except Failure (List Column) :=
  columns.mapM fun (type, p?) => r.decodeColumn type p?

end Registry

end ScalarWire
