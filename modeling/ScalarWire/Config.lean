import ScalarWire.Error
import ScalarWire.Json.Tree
import ScalarWire.Literal.Date
import ScalarWire.Text.Blank
import ScalarWire.Text.Letter

/-!
# Configuration

The settings of a registry, from a JSON document or from environment variables. What is left out
keeps its default.
-/

namespace ScalarWire

namespace DateOrder

def name : DateOrder → String
  | mdy => "MDY"
  | dmy => "DMY"
  | ymd => "YMD"

def ofName? (s : String) : Option DateOrder :=
  [mdy, dmy, ymd].find? (·.name == s)

/-- Reads a date order in any letter case; two of them go by another name as well. -/
def ofText (s : List Char) : Except ConfigError DateOrder :=
  match String.ofList (Text.upper (Text.trim s)) with
  | "MDY" | "US" => pure mdy
  | "DMY" | "EUROPEAN" => pure dmy
  | "YMD" => pure ymd
  | _ => throw (.invalidDateOrder (String.ofList s))

/-- A date order by its exact name, or as an object with that name as its only key. -/
def ofJson? : Json → Option DateOrder
  | .object [(key, .null)] => key.string?.bind ofName?
  | j => j.string?.bind ofName?

end DateOrder

/-- The settings of a registry. `zoneTable?` is the path of a table that goes over the built-in
abbreviations. -/
structure Config where
  dateOrder : DateOrder
  sessionTimeZone : String
  zoneTable? : Option String
  deriving DecidableEq, Repr

namespace Config

def standard : Config :=
  ⟨.mdy, "UTC", none⟩

/-- The value of a field, or its default where the field is left out. -/
def field {α : Type} (default : α) (read? : Json → Option α) : Option Json → Option α
  | some j => read? j
  | none => some default

def ofJson? (j : Json) : Option Config :=
  match j.fields? ["date_order", "session_time_zone", "timezone_table"] with
  | some [order, zone, table] => do
    return ⟨← field standard.dateOrder DateOrder.ofJson? order,
      ← field standard.sessionTimeZone Json.string? zone,
      ← field standard.zoneTable? Json.optionalString? table⟩
  | _ => none

def ofJsonText (s : List Char) : Except ConfigError Config :=
  match (Json.ofText? s).bind ofJson? with
  | some config => pure config
  | none => throw .malformedJson

/-- The date order that a variable sets; one that cannot be read is passed over. -/
def dateOrderOf (setting? : Option String) : DateOrder :=
  match setting? with
  | none => standard.dateOrder
  | some s =>
    match DateOrder.ofText s.toList with
    | .ok order => order
    | .error _ => standard.dateOrder

/-- The settings of an environment. Blank variables are passed over. -/
def ofEnvironment (get? : String → Option String) : Config where
  dateOrder := dateOrderOf (get? "PGCODEC_DATE_ORDER")
  sessionTimeZone :=
    match (get? "PGCODEC_TIMEZONE").map fun s => Text.trim s.toList with
    | some (c :: s) => String.ofList (c :: s)
    | _ => standard.sessionTimeZone
  zoneTable? := (get? "PGCODEC_TIMEZONE_TABLE").filter (· != "")

end Config

end ScalarWire
