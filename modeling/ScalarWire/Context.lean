import ScalarWire.Literal.Date
import ScalarWire.Zone.Table

/-!
# Parse context

What the reading of dates and times depends on besides the text.
-/

namespace ScalarWire

/-- The order of numeric dates, the zone abbreviations, the regions, and the zone of text that names
none. -/
structure Context where
  dateOrder : DateOrder
  zones : ZoneTable
  regions : RegionDatabase
  sessionZone : Zone
  deriving DecidableEq

def Context.standard (regions : RegionDatabase) : Context :=
  ⟨.mdy, .builtin, regions, .fixed .utc⟩

end ScalarWire
