import ScalarWire.Error
import ScalarWire.Text.Blank
import ScalarWire.Zone.Regions

/-!
# Zone tables

A table gives an offset to each abbreviation of a time zone, in any letter case, and has a
version. A zone token is a numeric offset, an abbreviation of the table or the name of a region of
the database at hand, tried in this order.
-/

namespace ScalarWire

/-- What a zone token stands for. -/
inductive Zone where
  | fixed (offset : Offset)
  | region (region : Region)
  deriving DecidableEq

namespace Zone

/-- The offset in force at a wall-clock time. -/
def offsetAt (z : Zone) (wall : Timestamp) : Offset :=
  match z with
  | fixed offset => offset
  | region r => r.offsetAt wall

/-- The offset where no date is known, without daylight saving. -/
def standardOffset : Zone → Offset
  | fixed offset => offset
  | region r => r.standardOffset

end Zone

/-- Names are held in upper case, each once. -/
structure ZoneTable where
  version : String
  entries : List (String × Offset)
  deriving DecidableEq

namespace ZoneTable

/-- The form in which a name is held. -/
def key (name : List Char) : String :=
  String.ofList (Text.upper name)

def empty (version : String) : ZoneTable :=
  ⟨version, []⟩

def size (t : ZoneTable) : Nat :=
  t.entries.length

def get? (t : ZoneTable) (name : List Char) : Option Offset :=
  t.entries.lookup (key name)

/-- Writes an entry under a key, over the one that was there. -/
def put (entries : List (String × Offset)) (key : String) (offset : Offset) :
    List (String × Offset) :=
  (key, offset) :: entries.filter (·.1 != key)

def insert (t : ZoneTable) (name : List Char) (offset : Offset) : ZoneTable :=
  { t with entries := put t.entries (key name) offset }

/-- Adds the entries of another table, over those of the same name, and takes its version. -/
def extend (t other : ZoneTable) : ZoneTable :=
  ⟨other.version,
    other.entries.foldr (fun (key, offset) entries => put entries key offset) t.entries⟩

/-- The abbreviations that are always known, each with its seconds east of UTC. -/
def builtinSeconds : List (String × Int) :=
  [("UTC", 0), ("UT", 0), ("Z", 0), ("ZULU", 0), ("GMT", 0), ("WET", 0), ("WEST", 3600),
    ("BST", 3600), ("CET", 3600), ("CEST", 7200), ("MET", 3600), ("MEST", 7200), ("EET", 7200),
    ("EEST", 10800), ("IST", 7200), ("MSK", 10800), ("NST", -12600), ("NDT", -9000),
    ("AST", -14400), ("ADT", -10800), ("EST", -18000), ("EDT", -14400), ("CST", -21600),
    ("CDT", -18000), ("MST", -25200), ("MDT", -21600), ("PST", -28800), ("PDT", -25200),
    ("AKST", -32400), ("AKDT", -28800), ("HST", -36000), ("SGT", 28800), ("HKT", 28800),
    ("AWST", 28800), ("WST", 28800), ("WDT", 32400), ("JST", 32400), ("KST", 32400),
    ("ACST", 34200), ("ACDT", 37800), ("AEST", 36000), ("AEDT", 39600), ("NZST", 43200),
    ("NZDT", 46800)]

def builtinEntries : List (String × Offset) :=
  builtinSeconds.filterMap fun (name, east) => (Offset.ofSeconds? east).map (name, ·)

def builtin : ZoneTable :=
  ⟨"builtin-1", builtinEntries⟩

def resolve (t : ZoneTable) (regions : RegionDatabase) (type : WireType) (token : List Char) :
    Except CodecError Zone :=
  let token := Text.trim token
  let text := String.ofList token
  match token with
  | '+' :: _ | '-' :: _ =>
    match Offset.readSeconds? token with
    | none => throw (.malformed type text)
    | some east =>
      match Offset.ofDisplacement? east with
      | none => throw (.outOfRange type text)
      | some offset => pure (.fixed offset)
  | _ =>
    match t.get? token with
    | some offset => pure (.fixed offset)
    | none =>
      match regions.region? token with
      | some region => pure (.region region)
      | none => throw (.unknownZone text)

end ZoneTable

end ScalarWire
