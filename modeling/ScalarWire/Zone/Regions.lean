import ScalarWire.Text.Letter
import ScalarWire.Zone.Region

/-!
# Region databases

Which regions there are, and when their clocks change, is for a database of time zones to say.
Everything that reads a zone takes the database as given and relies on nothing but the form of the
names in it. Names are found in any letter case.
-/

namespace ScalarWire

def isZoneNameChar (c : Char) : Bool :=
  c.isAlphanum || c == '_' || c == '-' || c == '+' || c == '/'

/-- What the names of time zones have in common, those of the IANA database among them: they are
written in ASCII, they begin with a letter that no digit follows, and the letters in front are
neither an era nor a meridiem. -/
structure IsZoneName (name : List Char) : Prop where
  chars : name.all isZoneNameChar
  first : name.head?.any Char.isAlpha
  second : (name.drop 1).head?.any Char.isDigit = false
  word : Text.lower (name.takeWhile Char.isAlpha) ∉
    ["ad".toList, "bc".toList, "am".toList, "pm".toList]

theorem isZoneName_iff (name : List Char) :
    IsZoneName name ↔ name.all isZoneNameChar ∧ name.head?.any Char.isAlpha ∧
      (name.drop 1).head?.any Char.isDigit = false ∧
        Text.lower (name.takeWhile Char.isAlpha) ∉
          ["ad".toList, "bc".toList, "am".toList, "pm".toList] :=
  ⟨fun h => ⟨h.chars, h.first, h.second, h.word⟩, fun ⟨chars, first, second, word⟩ =>
    ⟨chars, first, second, word⟩⟩

instance (name : List Char) : Decidable (IsZoneName name) :=
  decidable_of_iff' _ (isZoneName_iff name)

/-- The regions of a database, whose names have the form of zone names. -/
structure RegionDatabase where
  regions : List Region
  isZoneName : ∀ r ∈ regions, IsZoneName r.name.toList
  deriving DecidableEq

def RegionDatabase.region? (db : RegionDatabase) (name : List Char) : Option Region :=
  db.regions.find? fun r => Text.sameFold r.name.toList name

end ScalarWire
