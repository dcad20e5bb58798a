import ScalarWire.Text.Blank
import ScalarWire.Text.Letter

/-!
# Era markers and infinities

A date or timestamp may end in an era marker behind a blank, and the two infinities have names
instead of fields.
-/

namespace ScalarWire.Literal

inductive Infinity where
  | before
  | after
  deriving DecidableEq, Repr

def infinity? (s : List Char) : Option Infinity :=
  match String.ofList (Text.lower (Text.trim s)) with
  | "infinity" | "+infinity" => some .after
  | "-infinity" => some .before
  | _ => none

/-- Whether a word marks an era, and if so whether it is the one before year 1. -/
def eraMarker? (word : List Char) : Option Bool :=
  match String.ofList (Text.upper word) with
  | "BC" | "B.C." => some true
  | "AD" | "A.D." => some false
  | _ => none

/-- Takes an era marker off the end: the trimmed rest, and whether the era is the one before
year 1. A marker alone is no marker. -/
def splitEra (s : List Char) : List Char × Bool :=
  let s := Text.trim s
  let word := (s.reverse.takeWhile fun c => !Text.isBlank c).reverse
  let head := s.take (s.length - word.length)
  if head = [] then (s, false)
  else
    match eraMarker? word with
    | some bc => (Text.trimEnd head, bc)
    | none => (s, false)

end ScalarWire.Literal
