import ScalarWire.Calendar.Timestamp
import ScalarWire.Zone.Offset

/-!
# Regions

A region's clocks follow one phase after another. Going from wall-clock time back to UTC, a time
that two phases show belongs to the later one, and a time that no phase shows takes the offset
in force just before the clocks were turned forward.
-/

namespace ScalarWire

/-- An offset in force, and what it would be without daylight saving. -/
structure Phase where
  standard : Offset
  total : Offset
  deriving DecidableEq

/-- Phases in the order in which they begin. The first has no beginning; each later one comes
with the second, counted from 1970 in UTC, in which it begins. -/
structure Region where
  name : String
  first : Phase
  later : List (Int × Phase)
  deriving DecidableEq

/-- A phase with the seconds between which it is in force. -/
structure Span where
  start? : Option Int
  stop? : Option Int
  phase : Phase
  deriving DecidableEq

namespace Span

/-- Whether wall clocks show this second, counted from 1970, during the span. -/
def shows (s : Span) (second : Int) : Bool :=
  (match s.start? with
    | some start => start + s.phase.total.east ≤ second
    | none => true) &&
  match s.stop? with
    | some stop => second < stop + s.phase.total.east
    | none => true

/-- The spans of phases, of which the first is in force from `start?` on. -/
def chain (start? : Option Int) (phase : Phase) : List (Int × Phase) → List Span
  | [] => [⟨start?, none, phase⟩]
  | (start, next) :: later => ⟨start?, some start, phase⟩ :: chain (some start) next later

end Span

namespace Region

/-- A region whose clocks have always kept one offset. -/
def fixed (name : String) (offset : Offset) : Region :=
  ⟨name, ⟨offset, offset⟩, []⟩

def spans (r : Region) : List Span :=
  Span.chain none r.first r.later

/-- The phase in force at a second, counted from 1970 in UTC. -/
def phaseAt (r : Region) (second : Int) : Phase :=
  r.later.foldl (fun phase (start, next) => if start ≤ second then next else phase) r.first

/-- The latest phase during which wall clocks show this second. -/
def phaseShowing? (r : Region) (second : Int) : Option Phase :=
  ((r.spans.filter (·.shows second)).getLast?).map (·.phase)

/-- The offset without daylight saving at the start of 2000. -/
def standardOffset (r : Region) : Offset :=
  (r.phaseAt 946684800).standard

/-- The offset in force at a wall-clock time. A time that was skipped is looked for up to eight
half hours earlier. -/
def offsetAt (r : Region) (wall : Timestamp) : Offset :=
  let showing? (t : Timestamp) : Option Offset := (r.phaseShowing? t.unixSeconds).map (·.total)
  let earlier? (step : Nat) : Option Offset := (wall.addSeconds? (-1800 * step)).bind showing?
  match showing? wall with
  | some offset => offset
  | none => ((List.range' 1 8).findSome? earlier?).getD r.standardOffset

end Region

end ScalarWire
