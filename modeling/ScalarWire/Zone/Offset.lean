import ScalarWire.Number.Numeral

/-!
# Offsets from UTC

How far a local clock is ahead of UTC, in seconds, and the numeric spelling of an offset: a sign,
an hour of one or two digits, then perhaps minutes and seconds of two digits with colons or
without.
-/

namespace ScalarWire

/-- Seconds east of UTC, less than a day either way. -/
structure Offset where
  east : Int
  within_day : -86400 < east ∧ east < 86400
  deriving DecidableEq

namespace Offset

def utc : Offset :=
  ⟨0, by decide⟩

def ofSeconds? (east : Int) : Option Offset :=
  if h : -86400 < east ∧ east < 86400 then some ⟨east, h⟩ else none

/-- The largest displacement that the server accepts, a second short of sixteen hours. -/
def maxDisplacement : Nat := 57599

/-- Two digits behind a colon that may be left out. -/
def splitPair? (s : List Char) : Option (Nat × List Char) :=
  let s := match s with
    | ':' :: s => s
    | s => s
  if (s.take 2).length = 2 then (Numeral.read? (s.take 2)).map fun n => (n, s.drop 2) else none

/-- Minutes and seconds that make up a whole text, each of which may be left out from the
right. -/
def readMinutes? : List Char → Option (Nat × Nat)
  | [] => some (0, 0)
  | s =>
    match splitPair? s with
    | none => none
    | some (minutes, []) => some (minutes, 0)
    | some (minutes, s) =>
      match splitPair? s with
      | some (seconds, []) => some (minutes, seconds)
      | _ => none

/-- Hours of this many digits, then minutes and seconds. -/
def readClock? (width : Nat) (s : List Char) : Option (Nat × Nat × Nat) :=
  if s.length < width then none
  else
    (Numeral.read? (s.take width)).bind fun hours =>
      (readMinutes? (s.drop width)).map fun (minutes, seconds) => (hours, minutes, seconds)

/-- Seconds east of UTC of a numeric offset that makes up the whole text. An hour of two digits
is tried first. -/
def readSeconds? (s : List Char) : Option Int :=
  match s with
  | sign :: s =>
    if sign = '+' ∨ sign = '-' then
      match readClock? 2 s <|> readClock? 1 s with
      | some (hours, minutes, seconds) =>
        if 59 < minutes ∨ 59 < seconds then none
        else some (Numeral.negateIf (sign == '-') (hours * 3600 + minutes * 60 + seconds))
      | none => none
    else none
  | [] => none

/-- An offset that the server accepts. -/
def ofDisplacement? (east : Int) : Option Offset :=
  if east.natAbs ≤ maxDisplacement then ofSeconds? east else none

end Offset

end ScalarWire
