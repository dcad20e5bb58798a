import ScalarWire.Number.Radix

/-!
# Decimal numerals

Reading and writing whole numbers in ASCII decimal digits.
-/

namespace ScalarWire.Numeral

def digitChar (d : Nat) : Char :=
  Char.ofNat (48 + d)

def digitValue (c : Char) : Nat :=
  c.toNat - 48

/-- The number that a text of ASCII digits denotes. -/
def value (s : List Char) : Nat :=
  Radix.value 10 (s.map digitValue)

/-- Reads one or more ASCII digits and nothing else. -/
def read? (s : List Char) : Option Nat :=
  if s ≠ [] ∧ s.all Char.isDigit then some (value s) else none

/-- Takes a sign off the front: whether it was a minus, and the rest. -/
def splitSign : List Char → Bool × List Char
  | '-' :: s => (true, s)
  | '+' :: s => (false, s)
  | s => (false, s)

def negateIf (negative : Bool) (n : Nat) : Int :=
  if negative then -(n : Int) else n

/-- Reads one or more ASCII digits behind an optional sign. -/
def readSigned? (s : List Char) : Option Int :=
  let (negative, s) := splitSign s
  (read? s).map (negateIf negative)

/-- The decimal digits of `n`, `0` for zero. -/
def digits (n : Nat) : List Char :=
  if n = 0 then ['0'] else (Radix.digits 10 n).map digitChar

/-- The decimal digits of `n`, filled up with zeros in front to at least `width`. -/
def padded (width n : Nat) : List Char :=
  (digits n).leftpad width '0'

def signed (z : Int) : List Char :=
  if z < 0 then '-' :: digits z.natAbs else digits z.natAbs

def ofNat (n : Nat) : String :=
  String.ofList (digits n)

def ofInt (z : Int) : String :=
  String.ofList (signed z)

end ScalarWire.Numeral
