import ScalarWire.Number.Numeral

/-!
# Decimal literals

The common shape of numeric and floating-point input: an optional sign, digits with an optional
fraction or a fraction alone, and an optional exponent of ten. A literal keeps its digits as they
were written, those of the exponent too.
-/

namespace ScalarWire

structure DecimalLiteral where
  negative : Bool
  whole : List Char
  fraction : List Char
  exponentNegative : Bool
  exponentDigits : List Char
  deriving DecidableEq, Repr

namespace DecimalLiteral

/-- The sign and the digits of an exponent that makes up the whole text. A text without one has
no digits. -/
def splitExponent? : List Char → Option (Bool × List Char)
  | [] => some (false, [])
  | c :: s =>
    let (negative, digits) := Numeral.splitSign s
    if (c = 'e' ∨ c = 'E') ∧ digits ≠ [] ∧ digits.all Char.isDigit then some (negative, digits)
    else none

/-- The digits up to the first other character, and what follows. -/
def splitDigits (s : List Char) : List Char × List Char :=
  (s.takeWhile Char.isDigit, s.dropWhile Char.isDigit)

/-- Reads a literal that makes up the whole text. -/
def read? (s : List Char) : Option DecimalLiteral :=
  let (negative, s) := Numeral.splitSign s
  let (whole, s) := splitDigits s
  let (fraction, s) := match s with
    | '.' :: s => splitDigits s
    | s => ([], s)
  if whole = [] ∧ fraction = [] then none
  else (splitExponent? s).map fun (negative', digits) =>
    ⟨negative, whole, fraction, negative', digits⟩

/-- All digits before the exponent. -/
def digits (l : DecimalLiteral) : List Char :=
  l.whole ++ l.fraction

def magnitude (l : DecimalLiteral) : Nat :=
  Numeral.value l.digits

/-- The digits as a whole number, with the sign. -/
def unscaled (l : DecimalLiteral) : Int :=
  Numeral.negateIf l.negative l.magnitude

/-- The exponent of ten, zero where none is written. -/
def exponent (l : DecimalLiteral) : Int :=
  Numeral.negateIf l.exponentNegative (Numeral.value l.exponentDigits)

/-- How many of the digits stand behind the point once the exponent has moved it. The literal
denotes `unscaled` divided by ten to this power. -/
def scale (l : DecimalLiteral) : Int :=
  l.fraction.length - l.exponent

end DecimalLiteral

end ScalarWire
