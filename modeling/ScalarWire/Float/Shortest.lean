import ScalarWire.Float.Format
import ScalarWire.Number.Numeral

/-!
# Shortest digits

The fewest decimal digits that still read back as a given floating-point number, and among those
the nearest to it. For each number of digits the two neighbours of the number on that decimal
grid are tried: if any point of the grid reads back, one of these does.
-/

namespace ScalarWire.FloatFormat

-- Powers are those of the core library, also beside Mathlib.
attribute [local instance (high)] instPowNat

variable (f : FloatFormat)

/-- The pattern nearest to `n * 10 ^ exponent`. -/
def roundDecimal (n : Nat) (exponent : Int) : Nat :=
  f.round (n * 10 ^ exponent.toNat) (10 ^ (-exponent).toNat)

/-- How many digits `num / den` has before the point; zero or less counts the zeros behind it. -/
def decimalExponent (num den : Nat) : Int :=
  if den ≤ num then (Numeral.digits (num / den)).length
  else 1 - (Numeral.digits ((den - 1) / num)).length

/-- The neighbour of `num / den` on the grid of `10 ^ exponent` that reads back as `bits`; the
nearer one if both do, and the upper one of a tie. -/
def neighbour? (bits num den : Nat) (exponent : Int) : Option Nat :=
  let num := num * 10 ^ (-exponent).toNat
  let den := den * 10 ^ exponent.toNat
  let below := num / den
  match f.roundDecimal below exponent == bits, f.roundDecimal (below + 1) exponent == bits with
  | true, true => some (if 2 * (num % den) < den then below else below + 1)
  | true, false => some below
  | false, true => some (below + 1)
  | false, false => none

/-- Tries one digit more at a time; where no grid gives a hit, the digits before the point are
all there are. -/
def shortestFrom (bits num den : Nat) (exponent : Int) : Nat → Nat × Int
  | 0 => (num / den, 0)
  | tries + 1 =>
    match f.neighbour? bits num den exponent with
    | some n => (n, exponent)
    | none => shortestFrom bits num den (exponent - 1) tries

/-- Moves zeros at the end of the digits into the exponent. -/
def dropZeros (digits : List Char) (exponent : Int) : List Char × Int :=
  let kept := (digits.reverse.dropWhile (· == '0')).reverse
  (kept, exponent + (digits.length - kept.length))

/-- The shortest digits of the positive number `mantissa * 2 ^ exponent`, as a text without zeros
at its end and a power of ten. -/
def shortest (mantissa : Nat) (exponent : Int) : List Char × Int :=
  let num := mantissa * 2 ^ exponent.toNat
  let den := 2 ^ (-exponent).toNat
  let (n, e) := f.shortestFrom (f.round num den) num den (decimalExponent num den - 1) 17
  dropZeros (Numeral.digits n) e

end ScalarWire.FloatFormat
