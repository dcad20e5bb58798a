/-!
# Floating-point formats

The two binary interchange formats. A pattern of bits is taken apart into sign, mantissa and
exponent, and a positive rational number is rounded to the nearest pattern, a tie going to the
even mantissa. All arithmetic is exact, on whole numbers.
-/

namespace ScalarWire

-- Powers are those of the core library, also beside Mathlib.
attribute [local instance (high)] instPowNat

/-- A format with a hidden leading bit, by the widths of its fraction and its exponent. -/
structure FloatFormat where
  fractionBits : Nat
  exponentBits : Nat
  deriving DecidableEq, Repr

/-- What a pattern of bits stands for; a finite number is `mantissa * 2 ^ exponent`. -/
inductive FloatValue where
  | nan
  | infinite (negative : Bool)
  | finite (negative : Bool) (mantissa : Nat) (exponent : Int)
  deriving DecidableEq, Repr

/-- `num / den * 2 ^ (-shift)`, rounded to the nearest whole number, a tie to the even one. -/
def roundScaled (num den : Nat) (shift : Int) : Nat :=
  let num := num * 2 ^ (-shift).toNat
  let den := den * 2 ^ shift.toNat
  let q := num / den
  let twice := 2 * (num % den)
  if twice < den ∨ twice = den ∧ q % 2 = 0 then q else q + 1

/-- The greatest power of two not above `num / den`. -/
def floorLog2 (num den : Nat) : Int :=
  let k := (num.log2 : Int) - den.log2
  if den * 2 ^ k.toNat ≤ num * 2 ^ (-k).toNat then k else k - 1

namespace FloatFormat

def single : FloatFormat := ⟨23, 8⟩

def double : FloatFormat := ⟨52, 11⟩

variable (f : FloatFormat)

/-- The exponent of two that the last bit of the smallest numbers counts. -/
def minExponent : Int :=
  2 - 2 ^ (f.exponentBits - 1) - f.fractionBits

/-- The pattern of positive infinity. -/
def infinityBits : Nat :=
  (2 ^ f.exponentBits - 1) * 2 ^ f.fractionBits

/-- The sign bit, as a number. -/
def signBit : Nat :=
  2 ^ (f.exponentBits + f.fractionBits)

def signed (negative : Bool) (bits : Nat) : Nat :=
  if negative then bits + f.signBit else bits

def isNegative (bits : Nat) : Bool :=
  f.signBit ≤ bits

def decode (bits : Nat) : FloatValue :=
  let negative := f.isNegative bits
  let bits := bits % f.signBit
  let field := bits / 2 ^ f.fractionBits
  let fraction := bits % 2 ^ f.fractionBits
  if f.infinityBits < bits then .nan
  else if bits = f.infinityBits then .infinite negative
  else if field = 0 then .finite negative fraction f.minExponent
  else .finite negative (fraction + 2 ^ f.fractionBits) (f.minExponent + field - 1)

/-- The pattern nearest to `num / den`; infinity from half a unit above the greatest number. -/
def round (num den : Nat) : Nat :=
  if num = 0 then 0
  else
    let exponent := max f.minExponent (floorLog2 num den - f.fractionBits)
    let mantissa := roundScaled num den exponent
    min f.infinityBits ((exponent - f.minExponent).toNat * 2 ^ f.fractionBits + mantissa)

/-- The pattern nearest to `mantissa * 2 ^ exponent`. -/
def roundBinary (mantissa : Nat) (exponent : Int) : Nat :=
  f.round (mantissa * 2 ^ exponent.toNat) (2 ^ (-exponent).toNat)

/-- Carries a pattern of this format over to another format. A NaN keeps its sign and the
leading bits of its payload, and is quiet. -/
def convert (g : FloatFormat) (bits : Nat) : Nat :=
  match f.decode bits with
  | .nan =>
    let payload := bits % 2 ^ f.fractionBits * 2 ^ g.fractionBits / 2 ^ f.fractionBits
    g.signed (f.isNegative bits) (g.infinityBits + (payload ||| 2 ^ (g.fractionBits - 1)))
  | .infinite negative => g.signed negative g.infinityBits
  | .finite negative mantissa exponent => g.signed negative (g.roundBinary mantissa exponent)

end FloatFormat

end ScalarWire
