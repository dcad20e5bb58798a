import ScalarWire.Decimal.Text
import ScalarWire.Number.BigEndian
import ScalarWire.Text.Hex

/-!
# Decimals in binary

The binary form of a decimal: four 16-bit words for the number of groups, the weight of the
first group, the sign and the scale, then the groups, which are the digits of the number in base
10000. The weight is the power of 10000 that the first group counts. Groups of zeros are left
out at both ends.
-/

namespace ScalarWire.Decimal

-- Powers are those of the core library, also beside Mathlib.
attribute [local instance (high)] instPowNat

def positiveSign : Nat := 0x0000

def negativeSign : Nat := 0x4000

def notANumberSign : Nat := 0xC000

/-- Drops the zero groups at the end. -/
def trimGroups (groups : List Nat) : List Nat :=
  (groups.reverse.dropWhile (· == 0)).reverse

/-- The groups that hold `scale` digits behind the point. -/
def fractionGroups (scale : Nat) : Nat :=
  (scale + 3) / 4

/-- The digits in base 10000 of `magnitude / 10 ^ scale`, cut at the point, with the weight of
the first. -/
def groupsOf (magnitude scale : Nat) : List Nat × Int :=
  let behind := fractionGroups scale
  let groups := Radix.digits 10000 (magnitude * 10 ^ (4 * behind - scale))
  (trimGroups groups, (groups.length : Int) - behind - 1)

/-- The bytes of the header and the groups. -/
def frame (weight : Int) (sign : Nat) (scale : Int) (groups : List Nat) : List UInt8 :=
  BigEndian.encode 2 groups.length ++ BigEndian.encode 2 weight ++ BigEndian.encode 2 sign ++
    BigEndian.encode 2 scale ++ groups.flatMap fun g : Nat => BigEndian.encode 2 g

def toBytes (d : Decimal) : Except CodecError (List UInt8) :=
  let d := d.expand
  let magnitude := d.unscaled.natAbs
  let reject := CodecError.outOfRange .numeric (abbreviate (Numeral.digits magnitude))
  if maxScale < d.scale then throw reject
  else
    let (groups, weight) := groupsOf magnitude d.scale.toNat
    if maxGroups < groups.length ∨ 32767 < weight then throw reject
    else if groups = [] then pure (frame 0 positiveSign d.scale [])
    else pure (frame weight (if d.unscaled < 0 then negativeSign else positiveSign) d.scale groups)

/-- The 16-bit words of a byte string of even length. -/
def wordsOf : List UInt8 → List Int
  | high :: low :: rest => BigEndian.signed [high, low] :: wordsOf rest
  | _ => []

/-- The number that groups denote whose first has this weight, with its scale in tens. -/
def ofGroups (negative : Bool) (weight : Int) (groups : List Nat) : Decimal :=
  ⟨Numeral.negateIf negative (Radix.value 10000 groups), -(4 * (weight - groups.length + 1))⟩

def ofBytes (bytes : List UInt8) : Except CodecError Decimal :=
  let malformed := CodecError.malformed .numeric (String.ofList (Hex.encode bytes))
  if bytes.length < 8 then throw malformed
  else
    let word (i : Nat) : Int := BigEndian.signed ((bytes.drop (2 * i)).take 2)
    let sign := BigEndian.unsigned ((bytes.drop 4).take 2)
    if sign = notANumberSign then throw (.outOfRange .numeric "NaN")
    else if (sign ≠ positiveSign ∧ sign ≠ negativeSign) ∨ word 0 < 0 ∨ word 3 < 0 then
      throw malformed
    else if (bytes.length : Int) ≠ 8 + 2 * word 0 then throw malformed
    else
      let groups := wordsOf (bytes.drop 8)
      if groups.all fun g => 0 ≤ g && g < 10000 then
        pure ((ofGroups (sign == negativeSign) (word 1) (groups.map Int.toNat)).withScale (word 3))
      else throw malformed

end ScalarWire.Decimal
