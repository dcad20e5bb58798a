import ScalarWire.Decimal.Basic
import ScalarWire.Number.Literal
import ScalarWire.Text.Blank
import ScalarWire.Text.Letter
import ScalarWire.Error

/-!
# Decimals as text

A decimal is read from a literal with all its digits and written positionally, without an
exponent. What is read has to fit the binary form as well: at most 16383 digits behind the point
and at most 32767 groups of four digits on both sides together.
-/

namespace ScalarWire.Decimal

/-- The most digits behind the point. -/
def maxScale : Int := 16383

/-- The most groups of four digits. -/
def maxGroups : Int := 32767

/-- Long texts are reported by their first forty characters. -/
def abbreviate (s : List Char) : String :=
  String.ofList (if 40 < s.length then s.take 40 ++ "...".toList else s)

/-- Groups of four needed on both sides of the point, reckoned in 64-bit words. -/
def groupBound (integerDigits scale : Int64) : Int64 :=
  (max integerDigits 0 + 3) / 4 + (max scale 0 + 3) / 4

/-- The number of digits, leading zeros aside; zero has one. -/
def digitCount (digits : List Char) : Nat :=
  max 1 (digits.dropWhile (· == '0')).length

/-- Whether a literal, with its scale in a 64-bit word, exceeds the limits. -/
def exceedsLimits (l : DecimalLiteral) : Bool :=
  let scale := Int64.ofInt l.scale
  let integerDigits := Int64.ofNat (digitCount l.digits) - scale
  maxScale < l.scale || maxGroups < (groupBound integerDigits scale).toInt

/-- A number that takes this many more zeros fits no memory. -/
def maxZeros : Int := 0x100000000

/-- NaN, or an infinity with any signs in front: numbers that no decimal can be. -/
def isSpecial (s : List Char) : Bool :=
  Text.sameFold s "nan".toList ||
    Text.sameFold (s.dropWhile fun c => c == '+' || c == '-') "infinity".toList

/-- Reads a decimal. An exponent only moves the point, so `1e3` is the whole number 1000. -/
def ofText (s : List Char) : Except Failure Decimal :=
  let t := Text.trim s
  if isSpecial t then throw (.rejected (.outOfRange .numeric (String.ofList t)))
  else
    match DecimalLiteral.read? t with
    | none => throw (.rejected (.malformed .numeric (String.ofList s)))
    | some l =>
      if l.scale < -0x8000000000000000 ∨ 0x8000000000000000 ≤ l.scale then
        throw (.rejected (.malformed .numeric (String.ofList s)))
      else if exceedsLimits l then throw (.rejected (.outOfRange .numeric (abbreviate t)))
      else
        let d : Decimal := ⟨l.unscaled, l.scale⟩
        if d.unscaled ≠ 0 ∧ d.scale < -maxZeros then throw .aborted else pure d.expand

/-- Digits with a point before the last `scale` of them. -/
def pointed (digits : List Char) (scale : Nat) : List Char :=
  if scale = 0 then digits
  else
    let digits := digits.leftpad (scale + 1) '0'
    digits.take (digits.length - scale) ++ '.' :: digits.drop (digits.length - scale)

/-- Writes a decimal positionally, with a digit before the point and all digits behind it. -/
def toText (d : Decimal) : List Char :=
  let digits := Numeral.digits d.unscaled.natAbs
  let zeros := if d.unscaled = 0 then 0 else (-d.scale).toNat
  (if d.unscaled < 0 then ['-'] else []) ++
    pointed (digits ++ List.replicate zeros '0') d.scale.toNat

/-- The form shown to a person: scientific where more than five zeros would follow the point or
more than fifteen would fill up a whole number. A zero shows no scale. -/
def display (d : Decimal) : List Char :=
  let digits := Numeral.digits d.unscaled.natAbs
  let scale := if d.unscaled = 0 then 0 else d.scale
  (if d.unscaled < 0 then ['-'] else []) ++
    if 5 < scale - digits.length then
      digits.take 1 ++ (if digits.length = 1 then [] else '.' :: digits.drop 1) ++
        "E-".toList ++ Numeral.signed (scale - digits.length + 1)
    else if 15 < -scale then digits ++ "e+".toList ++ Numeral.signed (-scale)
    else pointed (digits ++ List.replicate (-scale).toNat '0') scale.toNat

end ScalarWire.Decimal
