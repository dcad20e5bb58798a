import ScalarWire.Float.Shortest
import ScalarWire.Number.Literal
import ScalarWire.Text.Letter

/-!
# Floating-point text

Numbers are written with their shortest digits. On the wire very large and very small magnitudes
take an exponent; for display every number is written out. Literals are rounded from their exact
value, except that the digits of an exponent count only until it has reached 65536.
-/

namespace ScalarWire.FloatFormat

variable (f : FloatFormat)

/-- Digits times a power of ten, written out. -/
def positional (digits : List Char) (exponent : Int) : List Char :=
  if 0 ≤ exponent then digits ++ List.replicate exponent.toNat '0'
  else
    let behind := (-exponent).toNat
    let digits := digits.leftpad (behind + 1) '0'
    digits.take (digits.length - behind) ++ '.' :: digits.drop (digits.length - behind)

/-- Digits times a power of ten, with one digit before the point and an exponent. -/
def scientific (digits : List Char) (exponent : Int) : List Char :=
  let exponent := exponent + digits.length - 1
  digits.take 1 ++ (if digits.length ≤ 1 then [] else '.' :: digits.drop 1) ++ 'e' ::
    (if 0 ≤ exponent then ['+'] else []) ++ Numeral.signed exponent

def minus (negative : Bool) : List Char :=
  if negative then ['-'] else []

/-- The form shown to a person, never with an exponent. -/
def display (bits : Nat) : List Char :=
  match f.decode bits with
  | .nan => "NaN".toList
  | .infinite negative => minus negative ++ "inf".toList
  | .finite negative 0 _ => minus negative ++ ['0']
  | .finite negative mantissa exponent =>
    let (digits, e) := f.shortest mantissa exponent
    minus negative ++ positional digits e

/-- The double nearest to 0.0001, from which on small magnitudes are written out. -/
def plainFrom : Nat := 0x3f1a36e2eb1c432d

/-- The double 1000000000000000, from which on magnitudes take an exponent. -/
def plainBelow : Nat := 0x430c6bf526340000

/-- Whether a number is written out on the wire, which its magnitude as a double decides. -/
def isPlain (bits : Nat) : Bool :=
  let magnitude := f.convert double bits % double.signBit
  magnitude == 0 || plainFrom ≤ magnitude && magnitude < plainBelow

/-- The form on the wire. -/
def toText (bits : Nat) : List Char :=
  match f.decode bits with
  | .nan => "NaN".toList
  | .infinite negative => minus negative ++ "Infinity".toList
  | .finite negative 0 _ => minus negative ++ ['0']
  | .finite negative mantissa exponent =>
    let (digits, e) := f.shortest mantissa exponent
    minus negative ++ if f.isPlain bits then positional digits e else scientific digits e

/-- Once an exponent has reached this, its further digits are passed over. -/
def exponentCap : Nat := 65536

/-- The number that the digits of an exponent denote, as far as they count. -/
def cappedValue (digits : List Char) : Nat :=
  digits.foldl (fun n c => if n < exponentCap then 10 * n + Numeral.digitValue c else n) 0

/-- The exponent of a literal as floating-point numbers read it. Only a literal with tens of
thousands of digits besides can tell it from the exponent as written. -/
def cappedExponent (l : DecimalLiteral) : Int :=
  Numeral.negateIf l.exponentNegative (cappedValue l.exponentDigits)

/-- The pattern nearest to a literal. Digits and exponent alone settle literals far beyond every
number of either format. -/
def ofLiteral (l : DecimalLiteral) : Nat :=
  let digits := l.digits.dropWhile (· == '0')
  let exponent := cappedExponent l - l.fraction.length
  let top := (digits.length : Int) + exponent
  f.signed l.negative <|
    if digits = [] ∨ top < -400 then 0
    else if 400 < top then f.infinityBits
    else f.roundDecimal (Numeral.value digits) exponent

/-- The names of the numbers that have no digits, as doubles. -/
def special? (s : List Char) : Option Nat :=
  match String.ofList (Text.lower s) with
  | "nan" => some 0x7ff8000000000000
  | "infinity" | "+infinity" | "inf" | "+inf" => some double.infinityBits
  | "-infinity" | "-inf" => some (double.signed true double.infinityBits)
  | _ => none

end ScalarWire.FloatFormat
