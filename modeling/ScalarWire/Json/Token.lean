import ScalarWire.Json.Content
import ScalarWire.Number.Literal

/-!
# Tokens of JSON

A JSON document as a list of tokens. Which tokens may follow one another is a matter of the
tree.
-/

namespace ScalarWire.Json

inductive Token where
  | openObject | closeObject | openArray | closeArray | colon | comma
  | null | boolean (b : Bool) | number
  | text (t : Content)
  deriving DecidableEq, Repr

def isSpace (c : Char) : Bool :=
  c == ' ' || c == '\n' || c == '\t' || c == '\r'

open DecimalLiteral (splitDigits)

/-- Takes an exponent off the front, if the text goes on with one. -/
def dropExponent? : List Char → Option (List Char)
  | c :: s =>
    if c = 'e' ∨ c = 'E' then
      let (digits, s) := splitDigits (Numeral.splitSign s).2
      if digits = [] then none else some s
    else some (c :: s)
  | [] => some []

def dropFraction? : List Char → Option (List Char)
  | '.' :: s =>
    let (digits, s) := splitDigits s
    if digits = [] then none else some s
  | s => some s

/-- Takes an unsigned number off the front. It has no zeros in front of its whole part. -/
def dropNumber? : List Char → Option (List Char)
  | '0' :: s => (dropFraction? s).bind dropExponent?
  | s =>
    let (digits, s) := splitDigits s
    if digits = [] then none else (dropFraction? s).bind dropExponent?

/-- The token at the start of a text that starts with no space. -/
def next? : List Char → Option (Token × List Char)
  | '\x7b' :: s => some (.openObject, s)
  | '\x7d' :: s => some (.closeObject, s)
  | '[' :: s => some (.openArray, s)
  | ']' :: s => some (.closeArray, s)
  | ':' :: s => some (.colon, s)
  | ',' :: s => some (.comma, s)
  | '"' :: s => (readContent? [] s).map fun (t, s) => (.text t, s)
  | 'n' :: 'u' :: 'l' :: 'l' :: s => some (.null, s)
  | 't' :: 'r' :: 'u' :: 'e' :: s => some (.boolean true, s)
  | 'f' :: 'a' :: 'l' :: 's' :: 'e' :: s => some (.boolean false, s)
  | '-' :: s => (dropNumber? s).map (.number, ·)
  | s => (dropNumber? s).map (.number, ·)

/-- Reads tokens to the end of the text; those read so far are kept in reverse. Every step takes
a character at least, so as many steps as there are characters are enough. -/
def tokensOnto? (done : List Token) : Nat → List Char → Option (List Token)
  | steps, s =>
    match s.dropWhile isSpace, steps with
    | [], _ => some done.reverse
    | _ :: _, 0 => none
    | c :: s, steps + 1 =>
      match next? (c :: s) with
      | some (token, rest) => tokensOnto? (token :: done) steps rest
      | none => none

def tokens? (s : List Char) : Option (List Token) :=
  tokensOnto? [] s.length s

end ScalarWire.Json
