import ScalarWire.Text.Hex

/-!
# Strings in JSON

The content of a JSON string, piece by piece. An escape of four hexadecimal digits is a unit of
UTF-16, so two of them may make up one character, and a half of a pair alone makes up none. Such
a string is well formed but has no text.
-/

namespace ScalarWire.Json

/-- A character as written, or a unit of UTF-16 from an escape. -/
inductive Piece where
  | char (c : Char)
  | unit (n : Nat)
  deriving DecidableEq, Repr

abbrev Content := List Piece

/-- The character of a one-letter escape. -/
def escape? : Char → Option Char
  | '"' => some '"'
  | '\\' => some '\\'
  | '/' => some '/'
  | 'b' => some '\x08'
  | 'f' => some '\x0c'
  | 'n' => some '\n'
  | 'r' => some '\r'
  | 't' => some '\t'
  | _ => none

def unitOf? (a b c d : Char) : Option Nat := do
  return (((← Hex.digitValue? a) * 16 + (← Hex.digitValue? b)) * 16 + (← Hex.digitValue? c)) * 16 +
    (← Hex.digitValue? d)

/-- Reads a string behind its opening quote; the pieces read so far are kept in reverse. -/
def readContent? (done : Content) : List Char → Option (Content × List Char)
  | '"' :: s => some (done.reverse, s)
  | '\\' :: 'u' :: a :: b :: c :: d :: s =>
    match unitOf? a b c d with
    | some n => readContent? (.unit n :: done) s
    | none => none
  | '\\' :: e :: s =>
    match escape? e with
    | some c => readContent? (.char c :: done) s
    | none => none
  | c :: s => if c.toNat < 0x20 ∨ c = '\\' then none else readContent? (.char c :: done) s
  | [] => none

def isHighHalf (n : Nat) : Bool :=
  0xD800 ≤ n && n < 0xDC00

def isLowHalf (n : Nat) : Bool :=
  0xDC00 ≤ n && n < 0xE000

/-- The characters of the pieces, provided that every half of a pair finds the other half. -/
def charsOnto (done : List Char) : Content → Option (List Char)
  | [] => some done.reverse
  | .char c :: rest => charsOnto (c :: done) rest
  | .unit n :: rest =>
    if isHighHalf n then
      match rest with
      | .unit m :: rest =>
        if isLowHalf m then
          charsOnto (Char.ofNat (0x10000 + (n - 0xD800) * 0x400 + (m - 0xDC00)) :: done) rest
        else none
      | _ => none
    else if isLowHalf n then none
    else charsOnto (Char.ofNat n :: done) rest

def Content.chars? (t : Content) : Option (List Char) :=
  charsOnto [] t

def Content.string? (t : Content) : Option String :=
  t.chars?.map String.ofList

end ScalarWire.Json
