/-!
# UTF-8

Bytes to characters and back. The reader goes byte by byte through a sequence under way; a byte
that cannot continue the sequence ends it as one invalid part and starts anew itself, so every
maximal invalid part counts once.
-/

namespace ScalarWire.Utf8

/-- A reader between two bytes: no sequence under way, or a sequence that still wants `left`
bytes, of which the next lies between `low` and `high`. -/
inductive Progress where
  | idle
  | inside (left : Nat) (low high : Nat) (value : Nat)
  deriving DecidableEq, Repr

/-- What a byte does as the first of a sequence. The bounds on the second byte leave out
overlong forms, surrogates and numbers above the last character. -/
def start (b : Nat) : Progress × List (Option Char) :=
  if b < 0x80 then (.idle, [some (Char.ofNat b)])
  else if b < 0xC2 then (.idle, [none])
  else if b < 0xE0 then (.inside 1 0x80 0xBF (b - 0xC0), [])
  else if b < 0xF0 then
    (.inside 2 (if b = 0xE0 then 0xA0 else 0x80) (if b = 0xED then 0x9F else 0xBF) (b - 0xE0), [])
  else if b < 0xF5 then
    (.inside 3 (if b = 0xF0 then 0x90 else 0x80) (if b = 0xF4 then 0x8F else 0xBF) (b - 0xF0), [])
  else (.idle, [none])

/-- One byte: the new progress and what it completes, the latest first. -/
def step : Progress → Nat → Progress × List (Option Char)
  | .idle, b => start b
  | .inside left low high value, b =>
    if low ≤ b ∧ b ≤ high then
      let value := value * 64 + (b - 0x80)
      if left = 1 then (.idle, [some (Char.ofNat value)])
      else (.inside (left - 1) 0x80 0xBF value, [])
    else
      let (next, out) := start b
      (next, out ++ [none])

/-- The characters of a byte string, with `none` for each maximal invalid part. -/
def scan (bytes : List UInt8) : List (Option Char) :=
  let (last, out) := bytes.foldl
    (fun (now, out) b => let (next, new) := step now b.toNat; (next, new ++ out))
    (Progress.idle, ([] : List (Option Char)))
  match last with
  | .idle => out.reverse
  | .inside .. => (none :: out).reverse

/-- The characters, provided that every part is valid. -/
def decode? (bytes : List UInt8) : Option (List Char) :=
  let parts := scan bytes
  if parts.all Option.isSome then some (parts.filterMap id) else none

/-- The characters, with the replacement character for each maximal invalid part. -/
def decodeLossy (bytes : List UInt8) : List Char :=
  (scan bytes).map (·.getD '\uFFFD')

def encode (s : List Char) : List UInt8 :=
  s.flatMap String.utf8EncodeChar

/-- Cuts a text after `n` bytes, unless that lies inside a character; a shorter text is kept
whole. -/
def cut? : Nat → List Char → Option (List Char × List Char)
  | _, [] => some ([], [])
  | 0, s => some ([], s)
  | n + 1, c :: s =>
    if c.utf8Size ≤ n + 1 then
      (cut? (n + 1 - c.utf8Size) s).map fun (head, tail) => (c :: head, tail)
    else none

end ScalarWire.Utf8
