import ScalarWire.Error
import ScalarWire.Text.Hex
import ScalarWire.Text.Utf8

/-!
# Payloads

The bytes of a column value together with their format, and opaque bytes bound as a parameter,
whose text is a backslash, an `x` and hexadecimal digits.
-/

namespace ScalarWire

inductive Format where
  | text
  | binary
  deriving DecidableEq, Repr

namespace Format

def code : Format → Int
  | text => 0
  | binary => 1

def ofCode? : Int → Option Format
  | 0 => some text
  | 1 => some binary
  | _ => none

end Format

structure Payload where
  format : Format
  bytes : List UInt8
  deriving DecidableEq, Repr

namespace Payload

def ofText (s : List Char) : Payload :=
  ⟨.text, Utf8.encode s⟩

def ofBytes (bytes : List UInt8) : Payload :=
  ⟨.binary, bytes⟩

/-- The characters of the bytes, which have to be UTF-8. -/
def chars (p : Payload) (type : WireType) : Except CodecError (List Char) :=
  match Utf8.decode? p.bytes with
  | some s => pure s
  | none => throw (.malformed type (String.ofList (Utf8.decodeLossy p.bytes)))

end Payload

/-- Bytes that no type gives a meaning to. -/
structure Blob where
  bytes : List UInt8
  deriving DecidableEq, Repr

namespace Blob

def hexText (b : Blob) : List Char :=
  '\\' :: 'x' :: Hex.encode b.bytes

def ofHexText? : List Char → Option Blob
  | '\\' :: x :: digits => if x = 'x' ∨ x = 'X' then (Hex.decode? digits).map (⟨·⟩) else none
  | _ => none

def payload (b : Blob) : Payload :=
  .ofBytes b.bytes

end Blob

/-- The refusal of bytes that have no meaning as this type. -/
def CodecError.malformedBytes (type : WireType) (bytes : List UInt8) : CodecError :=
  .malformed type (String.ofList (Blob.hexText ⟨bytes⟩))

end ScalarWire
