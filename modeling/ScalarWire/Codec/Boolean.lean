import ScalarWire.Payload
import ScalarWire.Text.Blank
import ScalarWire.Text.Letter

/-!
# Booleans on the wire

A boolean is written as one letter or one byte and read from any of the server's words for it.
-/

namespace ScalarWire.BooleanCodec

def ofText (type : WireType) (s : List Char) : Except CodecError Bool :=
  match String.ofList (Text.lower (Text.trim s)) with
  | "true" | "t" | "yes" | "y" | "1" => pure true
  | "false" | "f" | "no" | "n" | "0" => pure false
  | _ => throw (.malformed type (String.ofList s))

def toText (b : Bool) : List Char :=
  if b then ['t'] else ['f']

def ofBytes (type : WireType) (bytes : List UInt8) : Except CodecError Bool :=
  match bytes with
  | [0] => pure false
  | [1] => pure true
  | _ => throw (.malformedBytes type bytes)

def toBytes (b : Bool) : List UInt8 :=
  if b then [1] else [0]

end ScalarWire.BooleanCodec
