import ScalarWire.Number.Radix

/-!
# Big-endian words

Whole numbers as a fixed number of bytes, the most significant byte first. Signed numbers are
in two's complement.
-/

namespace ScalarWire.BigEndian

-- Powers are those of the core library, also beside Mathlib.
attribute [local instance (high)] instPowNat

def unsigned (bytes : List UInt8) : Nat :=
  Radix.value 256 (bytes.map UInt8.toNat)

/-- The number that the bytes denote in two's complement. -/
def signed (bytes : List UInt8) : Int :=
  Int.bmod (unsigned bytes) (256 ^ bytes.length)

/-- The last `width` bytes of `z` in two's complement. -/
def encode : Nat → Int → List UInt8
  | 0, _ => []
  | width + 1, z => encode width (z / 256) ++ [UInt8.ofNat (z % 256).toNat]

@[simp] theorem length_encode (width : Nat) (z : Int) : (encode width z).length = width := by
  induction width generalizing z with
  | zero => rfl
  | succ width ih => simp [encode, ih]

end ScalarWire.BigEndian
