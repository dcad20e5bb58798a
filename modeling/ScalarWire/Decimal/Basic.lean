import ScalarWire.Number.Numeral

/-!
# Decimals

An exact decimal number: a whole number and a scale, which says how many of its digits stand
behind the point. Numbers of one value but different scales are different decimals.
-/

namespace ScalarWire

structure Decimal where
  unscaled : Int
  scale : Int
  deriving DecidableEq, Repr

namespace Decimal

-- Powers are those of the core library, also beside Mathlib.
attribute [local instance (high)] instPowNat

/-- The same number at another scale. Digits that no longer fit behind the point are cut off. -/
def withScale (d : Decimal) (scale : Int) : Decimal :=
  if d.unscaled = 0 then ⟨0, scale⟩
  else if d.scale ≤ scale then ⟨d.unscaled * 10 ^ (scale - d.scale).toNat, scale⟩
  else ⟨d.unscaled.tdiv (10 ^ (d.scale - scale).toNat), scale⟩

/-- The same number without a negative scale. -/
def expand (d : Decimal) : Decimal :=
  if d.scale < 0 then d.withScale 0 else d

end Decimal

end ScalarWire
