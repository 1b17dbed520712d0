/-
Machine numbers taken apart.

* `Drivetrain.Decimal.Parts` — sign, mantissa and binary exponent of a finite machine number;
* `Drivetrain.Decimal.Parts.ofFloat?` — the parts of a number, if it is finite;
* `Drivetrain.Decimal.Parts.ratio` — the magnitude as a quotient of natural numbers.
-/

import Drivetrain.Scalar

set_option relaxedAutoImplicit false
set_option autoImplicit false

namespace Drivetrain.Decimal

/-- **A finite machine number**: `mantissa * 2 ^ exponent` under a sign. -/
structure Parts where
  /-- Whether the number carries a minus sign. -/
  negative : Bool
  /-- The mantissa, below `2 ^ 53`. -/
  mantissa : Nat
  /-- The binary exponent of the mantissa's last bit. -/
  exponent : Int
  deriving Repr, DecidableEq

/-- Bits of the stored fraction. -/
def fractionBits : Nat := 52

/-- The exponent of the last bit of the smallest numbers. -/
def leastExponent : Int := -1074

namespace Parts

/-- The parts that a bit pattern stands for, if its number is finite. -/
def ofBits? (bits : Nat) : Option Parts :=
  let negative := bits.testBit 63
  let biased := bits >>> fractionBits % 2048
  let fraction := bits % Nat.pow 2 fractionBits
  if biased = 2047 then none
  else if biased = 0 then some ⟨negative, fraction, leastExponent⟩
  else some ⟨negative, Nat.pow 2 fractionBits + fraction, leastExponent + (biased - 1 : Nat)⟩

/-- The parts of a machine number, if it is finite. -/
def ofFloat? (x : Float) : Option Parts := ofBits? x.toBits.toNat

/-- `n * 2 ^ e` as a quotient of natural numbers. -/
def scaled (n : Nat) (e : Int) : Nat × Nat := (n * Nat.pow 2 e.toNat, Nat.pow 2 (-e).toNat)

/-- The magnitude as a quotient of natural numbers. -/
def ratio (p : Parts) : Nat × Nat := scaled p.mantissa p.exponent

end Parts

end Drivetrain.Decimal
