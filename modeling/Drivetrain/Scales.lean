/-
The scales of a chassis: how physical units become encoder degrees.

* `Drivetrain.Scales` — encoder degrees per meter driven and per degree turned;
* `Drivetrain.Scales.ofWheels` — the scales of a chassis of given wheel diameter and wheelbase;
* `Drivetrain.Scales.isValid` — both scales are positive and finite.
-/

import Drivetrain.Quantity

set_option relaxedAutoImplicit false
set_option autoImplicit false

namespace Drivetrain

/-- How physical units become encoder degrees. -/
structure Scales (α : Type) where
  /-- Encoder degrees per meter driven. -/
  straight : α
  /-- Encoder degrees per degree of chassis rotation. -/
  turn : α
  deriving Repr, BEq

namespace Scales

variable {α : Type} [Scalar α]

/-- One encoder degree per meter and per degree. -/
def unit : Scales α := ⟨1, 1⟩

/-- The scales of a chassis whose wheels have the given diameter, its left and right wheels standing
`wheelbase` apart: one wheel turn covers one circumference. -/
def ofWheels (diameter wheelbase : Length α) : Scales α :=
  ⟨Scalar.ofInt 360 / (diameter.meters * Scalar.pi), wheelbase.meters / diameter.meters⟩

/-- Both scales are positive and finite. -/
def isValid (s : Scales α) : Bool :=
  Scalar.isFinite s.straight && decide (0 < s.straight) &&
    (Scalar.isFinite s.turn && decide (0 < s.turn))

end Scales

end Drivetrain
