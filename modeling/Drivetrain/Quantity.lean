/-
Lengths and angles.

* `Drivetrain.Length` — a distance along a line, held in meters;
* `Drivetrain.Angle` — a rotation, held in degrees.
-/

import Drivetrain.Scalar

set_option relaxedAutoImplicit false
set_option autoImplicit false

namespace Drivetrain

open Scalar (ofInt ofDecimal)

/-- A distance along a line. -/
structure Length (α : Type) where
  meters : α
  deriving Repr, BEq

namespace Length

variable {α : Type} [Scalar α]

/-- Meters in an inch. -/
def metersPerInch : α := ofDecimal 254 4

/-- No distance. -/
def zero : Length α := ⟨0⟩

/-- A number of centimeters. -/
def centimeters (x : α) : Length α := ⟨x / ofInt 100⟩

/-- A number of inches. -/
def inches (x : α) : Length α := ⟨x * metersPerInch⟩

/-- A number of feet, twelve inches each. -/
def feet (x : α) : Length α := inches (x * ofInt 12)

/-- The distance in inches. -/
def toInches (l : Length α) : α := l.meters / metersPerInch

/-- The distance without its direction. -/
def abs (l : Length α) : Length α := ⟨Scalar.abs l.meters⟩

instance : Neg (Length α) := ⟨fun l => ⟨-l.meters⟩⟩

instance : HMul (Length α) α (Length α) := ⟨fun l x => ⟨l.meters * x⟩⟩

end Length

/-- A rotation. -/
structure Angle (α : Type) where
  degrees : α
  deriving Repr, BEq

namespace Angle

variable {α : Type} [Scalar α]

/-- No rotation. -/
def zero : Angle α := ⟨0⟩

/-- A number of radians. -/
def radians (x : α) : Angle α := ⟨x * ofInt 180 / Scalar.pi⟩

/-- The rotation in radians. -/
def toRadians (a : Angle α) : α := a.degrees * Scalar.pi / ofInt 180

/-- The rotation without its direction. -/
def abs (a : Angle α) : Angle α := ⟨Scalar.abs a.degrees⟩

instance : Neg (Angle α) := ⟨fun a => ⟨-a.degrees⟩⟩

instance : HMul (Angle α) α (Angle α) := ⟨fun a x => ⟨a.degrees * x⟩⟩

end Angle

end Drivetrain
