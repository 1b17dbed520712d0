/-
Mixing: from the driver's axes to the two sides of the chassis.

Every axis is a fraction of full speed; what lies outside `[-1, 1]` is clamped, never refused.

* `Drivetrain.Sides` — a value for each side;
* `Drivetrain.Axis` — an axis of a stick, with a side that it leans to whatever its value;
* `Drivetrain.Mixing.vector` — forward and yaw added and subtracted, then brought back into range
  without changing the ratio of the sides;
* `Drivetrain.Mixing.tank` — one axis a side, with a **strict** deadband;
* `Drivetrain.Mixing.arcade` — forward and yaw on one stick, with an **inclusive** deadband;
* `Drivetrain.Mixing.command` — the whole-number command for a fraction of a maximum.
-/

import Drivetrain.Scalar

set_option relaxedAutoImplicit false
set_option autoImplicit false

namespace Drivetrain

/-- A value for each side of the chassis. -/
structure Sides (β : Type) where
  left : β
  right : β
  deriving Repr, DecidableEq, BEq

namespace Sides

variable {β γ : Type}

/-- The same function on both sides. -/
def map (f : β → γ) (s : Sides β) : Sides γ := ⟨f s.left, f s.right⟩

/-- Left becomes right and right becomes left. -/
def swap (s : Sides β) : Sides β := ⟨s.right, s.left⟩

end Sides

/-! ### Axes -/

/-- **An axis of a stick.**  A number shows by its sign which way the stick leans; a value that is
not a number does not, so that is kept beside it. -/
structure Axis (α : Type) where
  value : α
  /-- Whether a value that is not a number leans backward. -/
  leansBack : Bool
  deriving Repr, BEq

namespace Axis

variable {α : Type} [Scalar α]

/-- A value as an axis.  What is not a number leans forward. -/
instance instCoeAxis : Coe α (Axis α) := ⟨fun x => ⟨x, false⟩⟩

/-- The axis with its value changed. -/
def map (f : α → α) (a : Axis α) : Axis α := { a with value := f a.value }

/-- Whether the stick leans backward. -/
def isNegative (a : Axis α) : Bool :=
  if Scalar.isNaN a.value then a.leansBack else Scalar.isNegative a.value

end Axis

/-! ### Mixing -/

namespace Mixing

variable {α : Type} [Scalar α]

open Scalar (abs larger underSign)

/-- A fraction of full speed, clamped to `[-1, 1]`. -/
def clampUnit (x : α) : α := Range.unit.clamp x

/-- The fraction, or nothing where it is **below** the threshold. -/
def strictDeadband (threshold x : α) : α :=
  if abs x < threshold then 0 else x

/-- The fraction, or nothing where it is **at or below** the threshold. -/
def inclusiveDeadband (threshold x : α) : α :=
  if abs x ≤ threshold then 0 else x

/-- **Vector mixing.**  Where a side would pass full speed both are divided by the larger magnitude,
so the ratio of the sides survives. -/
def vector (forward yaw : α) : Sides α :=
  let f := clampUnit forward
  let y := clampUnit yaw
  let left := f + y
  let right := f - y
  let magnitude := larger (abs left) (abs right)
  if 1 < magnitude then ⟨left / magnitude, right / magnitude⟩ else ⟨left, right⟩

/-- **Tank mixing**: each side its own axis. -/
def tank (left right threshold : α) : Sides α :=
  ⟨strictDeadband threshold (clampUnit left), strictDeadband threshold (clampUnit right)⟩

/-- **Arcade mixing**: the side on the outside of the turn gets the larger of the two axes, under
the sign of the forward axis; the other gets their sum or difference. -/
def arcade (forward : Axis α) (yaw threshold : α) : Sides α :=
  let deadband (x : α) : α := inclusiveDeadband threshold (clampUnit x)
  let axis := forward.map deadband
  let f := axis.value
  let y := deadband yaw
  let outer := underSign axis.isNegative (larger (abs f) (abs y))
  let mixed : Sides α :=
    match decide (0 ≤ f), decide (0 ≤ y) with
    | true, true => ⟨outer, f - y⟩
    | true, false => ⟨f + y, outer⟩
    | false, true => ⟨f + y, outer⟩
    | false, false => ⟨outer, f - y⟩
  mixed.map clampUnit

/-- **The command for a fraction of a maximum**: the product without its fraction, held inside the
sixteen bits that a motor accepts. -/
def command (fraction maximum : α) : Int16 :=
  Int16.ofIntClamp (Scalar.truncate (fraction * maximum))

end Mixing

end Drivetrain
