/-
Maneuvers: what a driver, or a controller, asks of the whole chassis.

A maneuver says which order goes to which wheel.  All but two of them treat the wheels of a side
alike, so they mean the same on both layouts; strafing and holonomic arcade need wheels on the
corners.

* `Drivetrain.Maneuver` — the maneuvers;
* `Drivetrain.Maxima` — the velocity and the voltage of full speed;
* `Drivetrain.Maneuver.order?` — the order for a wheel, if the maneuver has one for it.
-/

import Drivetrain.Drive.Wheels
import Drivetrain.Motor.Basic

set_option relaxedAutoImplicit false
set_option autoImplicit false

namespace Drivetrain

open Mixing (clampUnit command strictDeadband)

/-- **What is asked of the whole chassis.**  Speeds are fractions of full speed. -/
inductive Maneuver (α : Type) where
  | forward (speed : α)
  /-- Forward and yaw blended, sent as velocities. -/
  | vector (forward yaw : α)
  /-- Forward and yaw blended, sent as voltages. -/
  | vectorVoltage (forward yaw : α)
  /-- Turn in place, the right side against the left. -/
  | rotate (speed : α)
  | stop
  /-- Each side its own axis, sent as voltages. -/
  | tank (left right threshold : α)
  /-- Forward and yaw on one stick, sent as voltages. -/
  | arcade (forward : Axis α) (yaw threshold : α)
  | left (speed : α)
  | right (speed : α)
  /-- Sideways, to the right where positive. -/
  | strafe (speed : α)
  /-- Sideways, forward and yaw together, sent as voltages. -/
  | holonomic (sideways forward yaw threshold : α)
  deriving Repr

/-- The velocity, in turns per minute, and the voltage, in millivolts, of full speed. -/
structure Maxima (α : Type) where
  velocity : α
  voltage : α
  deriving Repr, BEq

namespace Maxima

variable {α : Type} [Scalar α]

/-- The velocity order for a fraction of full speed. -/
def velocityOrder (m : Maxima α) (fraction : α) : MotorOrder :=
  .velocity (command fraction m.velocity)

/-- The voltage order for a fraction of full speed. -/
def voltageOrder (m : Maxima α) (fraction : α) : MotorOrder :=
  .voltage (command fraction m.voltage)

end Maxima

namespace Maneuver

variable {α : Type} [Scalar α]

/-- The orders of strafing: the wheels of a diagonal turn alike, the diagonals against each
other. -/
def strafeOrder? (speed : Int16) : Wheel → Option MotorOrder
  | .topLeft | .bottomRight => some (.velocity speed)
  | .topRight | .bottomLeft => some (.velocity (-speed))
  | .left | .right => none

/-- The fraction of full speed at which holonomic arcade drives a corner. -/
def holonomicShare (sideways forward yaw : α) : Wheel → Option α
  | .topLeft => some (forward + sideways + yaw)
  | .topRight => some (forward - sideways - yaw)
  | .bottomRight => some (forward + sideways - yaw)
  | .bottomLeft => some (forward - sideways + yaw)
  | .left | .right => none

/-- **The order for a wheel**, if the maneuver has one for it. -/
def order? (full : Maxima α) : Maneuver α → Wheel → Option MotorOrder
  | forward s, _ => some (full.velocityOrder (clampUnit s))
  | vector f y, w => some (full.velocityOrder ((Mixing.vector f y).on w.side))
  | vectorVoltage f y, w => some (full.voltageOrder ((Mixing.vector f y).on w.side))
  | rotate s, w => some (full.velocityOrder (Sides.on ⟨clampUnit s, -clampUnit s⟩ w.side))
  | stop, _ => some (.velocity 0)
  | tank l r t, w => some (full.voltageOrder ((Mixing.tank l r t).on w.side))
  | arcade f y t, w => some (full.voltageOrder ((Mixing.arcade f y t).on w.side))
  | left s, w => if w.side = .left then some (full.velocityOrder (clampUnit s)) else none
  | right s, w => if w.side = .right then some (full.velocityOrder (clampUnit s)) else none
  | strafe s, w => strafeOrder? (command (clampUnit s) full.velocity) w
  | holonomic x f y t, w =>
      let bounded := fun axis => strictDeadband t (clampUnit axis)
      (holonomicShare (bounded x) (bounded f) (bounded y) w).map
        fun share => full.voltageOrder (clampUnit share)

end Maneuver

end Drivetrain
