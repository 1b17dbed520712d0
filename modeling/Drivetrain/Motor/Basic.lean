/-
What a motor can be told.

* `Drivetrain.MotorOrder` — how fast to turn, or how hard to push;
* `Drivetrain.MotorSetting` — everything else: braking, the encoder's units, the cartridge and the
  tuning of the loops inside the motor.
-/

import Drivetrain.Gearing

set_option relaxedAutoImplicit false
set_option autoImplicit false

namespace Drivetrain

/-- What a motor does when it is told to stand still. -/
inductive BrakeMode where
  | coast
  | brake
  | hold
  deriving Repr, DecidableEq, Inhabited

/-- The units in which an encoder answers. -/
inductive EncoderUnits where
  | degrees
  | rotations
  | counts
  deriving Repr, DecidableEq, Inhabited

/-- The tuning of a loop inside a motor. -/
structure Tuning (α : Type) where
  /-- Feed forward. -/
  kf : α
  /-- Proportional gain. -/
  kp : α
  /-- Integral gain. -/
  ki : α
  /-- Derivative gain. -/
  kd : α
  /-- Filter of the derivative. -/
  filter : α
  /-- Limit of the integral. -/
  limit : α
  /-- Threshold of the error. -/
  threshold : α
  /-- Period of the loop. -/
  loopSpeed : α
  deriving Repr, BEq

/-- A tuning by its gains, all else zero. -/
def Tuning.ofGains {α : Type} [Scalar α] (kf kp ki kd : α) : Tuning α :=
  ⟨kf, kp, ki, kd, 0, 0, 0, 0⟩

/-- An order to turn. -/
inductive MotorOrder where
  /-- Turn at a velocity, in turns per minute. -/
  | velocity (rpm : Int16)
  /-- Push with a voltage, in millivolts. -/
  | voltage (millivolts : Int16)
  deriving Repr, DecidableEq

/-- A setting that changes how a motor behaves and not how fast it turns. -/
inductive MotorSetting (α : Type) where
  /-- What to do at standstill. -/
  | brakeMode (mode : BrakeMode)
  | encoderUnits (units : EncoderUnits)
  | gearset (gearset : Gearset)
  | positionTuning (tuning : Tuning α)
  | velocityTuning (tuning : Tuning α)
  deriving Repr

end Drivetrain
