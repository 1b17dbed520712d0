/-
Motors on a test bench: they stand still and remember what they were told.

* `Drivetrain.BenchMotor` — the last orders and settings, and an encoder that is placed by hand.
-/

import Drivetrain.Motor.Basic

set_option relaxedAutoImplicit false
set_option autoImplicit false

namespace Drivetrain

/-- **A motor on a test bench.** -/
structure BenchMotor (α : Type) where
  velocity : Int16
  voltage : Int16
  brakeMode : BrakeMode
  units : EncoderUnits
  gearset : Gearset
  /-- The tuning of the position loop, once set. -/
  positionTuning : Option (Tuning α)
  /-- The tuning of the velocity loop, once set. -/
  velocityTuning : Option (Tuning α)
  encoder : α
  deriving Repr, BEq

namespace BenchMotor

variable {α : Type} [Scalar α]

/-- A motor that was told nothing yet. -/
def new : BenchMotor α where
  velocity := 0
  voltage := 0
  brakeMode := .coast
  units := .degrees
  gearset := .green
  positionTuning := none
  velocityTuning := none
  encoder := 0

/-- The motor after an order. -/
def obey (m : BenchMotor α) : MotorOrder → BenchMotor α
  | .velocity v => { m with velocity := v }
  | .voltage v => { m with voltage := v }

/-- The motor after a setting. -/
def configure (m : BenchMotor α) : MotorSetting α → BenchMotor α
  | .brakeMode b => { m with brakeMode := b }
  | .encoderUnits u => { m with units := u }
  | .gearset g => { m with gearset := g }
  | .positionTuning t => { m with positionTuning := some t }
  | .velocityTuning t => { m with velocityTuning := some t }

end BenchMotor

end Drivetrain
