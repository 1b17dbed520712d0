/-
Simulated motors: they follow their last order at once, and the encoder adds up the turning.

The shaft's position is brought up to date only where it matters: before the speed or the cartridge
changes and before the position is read.  Between those moments the speed is constant, so nothing
is lost.

* `Drivetrain.SimulatedMotor` — the state of the shaft and its encoder;
* `Drivetrain.SimulatedMotor.advance` — the shaft brought up to an instant;
* `Drivetrain.SimulatedMotor.turnAt` — a new speed, held to the free speed of the cartridge.
-/

import Drivetrain.Motor.Basic
import Drivetrain.Time

set_option relaxedAutoImplicit false
set_option autoImplicit false

namespace Drivetrain

open Scalar (ofInt)

/-- **A simulated motor.** -/
structure SimulatedMotor (α : Type) where
  gearset : Gearset
  /-- The units in which the encoder answers. -/
  units : EncoderUnits
  /-- Degrees that the shaft turns in a second. -/
  speed : α
  /-- Degrees that the shaft had turned when it was last brought up to date. -/
  position : α
  /-- The position that the encoder takes for its zero. -/
  offset : α
  /-- When the shaft was last brought up to date. -/
  updatedAt : Nat
  deriving Repr, BEq

namespace SimulatedMotor

variable {α : Type} [Scalar α]

/-- A motor at rest. -/
def new (gearset : Gearset) (now : Nat) : SimulatedMotor α where
  gearset := gearset
  units := .degrees
  speed := 0
  position := 0
  offset := 0
  updatedAt := now

/-- **The shaft brought up to an instant.** -/
def advance (m : SimulatedMotor α) (now : Nat) : SimulatedMotor α :=
  { m with
    position := m.position + m.speed * Time.toSeconds (now - m.updatedAt)
    updatedAt := now }

/-- The speed of the shaft in turns per minute: six degrees a second each. -/
def velocity (m : SimulatedMotor α) : α := m.speed / ofInt 6

/-- The voltage that turns a motor at its free speed, in millivolts. -/
def nominalVoltage : α := ofInt 12000

/-- **A new speed**, in turns per minute, held to the free speed of the cartridge. -/
def turnAt (m : SimulatedMotor α) (now : Nat) (rpm : α) : SimulatedMotor α :=
  let m := m.advance now
  let free : α := m.gearset.freeSpeed
  { m with speed := Range.clamp ⟨-free, free⟩ rpm * ofInt 6 }

/-- The motor after an order; a voltage stands for its share of the free speed. -/
def obey (m : SimulatedMotor α) (now : Nat) : MotorOrder → SimulatedMotor α
  | .velocity v => m.turnAt now (ofInt v.toInt)
  | .voltage v => m.turnAt now (ofInt v.toInt / nominalVoltage * m.gearset.freeSpeed)

/-- The motor after a setting.  Orders take effect at once, so brake mode and inner tuning have
nothing to act on. -/
def configure (m : SimulatedMotor α) (now : Nat) : MotorSetting α → SimulatedMotor α
  | .encoderUnits u => { m with units := u }
  | .gearset g => { m.advance now with gearset := g }
  | .brakeMode _ | .positionTuning _ | .velocityTuning _ => m

/-- An angle of the shaft in the units of the encoder. -/
def inUnits (m : SimulatedMotor α) (degrees : α) : α :=
  match m.units with
  | .degrees => degrees
  | .rotations => degrees / ofInt 360
  | .counts => degrees / ofInt 360 * m.gearset.countsPerTurn

/-- How far the shaft has turned from the encoder's zero, in degrees. -/
def turned (m : SimulatedMotor α) : α := m.position - m.offset

/-- The encoder's reading, and the motor brought up to the instant of the reading. -/
def read (m : SimulatedMotor α) (now : Nat) : α × SimulatedMotor α :=
  let m := m.advance now
  (m.inUnits m.turned, m)

/-- The encoder takes the present position for its zero. -/
def reset (m : SimulatedMotor α) (now : Nat) : SimulatedMotor α :=
  let m := m.advance now
  { m with offset := m.position }

/-- The true position of the shaft, whatever the encoder's zero. -/
def locate (m : SimulatedMotor α) (now : Nat) : α × SimulatedMotor α :=
  let m := m.advance now
  (m.position, m)

end SimulatedMotor

end Drivetrain
