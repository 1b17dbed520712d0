/-
The configuration of a controller.

Every entry has a default, so a file that names some of them, or none, configures a controller too.

* `Drivetrain.ScalesEntry` — scales as they are configured: given, or by the wheels;
* `Drivetrain.Config` — all entries;
* `Drivetrain.Config.problem?` — the first reason why a configuration cannot be used.
-/

import Drivetrain.Gearing
import Drivetrain.Pid
import Drivetrain.Scales
import Drivetrain.SetupError

set_option relaxedAutoImplicit false
set_option autoImplicit false

namespace Drivetrain

open Scalar (ofInt ofDecimal)

/-- **Scales as they are configured.** -/
inductive ScalesEntry (α : Type) where
  | raw (straight turn : α)
  /-- Wheel diameter and wheelbase, in meters. -/
  | dimensions (wheelDiameter wheelbase : α)
  deriving Repr, BEq

namespace ScalesEntry

variable {α : Type} [Scalar α]

/-- The scales that an entry stands for. -/
def toScales : ScalesEntry α → Scales α
  | raw straight turn => ⟨straight, turn⟩
  | dimensions diameter wheelbase => .ofWheels ⟨diameter⟩ ⟨wheelbase⟩

end ScalesEntry

/-- **The configuration of a controller.** -/
structure Config (α : Type) where
  /-- The period of the loop, in milliseconds. -/
  loopPeriod : Nat
  gearset : Gearset
  /-- The ratio of the gears between motor and wheel. -/
  gearRatio : α
  /-- The velocity of full speed, if it is not the free speed of the cartridge. -/
  maxVelocity : Option α
  /-- The voltage of full speed, in millivolts. -/
  maxVoltage : α
  scales : ScalesEntry α
  distanceGains : Gains α
  turnGains : Gains α
  /-- The gains of the angle loop, if they are not those of the turn loop. -/
  angleGains : Option (Gains α)
  /-- When a loop counts as settled. -/
  settle : SettleSettings α
  /-- Shorter moves are ignored; in meters. -/
  moveThreshold : α
  /-- Smaller turns are ignored; in degrees. -/
  turnThreshold : α
  deriving Repr, BEq

namespace Config

variable {α : Type} [Scalar α]

/-- The configuration of a file without entries. -/
def standard : Config α where
  loopPeriod := 10
  gearset := .green
  gearRatio := 1
  maxVelocity := none
  maxVoltage := ofInt 12000
  scales := .raw 1 1
  distanceGains := ⟨ofDecimal 1 3, 0, ofDecimal 1 4, 0⟩
  turnGains := ⟨ofDecimal 3 3, 0, ofDecimal 1 4, 0⟩
  angleGains := none
  settle := .standard
  moveThreshold := 0
  turnThreshold := 0

/-- **The first reason**, if there is one, why a configuration cannot be used. -/
def problem? (c : Config α) : Option (SetupError α) :=
  if c.loopPeriod = 0 then some .zeroLoopPeriod
  else if c.gearRatio == 0 then some .zeroGearRatio
  else if !Scalar.isFinite c.gearRatio then some (.config (.ratioEntryNotFinite c.gearRatio))
  else if c.maxVoltage ≤ 0 then some (.config (.voltageNotPositive c.maxVoltage))
  else
    match c.maxVelocity.filter fun v => decide (v ≤ 0) with
    | some v => some (.config (.velocityNotPositive v))
    | none =>
        if c.scales.toScales.isValid then none
        else some (.config (.scalesInvalid c.scales.toScales))

/-- The configuration, if it can be used. -/
def checked (c : Config α) : Except (SetupError α) (Config α) :=
  match c.problem? with
  | some e => .error e
  | none => .ok c

/-- The period of the loop, in nanoseconds. -/
def period (c : Config α) : Nat := Time.ofMilliseconds c.loopPeriod

def gearing (c : Config α) : Gearing α := ⟨c.gearset, c.gearRatio⟩

def velocity (c : Config α) : α := c.maxVelocity.getD c.gearset.freeSpeed

def angle (c : Config α) : Gains α := c.angleGains.getD c.turnGains

/-- The length below which moves are ignored. -/
def shortestMove (c : Config α) : Length α := ⟨c.moveThreshold⟩

/-- The angle below which turns are ignored. -/
def smallestTurn (c : Config α) : Angle α := ⟨c.turnThreshold⟩

end Config

end Drivetrain
