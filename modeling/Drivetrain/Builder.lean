/-
Building a controller from motors, gains and geometry.

Motors and the gains of the distance and turn loops are needed.  Everything else has a default: a
green cartridge that drives the wheels directly, unit scales, the free speed of the cartridge and
12000 millivolts as full speed, a period of ten milliseconds and the standard settle tolerances.

* `Drivetrain.Builder` — what has been given so far;
* `Drivetrain.Builder.Call`, `Drivetrain.Builder.give` — one more thing given;
* `Drivetrain.Builder.undertake` — the program that builds a controller and starts its cycle;
* `Drivetrain.Builder.build` — a session in which the controller's cycle runs.
-/

import Drivetrain.Config
import Drivetrain.Session

set_option relaxedAutoImplicit false
set_option autoImplicit false

namespace Drivetrain

open Scalar (ofInt)

/-- **What has been given** to build a controller from. -/
structure Builder (α : Type) where
  /-- The motors, on their wheels. -/
  motors : Option (Wheels (Motor α))
  /-- Sensors of their own, where each stands. -/
  sensors : Option (Sides α)
  distanceGains : Option (Gains α)
  turnGains : Option (Gains α)
  /-- The gains of the angle loop, if they are not those of the turn loop. -/
  angleGains : Option (Gains α)
  gearing : Gearing α
  scales : Scales α
  /-- The velocity of full speed, if it is not the free speed of the cartridge. -/
  maxVelocity : Option α
  maxVoltage : α
  /-- The period of the cycle, in nanoseconds. -/
  period : Nat
  /-- When a loop counts as settled. -/
  settle : SettleSettings α
  moveThreshold : Length α
  turnThreshold : Angle α

namespace Builder

variable {α : Type} [Scalar α]

def new : Builder α where
  motors := none
  sensors := none
  distanceGains := none
  turnGains := none
  angleGains := none
  gearing := .direct .green
  scales := .unit
  maxVelocity := none
  maxVoltage := ofInt 12000
  period := Time.ofMilliseconds 10
  settle := .standard
  moveThreshold := .zero
  turnThreshold := .zero

/-- Everything that a configuration says given, motors and sensors left alone.  Velocity and angle
gains are given as the configuration resolves them, so they no longer follow later calls. -/
def giveConfig (b : Builder α) (c : Config α) : Builder α :=
  { b with
    distanceGains := some c.distanceGains
    turnGains := some c.turnGains
    angleGains := some c.angle
    gearing := c.gearing
    scales := c.scales.toScales
    maxVelocity := some c.velocity
    maxVoltage := c.maxVoltage
    period := c.period
    settle := c.settle
    moveThreshold := c.shortestMove
    turnThreshold := c.smallestTurn }

/-- What may be given. -/
inductive Call (α : Type) where
  | motors (motors : Wheels (Motor α))
  | sensors (positions : Sides α)
  | gains (distance turn : Gains α)
  | angleGains (gains : Gains α)
  | gearing (gearing : Gearing α)
  | dimensions (scales : Scales α)
  | maxVelocity (velocity : α)
  | maxVoltage (voltage : α)
  | period (nanoseconds : Nat)
  | settle (settings : SettleSettings α)
  | moveThreshold (threshold : Length α)
  | turnThreshold (threshold : Angle α)
  | config (config : Config α)

/-- **One more thing given.**  What was given before in its place is forgotten. -/
def give (b : Builder α) : Call α → Builder α
  | .motors m => { b with motors := some m }
  | .sensors s => { b with sensors := some s }
  | .gains d t => { b with distanceGains := some d, turnGains := some t }
  | .angleGains g => { b with angleGains := some g }
  | .gearing g => { b with gearing := g }
  | .dimensions s => { b with scales := s }
  | .maxVelocity v => { b with maxVelocity := some v }
  | .maxVoltage v => { b with maxVoltage := v }
  | .period t => { b with period := t }
  | .settle s => { b with settle := s }
  | .moveThreshold x => { b with moveThreshold := x }
  | .turnThreshold x => { b with turnThreshold := x }
  | .config c => b.giveConfig c

def velocity (b : Builder α) : α := b.maxVelocity.getD b.gearing.gearset.freeSpeed

def drive (b : Builder α) (motors : Wheels (Motor α)) : Drive α where
  motors := motors
  sensing := match b.sensors with
    | some positions => .external positions
    | none => .builtIn
  full := ⟨b.velocity, b.maxVoltage⟩

def loop (b : Builder α) (gains : Gains α) : Loop α := .position (.new gains b.settle b.period)

/-- The controller with given gains, if its settings are usable. -/
def controller (b : Builder α) (distance turn : Gains α) :
    Except (SetupError α) (Controller α) := do
  let c ← Controller.create (b.loop distance) (b.loop turn) (b.loop (b.angleGains.getD turn))
    b.gearing b.scales b.period
  return (c.request (.setMoveThreshold b.moveThreshold)).request (.setTurnThreshold b.turnThreshold)

def neededGains (b : Builder α) : Except (SetupError α) (Gains α × Gains α) :=
  match b.distanceGains, b.turnGains with
  | some d, some t => .ok (d, t)
  | _, _ => .error .missingGains

def neededMotors (b : Builder α) : Except (SetupError α) (Wheels (Motor α)) :=
  match b.motors with
  | some m => .ok m
  | none => .error .missingMotors

/-- What is reported while a controller is built, before its cycle starts. -/
def announce (b : Builder α) : List (Notice α) :=
  match b.neededGains, b.neededMotors with
  | .ok (distance, turn), .ok _ =>
      .building b.gearing b.period ::
        match b.controller distance turn with
        | .ok _ => []
        | .error e => e.announce
  | _, _ => []

/-- **The program that builds a controller**: what is needed is demanded first, and nothing is done
to the motors before the controller has been created.  Then it is set up on its drive, and its
cycle is started. -/
def undertake (b : Builder α) : Undertaking α (Session α) := do
  let (distance, turn) ← Undertaking.demand b.neededGains
  let motors ← Undertaking.demand b.neededMotors
  let s ← Session.commission (b.controller distance turn) (b.drive motors) []
  Session.launch { s with journal := s.journal ++ b.announce }

/-- **A session in which the controller's cycle runs**, or why there is none. -/
def build (b : Builder α) : Except (SetupError α) (Session α) := (b.undertake.outcome .none).1

end Builder

end Drivetrain
