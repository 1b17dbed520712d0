/-
The controller: three loops that turn "move this far" and "turn this much" into maneuvers.

A straight move runs the distance loop on the mean travel of both sides and the angle loop on their
difference, which holds the line.  A turn runs the turn loop on the difference.  Clients write
targets and flags, a cycle steps the loops of the current mode, and waiting clients poll.  Each of
these is one function here: whoever calls them in whatever order, each runs as a whole.

The controller holds no clock and no hardware.  What it needs of both, the present instant and the
readings of the sensors, comes in as an argument; what it wants done goes out as a maneuver.

* `Drivetrain.Controller` — the loops, the settings and the state of the current motion;
* `Drivetrain.Controller.create` — a controller, if its settings are usable;
* `Drivetrain.Controller.Request`, `Drivetrain.Controller.request` — what a client may ask for,
  and what it comes to;
* `Drivetrain.Controller.motion?`, `Drivetrain.Controller.launch` — the two halves of a request
  for a motion: whether it is accepted, and the loops set on it;
* `Drivetrain.Controller.tick` — one cycle of the loop;
* `Drivetrain.Controller.poll` — one look of a waiting client.
-/

import Drivetrain.Drive
import Drivetrain.Loop
import Drivetrain.Mode
import Drivetrain.Scales
import Drivetrain.SetupError

set_option relaxedAutoImplicit false
set_option autoImplicit false

namespace Drivetrain

open Scalar (ofInt)

inductive Slot where
  | distance
  | turn
  | angle
  deriving Repr, DecidableEq

/-- **A controller.** -/
structure Controller (α : Type) where
  /-- How physical units become encoder degrees. -/
  scales : Scales α
  gearing : Gearing α
  /-- The period of the cycle and of every poll, in nanoseconds. -/
  period : Nat
  period_pos : 0 < period
  /-- The loop on the mean travel of both sides. -/
  distance : Loop α
  /-- The loop that turns in place. -/
  turn : Loop α
  /-- The loop that holds a straight line. -/
  angle : Loop α
  mode : Mode
  /-- Whether there is nothing for a cycle to do. -/
  idle : Bool
  /-- Whether a motion was accepted that no cycle has seen yet. -/
  fresh : Bool
  /-- The readings from which travel is measured. -/
  baseline : Readings
  /-- The mode of the last cycle that had something to do. -/
  lastMode : Mode
  /-- Whether positive turns go the other way. -/
  mirrored : Bool
  moveThreshold : Length α
  turnThreshold : Angle α

namespace Controller

variable {α : Type} [Scalar α]

/-! ### Setting up -/

/-- The first reason, if there is one, why a gearing and scales cannot be used. -/
def refusal? (gearing : Gearing α) (scales : Scales α) : Option (SetupError α) :=
  if gearing.ratio == 0 then some .zeroGearRatio
  else if !Scalar.isFinite gearing.ratio then some (.config (.ratioNotFinite gearing.ratio))
  else if !scales.isValid then some (.config (.scalesInvalid scales))
  else none

/-- **A controller at rest**, if its gearing, its scales and, last, its period are usable. -/
def create (distance turn angle : Loop α) (gearing : Gearing α) (scales : Scales α)
    (period : Nat) : Except (SetupError α) (Controller α) :=
  match refusal? gearing scales with
  | some e => .error e
  | none =>
      if h : 0 < period then
        .ok
          { scales := scales
            gearing := gearing
            period := period
            period_pos := h
            distance := distance
            turn := turn
            angle := angle
            mode := .none
            idle := true
            fresh := false
            baseline := ⟨0, 0⟩
            lastMode := .none
            mirrored := false
            moveThreshold := .zero
            turnThreshold := .zero }
      else .error .zeroLoopPeriod

/-! ### Requests -/

def disableAll (c : Controller α) : Controller α :=
  { c with
    distance := c.distance.setDisabled true
    angle := c.angle.setDisabled true
    turn := c.turn.setDisabled true }

/-- The target of a move, in motor degrees. -/
def moveTarget (c : Controller α) (x : Length α) : α :=
  x.meters * c.scales.straight * c.gearing.ratio

def ignoresMove (c : Controller α) (x : Length α) : Bool :=
  decide (x.abs.meters < c.moveThreshold.meters)

/-- The state of a straight move toward a target, before its first cycle. -/
def beginMove (c : Controller α) (target : α) : Controller α :=
  { c with
    distance := (c.distance.reset.setDisabled false).setTarget target
    angle := (c.angle.reset.setDisabled false).setTarget 0
    turn := c.turn.setDisabled true
    mode := .distance
    idle := false
    fresh := true }

/-- The length of a move given in wheel degrees. -/
def rawLength (c : Controller α) (ticks : α) : Length α := ⟨ticks / c.scales.straight⟩

/-- The factor that mirrors turns, or does not. -/
def turnSign (mirrored : Bool) : α := if mirrored then -1 else 1

/-- The target of a turn, mirrored or not, in motor degrees. -/
def turnTarget (c : Controller α) (x : Angle α) (mirrored : Bool) : α :=
  x.degrees * c.scales.turn * c.gearing.ratio * turnSign mirrored

def ignoresTurn (c : Controller α) (x : Angle α) : Bool :=
  decide (x.abs.degrees < c.turnThreshold.degrees)

/-- The state of a turn toward a target, before its first cycle. -/
def beginTurn (c : Controller α) (target : α) : Controller α :=
  { c with
    turn := (c.turn.reset.setDisabled false).setTarget target
    distance := c.distance.setDisabled true
    angle := c.angle.setDisabled true
    mode := .angle
    idle := false
    fresh := true }

/-- The angle of a turn given in wheel degrees. -/
def rawAngle (c : Controller α) (ticks : α) : Angle α := ⟨ticks / c.scales.turn⟩

/-- What a client may ask for. -/
inductive Request (α : Type) where
  | move (distance : Length α)
  /-- A straight move in wheel degrees. -/
  | moveRaw (ticks : α)
  | turn (angle : Angle α)
  /-- A turn in place in wheel degrees. -/
  | turnRaw (ticks : α)
  | mirror (mirrored : Bool)
  /-- A stop, which leaves the motion to whoever waits for it. -/
  | stop
  | setMoveThreshold (threshold : Length α)
  | setTurnThreshold (threshold : Angle α)
  deriving Repr

/-- **A motion that was accepted.** -/
inductive Motion (α : Type) where
  | move (distance : Length α)
  /-- A turn in place, mirrored if turns were when it was accepted. -/
  | turn (angle : Angle α) (mirrored : Bool)
  deriving Repr

def acceptMove (c : Controller α) (x : Length α) : Option (Motion α) :=
  if c.ignoresMove x then none else some (.move x)

def acceptTurn (c : Controller α) (x : Angle α) : Option (Motion α) :=
  if c.ignoresTurn x then none else some (.turn x c.mirrored)

/-- The motion that a request asks for, if it does and the motion is accepted. -/
def motion? (c : Controller α) : Request α → Option (Motion α)
  | .move x => c.acceptMove x
  | .moveRaw t => c.acceptMove (c.rawLength t)
  | .turn x => c.acceptTurn x
  | .turnRaw t => c.acceptTurn (c.rawAngle t)
  | .mirror _ | .stop | .setMoveThreshold _ | .setTurnThreshold _ => none

/-- **The controller set on a motion**, in place of whatever it was doing. -/
def launch (c : Controller α) : Motion α → Controller α
  | .move x => c.beginMove (c.moveTarget x)
  | .turn x mirrored => c.beginTurn (c.turnTarget x mirrored)

def adjust (c : Controller α) : Request α → Controller α
  | .mirror b => { c with mirrored := b }
  | .stop => c.disableAll
  | .setMoveThreshold x => { c with moveThreshold := x.abs }
  | .setTurnThreshold x => { c with turnThreshold := x.abs }
  | .move _ | .moveRaw _ | .turn _ | .turnRaw _ => c

/-- **The controller after a request.** -/
def request (c : Controller α) (r : Request α) : Controller α :=
  match c.motion? r with
  | some m => c.launch m
  | none => c.adjust r

/-- The maneuver that a request calls for at once. -/
def Request.maneuver? : Request α → Option (Maneuver α)
  | .stop => some .stop
  | _ => none

/-! ### The cycle -/

/-- The readings that a cycle may take: first those of a new baseline, then those of the present. -/
structure Samples where
  baseline : Readings
  current : Readings
  deriving Repr

/-- Whether the next cycle measures from a new baseline. -/
def needsBaseline (c : Controller α) : Bool := c.mode != c.lastMode || c.fresh

/-- The travel of each side since a baseline.  The difference wraps at thirty-two bits, as the
readings do. -/
def travel (baseline current : Readings) : Sides α :=
  ⟨ofInt (current.left - baseline.left).toInt, ofInt (current.right - baseline.right).toInt⟩

/-- The controller at the start of its cycles, its sensors read once. -/
def started (c : Controller α) (baseline : Readings) : Controller α :=
  { c with baseline := baseline, lastMode := .none }

/-- The controller at the start of a cycle: the baseline is new if it has to be. -/
def rebased (c : Controller α) (baseline : Readings) : Controller α :=
  { c with
    baseline := if c.needsBaseline then baseline else c.baseline
    fresh := false
    lastMode := c.mode }

/-- **The work of a cycle** at an instant: the loops of the current mode are stepped, and their
outputs ask for a maneuver. -/
def cycle (c : Controller α) (samples : Samples) (now : Nat) :
    Controller α × Option (Maneuver α) :=
  let c := c.rebased samples.baseline
  let moved : Sides α := travel c.baseline samples.current
  match c.mode with
  | .distance =>
      let (distance, forward) := c.distance.step ((moved.left + moved.right) / ofInt 2) now
      let (angle, yaw) := c.angle.step (moved.left - moved.right) now
      ({ c with distance := distance, angle := angle }, some (.vector forward yaw))
  | .angle =>
      let (turn, speed) := c.turn.step (moved.left - moved.right) now
      ({ c with turn := turn }, some (.rotate speed))
  | .none => (c, none)

/-- **One cycle** at an instant.  A cycle that looks and finds nothing to do works on nothing. -/
def tick (c : Controller α) (samples : Samples) (now : Nat) : Controller α × Option (Maneuver α) :=
  if c.idle then (c, none) else c.cycle samples now

/-! ### Waiting -/

/-- Whether the loops of a mode have settled, and the controller after the check.  On a straight
move the angle loop is only asked once the distance loop has settled. -/
def checkSettled (c : Controller α) (now : Nat) : Mode → Bool × Controller α
  | .distance =>
      let (there, distance) := c.distance.checkSettled now
      let c := { c with distance := distance }
      if there then
        let (straight, angle) := c.angle.checkSettled now
        (straight, { c with angle := angle })
      else (false, c)
  | .angle =>
      let (there, turn) := c.turn.checkSettled now
      (there, { c with turn := turn })
  | .none => (true, c)

/-- The motion ended: all loops switched off and nothing left to do. -/
def finish (c : Controller α) : Controller α :=
  { c.disableAll with mode := .none, idle := true }

/-- What a waiting client sees. -/
inductive Verdict where
  /-- The mode that it watched has given way to another. -/
  | superseded
  /-- The motion goes on. -/
  | pending
  /-- The motion has settled and was ended, and the chassis is to stop. -/
  | finished
  deriving Repr, DecidableEq

/-- **One look of a client that watches a mode.** -/
def poll (c : Controller α) (watched : Mode) (now : Nat) : Verdict × Controller α :=
  if c.mode ≠ watched then (.superseded, c)
  else
    let (settled, c) := c.checkSettled now watched
    if settled then (.finished, c.finish) else (.pending, c)

/-! ### Scripted loops -/

/-- A loop that follows a script told something new. -/
def script (c : Controller α) (slot : Slot) (f : ScriptedLoop α → ScriptedLoop α) : Controller α :=
  match slot with
  | .distance => { c with distance := c.distance.script f }
  | .turn => { c with turn := c.turn.script f }
  | .angle => { c with angle := c.angle.script f }

end Controller

end Drivetrain
