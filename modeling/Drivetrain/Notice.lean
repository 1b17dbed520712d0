/-
What a controller reports while it works.

* `Drivetrain.Level` — how serious a notice is;
* `Drivetrain.Notice` — what is reported;
* `Drivetrain.Notice.level`, `Drivetrain.Notice.message` — its level and its text.
-/

import Drivetrain.Gearing
import Drivetrain.Mode
import Drivetrain.SetupError
import Drivetrain.Text.Duration

set_option relaxedAutoImplicit false
set_option autoImplicit false

namespace Drivetrain

open Decimal (numeral)

/-- How serious a notice is. -/
inductive Level where
  | error
  | warning
  | info
  | debug
  deriving Repr, DecidableEq

/-- The level as it stands before a notice. -/
def Level.label : Level → String
  | error => "ERROR"
  | warning => "WARN"
  | info => "INFO"
  | debug => "DEBUG"

/-- **What is reported.**  Distances are in meters, angles in degrees, durations in nanoseconds. -/
inductive Notice (α : Type) where
  | loopStarted (period : Nat)
  | loopStopped
  | moveIgnored (meters : α)
  | moving (meters : α)
  /-- A move was accepted, in motor degrees. -/
  | movingMotor (degrees : α)
  | turnIgnored (degrees : α)
  | turning (degrees : α)
  /-- A turn was accepted, in motor degrees. -/
  | turningMotor (degrees : α)
  | waiting
  | watching (mode : Mode)
  /-- The mode that a wait watched gave way to another. -/
  | superseded (current watched : Mode)
  | waited
  | stopping
  | building (gearing : Gearing α) (period : Nat)
  | refusedZeroRatio
  /-- A ratio that is not finite was refused. -/
  | refusedRatio (ratio : α)
  | refusedScales (scales : Scales α)
  | refusedPeriod
  /-- A configuration file was not there. -/
  | noConfig (path : String)

namespace Notice

/-- How serious a notice is. -/
def level {α : Type} : Notice α → Level
  | refusedZeroRatio | refusedRatio _ | refusedScales _ | refusedPeriod => .error
  | superseded .. => .warning
  | stopping => .debug
  | _ => .info

/-- What reports everything but the building of a controller and the lack of a file. -/
def reporter : String := "ChassisControllerPid: "

/-- **The text of a notice.** -/
def message : Notice Float → String
  | loopStarted period => s!"{reporter}control loop started ({Text.duration period} period)"
  | loopStopped => s!"{reporter}control loop stopped"
  | moveIgnored x =>
      s!"{reporter}ignoring move of {numeral .sentence x} meters below the move threshold"
  | moving x => s!"{reporter}moving {numeral .sentence x} meters"
  | movingMotor x => s!"{reporter}moving {numeral .sentence x} motor degrees"
  | turnIgnored x =>
      s!"{reporter}ignoring turn of {numeral .sentence x} degrees below the turn threshold"
  | turning x => s!"{reporter}turning {numeral .sentence x} degrees"
  | turningMotor x => s!"{reporter}turning {numeral .sentence x} motor degrees"
  | waiting => s!"{reporter}Waiting to settle"
  | watching mode => s!"{reporter}Waiting to settle in {mode.label} mode"
  | superseded current watched =>
      s!"{reporter}Mode changed to {current.label} while waiting in {watched.label}!"
  | waited => s!"{reporter}Done waiting to settle"
  | stopping => s!"{reporter}stopping"
  | building gearing period =>
      s!"ChassisControllerBuilder: building PID controller ({gearing.gearset.title} x " ++
        s!"{numeral .sentence gearing.ratio}, {Text.duration period} period)"
  | refusedZeroRatio =>
      s!"{reporter}The gear ratio cannot be zero! Check if you are using integer division."
  | refusedRatio x => s!"{reporter}The gear ratio must be finite, got {numeral .sentence x}"
  | refusedScales s => s!"{reporter}Invalid chassis scales {s.record}"
  | refusedPeriod => s!"{reporter}The loop period cannot be zero!"
  | noConfig path => s!"No config at {path}, using defaults"

/-- The notice as a line, its level first. -/
def line (n : Notice Float) : String := s!"{n.level.label} {n.message}"

end Notice

end Drivetrain
