/-
Why a controller cannot be set up.

* `Drivetrain.ConfigProblem` — what is wrong with a configuration;
* `Drivetrain.SetupError` — every cause of failure;
* `Drivetrain.SetupError.message` — its text.
-/

import Drivetrain.Scales
import Drivetrain.Toml.Problem

set_option relaxedAutoImplicit false
set_option autoImplicit false

namespace Drivetrain

open Decimal (numeral)

/-- **What is wrong with a configuration.** -/
inductive ConfigProblem (α : Type) where
  /-- The ratio of a gearing is infinite or no number. -/
  | ratioNotFinite (ratio : α)
  /-- The ratio of a configuration is infinite or no number. -/
  | ratioEntryNotFinite (ratio : α)
  /-- The voltage of full speed is zero or less. -/
  | voltageNotPositive (voltage : α)
  /-- The velocity of full speed is zero or less. -/
  | velocityNotPositive (velocity : α)
  /-- A scale is not positive, or not finite. -/
  | scalesInvalid (scales : Scales α)
  /-- The text of a configuration cannot be read as settings. -/
  | unreadable (problem : Toml.Problem)
  /-- The file of a configuration cannot be opened or read. -/
  | inaccessible (path reason : String)
  | other (text : String)

/-- **Why a controller cannot be set up.** -/
inductive SetupError (α : Type) where
  | zeroGearRatio
  | zeroLoopPeriod
  | missingMotors
  | missingGains
  | config (problem : ConfigProblem α)
  /-- The loop could not be started. -/
  | spawn (reason : String)

def Scales.record (s : Scales Float) : String :=
  "ChassisScales \x7b straight: " ++ numeral .record s.straight ++ ", turn: " ++
    numeral .record s.turn ++ " \x7d"

def ConfigProblem.message : ConfigProblem Float → String
  | ratioNotFinite x => s!"gear ratio must be finite, got {numeral .sentence x}"
  | ratioEntryNotFinite x => s!"gear_ratio must be finite, got {numeral .sentence x}"
  | voltageNotPositive x => s!"max_voltage must be positive, got {numeral .sentence x}"
  | velocityNotPositive x => s!"max_velocity must be positive, got {numeral .sentence x}"
  | scalesInvalid s => s!"chassis scales must be positive and finite, got {s.record}"
  | unreadable problem => s!"TOML: {problem.message}"
  | inaccessible path reason => s!"failed to read {path}: {reason}"
  | other text => text

/-- **The text of a failure.** -/
def SetupError.message : SetupError Float → String
  | zeroGearRatio => "the gear ratio cannot be zero, check if you are using integer division"
  | zeroLoopPeriod => "the control loop period cannot be zero"
  | missingMotors => "no motors given"
  | missingGains => "no PID gains given"
  | config problem => s!"configuration error: {problem.message}"
  | spawn reason => s!"failed to spawn the control loop thread: {reason}"

end Drivetrain
