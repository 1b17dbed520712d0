/-
The drive: motors on their wheels, the sensors that watch them, and the maxima of full speed.

* `Drivetrain.Drive` — the state of the whole drive;
* `Drivetrain.Drive.steer` — the drive after a maneuver: each motor obeys its own order;
* `Drivetrain.Drive.sense` — the whole-degree readings of both sides;
* `Drivetrain.Drive.Action`, `Drivetrain.Drive.perform` — everything that can be done to a drive;
* `Drivetrain.Drive.performAll` — the drive after a series of actions.
-/

import Drivetrain.Drive.Maneuver
import Drivetrain.Motor

set_option relaxedAutoImplicit false
set_option autoImplicit false

namespace Drivetrain

/-- The sensors that watch the sides. -/
inductive Sensing (α : Type) where
  /-- The encoders inside the two front motors. -/
  | builtIn
  /-- A sensor of its own on each side, standing where it was last placed. -/
  | external (positions : Sides α)
  deriving Repr

/-- What the sensors of both sides read, in whole units. -/
abbrev Readings := Sides Int32

/-- **Motors on their wheels**, the sensors that watch them, and the maxima of full speed. -/
structure Drive (α : Type) where
  motors : Wheels (Motor α)
  sensing : Sensing α
  full : Maxima α
  deriving Repr

namespace Drive

variable {α : Type} [Scalar α]

/-- **The drive after a maneuver.**  A motor without an order of its own goes on as before. -/
def steer (d : Drive α) (now : Nat) (m : Maneuver α) : Drive α :=
  { d with
    motors := d.motors.map fun wheel motor =>
      match m.order? d.full wheel with
      | some order => motor.obey now order
      | none => motor }

/-- Every motor configured alike. -/
def configure (d : Drive α) (now : Nat) (s : MotorSetting α) : Drive α :=
  { d with motors := d.motors.map fun _ motor => motor.configure now s }

/-- A position in whole units, held inside thirty-two bits. -/
def wholeReading (x : α) : Int32 := Int32.ofIntClamp (Scalar.truncate x)

/-- **The readings of both sides**, and the drive after them. -/
def sense (d : Drive α) (now : Nat) : Readings × Drive α :=
  match d.sensing with
  | .external positions => (positions.map wholeReading, d)
  | .builtIn =>
      let taken := d.motors.leads.map (Motor.read now)
      (taken.map (wholeReading ·.1), { d with motors := d.motors.setLeads (taken.map (·.2)) })

/-- The drive with its sensors at zero. -/
def resetSensors (d : Drive α) (now : Nat) : Drive α :=
  match d.sensing with
  | .external _ => { d with sensing := .external ⟨0, 0⟩ }
  | .builtIn => { d with motors := d.motors.setLeads (d.motors.leads.map (Motor.reset now)) }

/-- A sensor placed by hand.  The encoders inside motors are placed with their motors. -/
def placeSensor (d : Drive α) (side : Side) (x : α) : Drive α :=
  match d.sensing with
  | .external positions => { d with sensing := .external (positions.modify (fun _ => x) side) }
  | .builtIn => d

/-- A velocity given to one side's motor past the maneuvers, where a side has one motor. -/
def direct (d : Drive α) (now : Nat) (side : Side) (v : Int16) : Drive α :=
  match d.motors with
  | .pair l r =>
      let s := Sides.modify ⟨l, r⟩ (Motor.obey now (.velocity v)) side
      { d with motors := .pair s.left s.right }
  | .corners .. => d

/-- Everything that can be done to a drive. -/
inductive Action (α : Type) where
  | steer (maneuver : Maneuver α)
  | configure (setting : MotorSetting α)
  | resetSensors
  /-- A velocity for one side's motor alone. -/
  | direct (side : Side) (velocity : Int16)
  /-- A motor's encoder placed by hand. -/
  | placeEncoder (motor : Nat) (position : α)
  /-- A side's sensor placed by hand. -/
  | placeSensor (side : Side) (position : α)
  | sense
  deriving Repr

/-- **The drive after an action.** -/
def perform (d : Drive α) (now : Nat) : Action α → Drive α
  | .steer m => d.steer now m
  | .configure s => d.configure now s
  | .resetSensors => d.resetSensors now
  | .direct side v => d.direct now side v
  | .placeEncoder i x => { d with motors := d.motors.modifyNth i (Motor.place x) }
  | .placeSensor side x => d.placeSensor side x
  | .sense => (d.sense now).2

/-- **The drive after a series of actions**, each at its instant. -/
def performAll (d : Drive α) : List (Nat × Action α) → Drive α
  | [] => d
  | (now, a) :: later => (d.perform now a).performAll later

/-- What gives every motor a cartridge, and lets it count in degrees. -/
def settings (g : Gearset) : List (Nat × Action α) :=
  [(0, .configure (.gearset g)), (0, .configure (.encoderUnits .degrees))]

end Drive

end Drivetrain
