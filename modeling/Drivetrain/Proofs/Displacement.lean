/-
How far the chassis has come when its errors are zero.

Three pieces have to agree on how a motion is measured: the scales, which turn meters and degrees
into encoder degrees; the target of a motion; and the readings that a cycle gives to the loops.  On
a straight move they do: when both errors are zero, the chassis has driven the distance it was asked
for, both sides alike.

On a turn they do not.  The scale is that of **one** wheel, which runs along a circle of half the
wheelbase while its opposite runs the other way; the reading is the **difference** of both.  So the
error is zero when each wheel has done half of its way, and the chassis has turned by half of the
angle it was asked for.

Main definitions:

* `Drivetrain.Geometry` — wheel diameter, wheelbase and gears of a chassis;
* `Drivetrain.Geometry.advance`, `Drivetrain.Geometry.rotation` — how far a chassis has driven, and
  how far it has turned, by the travel of its encoders.

Main results:

* `Drivetrain.Geometry.advance_iff`, `Drivetrain.Geometry.rotation_iff` — what the targets of a move
  and of a turn come to on the ground;
* `Drivetrain.Shared.displaced_iff_settled` — **errors of zero mean the distance asked for, but half
  of the angle**;
* `Drivetrain.Shared.turned_half_way` — a run that shows it.
-/

import Mathlib
import Drivetrain.Proofs.Baseline
import Drivetrain.Proofs.Exact

set_option relaxedAutoImplicit false
set_option autoImplicit false

namespace Drivetrain

open Controller (Samples travel turnSign)
open Scalar (ofInt)

/-! ### Geometry -/

/-- **The geometry of a chassis**, in meters. -/
structure Geometry where
  diameter : ℝ
  wheelbase : ℝ
  /-- Motor degrees per wheel degree. -/
  ratio : ℝ
  diameter_pos : 0 < diameter
  wheelbase_pos : 0 < wheelbase
  ratio_ne : ratio ≠ 0

namespace Geometry

variable (g : Geometry)

/-- The scales of the chassis. -/
noncomputable def scales : Scales ℝ := .ofWheels ⟨g.diameter⟩ ⟨g.wheelbase⟩

/-- The way that a wheel has run, in meters, for an angle of its motor in degrees. -/
noncomputable def run (degrees : ℝ) : ℝ := degrees / g.ratio * Real.pi * g.diameter / 360

/-- **How far the chassis has driven**, in meters: the mean way of both sides. -/
noncomputable def advance (moved : Sides ℝ) : ℝ := (g.run moved.left + g.run moved.right) / 2

/-- **How far the chassis has turned**, in degrees: the difference of both sides, as an angle at the
wheelbase. -/
noncomputable def rotation (moved : Sides ℝ) : ℝ :=
  (g.run moved.left - g.run moved.right) / g.wheelbase * 180 / Real.pi

theorem run_eq_iff (l r : ℝ) : g.run l = g.run r ↔ l - r = 0 := by
  have d := g.diameter_pos.ne'
  have ratio := g.ratio_ne
  have pi := Real.pi_ne_zero
  rw [run, run]
  field_simp
  exact sub_eq_zero.symm

/-- The target of a move, reached in the mean, is the distance on the ground. -/
theorem advance_iff (x : ℝ) (moved : Sides ℝ) :
    x * g.scales.straight * g.ratio - (moved.left + moved.right) / 2 = 0 ↔
      g.advance moved = x := by
  have d := g.diameter_pos.ne'
  have ratio := g.ratio_ne
  have pi := Real.pi_ne_zero
  have straight : g.scales.straight = 360 / (g.diameter * Real.pi) := by
    simp [scales, Scales.ofWheels]
  rw [straight, advance, run, run]
  field_simp
  constructor <;> intro h <;> linarith

/-- The target of a turn, reached in the difference, is half of the angle on the ground. -/
theorem rotation_iff (a sign : ℝ) (moved : Sides ℝ) :
    a * g.scales.turn * g.ratio * sign - (moved.left - moved.right) = 0 ↔
      g.rotation moved = sign * a / 2 := by
  have d := g.diameter_pos.ne'
  have w := g.wheelbase_pos.ne'
  have ratio := g.ratio_ne
  have pi := Real.pi_ne_zero
  have turn : g.scales.turn = g.wheelbase / g.diameter := rfl
  rw [turn, rotation, run, run]
  field_simp
  constructor <;> intro h <;> linarith

end Geometry

/-! ### Errors of a cycle -/

section Errors

variable {α : Type} [Scalar α]

theorem Loop.error_step {l : Loop α} (real : l.settle?.isSome) (on : l.isDisabled = false)
    (reading : α) (now : Nat) : (l.step reading now).1.error = l.target - reading := by
  cases l with
  | scripted s => cases real
  | position p =>
      have on : p.disabled = false := on
      simp only [step, error, target, Pid.step, on]
      split
      · contradiction
      · split
        · rfl
        · split <;> rfl

namespace Controller

variable {c : Controller α}

/-- A cycle on a move leaves the error of the mean travel, and that of the difference. -/
theorem errors_cycle_of_distance (real : c.Positional) (mode : c.mode = .distance)
    (distance : c.distance.isDisabled = false) (angle : c.angle.isDisabled = false)
    (samples : Samples) (now : Nat) :
    (c.cycle samples now).1.distance.error =
        c.distance.target - ((c.moved samples).left + (c.moved samples).right) / ofInt 2 ∧
      (c.cycle samples now).1.angle.error =
        c.angle.target - ((c.moved samples).left - (c.moved samples).right) := by
  rw [cycle_of_distance mode]
  exact ⟨Loop.error_step (real .distance) distance .., Loop.error_step (real .angle) angle ..⟩

/-- A cycle on a turn leaves the error of the difference. -/
theorem error_cycle_of_angle (real : c.Positional) (mode : c.mode = .angle)
    (turn : c.turn.isDisabled = false) (samples : Samples) (now : Nat) :
    (c.cycle samples now).1.turn.error =
      c.turn.target - ((c.moved samples).left - (c.moved samples).right) := by
  rw [cycle_of_angle mode]
  exact Loop.error_step (real .turn) turn ..

end Controller

end Errors

namespace Shared

section Errors

variable {s₀ : Shared ℝ} {g : Geometry} {past : List (Event ℝ)} {samples : Samples}

/-- After a cycle on a move both errors are zero exactly when the chassis has driven the distance,
both sides alike. -/
theorem move_errors_iff (opened : s₀.Opened) (scales : s₀.controller.scales = g.scales)
    (ratio : s₀.controller.gearing.ratio = g.ratio) (real : s₀.controller.Positional)
    (possible : Possible s₀ past) {x : Length ℝ}
    (moving : course s₀.controller past = .move x false) :
    let c := ((replay s₀ past).after (.work samples)).controller
    c.distance.error = 0 ∧ c.angle.error = 0 ↔
      g.advance (movedBy past samples) = x.meters ∧
        g.run (movedBy past samples).left = g.run (movedBy past samples).right := by
  obtain ⟨mode, distance, angle, -⟩ := moving ▸ (possible.tracks opened).fits
  replace mode : (replay s₀ past).controller.mode = .distance := mode
  have target : (replay s₀ past).controller.distance.target =
      x.meters * g.scales.straight * g.ratio := by
    rw [← scales, ← ratio]
    exact congrArg Loop.Setting.target distance
  have level : (replay s₀ past).controller.angle.target = 0 := congrArg Loop.Setting.target angle
  obtain ⟨forward, yaw⟩ := Controller.errors_cycle_of_distance
    ((wired_replay possible).positional real) mode (congrArg Loop.Setting.disabled distance)
    (congrArg Loop.Setting.disabled angle) samples (replay s₀ past).now
  intro c
  have worked : c = _ := (replay s₀ past).controller_after_work samples
  rw [worked, forward, yaw, moved_eq_movedBy opened possible (by simp [mode]), target, level,
    zero_sub, neg_eq_zero, g.run_eq_iff]
  exact and_congr_left' (g.advance_iff x.meters _)

/-- After a cycle on a turn the error is zero exactly when the chassis has turned by half of the
angle. -/
theorem turn_error_iff (opened : s₀.Opened) (scales : s₀.controller.scales = g.scales)
    (ratio : s₀.controller.gearing.ratio = g.ratio) (real : s₀.controller.Positional)
    (possible : Possible s₀ past) {a : Angle ℝ} {mirrored : Bool}
    (turning : course s₀.controller past = .turn a mirrored false) :
    ((replay s₀ past).after (.work samples)).controller.turn.error = 0 ↔
      g.rotation (movedBy past samples) = turnSign mirrored * a.degrees / 2 := by
  obtain ⟨mode, turn, -⟩ := turning ▸ (possible.tracks opened).fits
  replace mode : (replay s₀ past).controller.mode = .angle := mode
  have target : (replay s₀ past).controller.turn.target =
      a.degrees * g.scales.turn * g.ratio * turnSign mirrored := by
    rw [← scales, ← ratio]
    exact congrArg Loop.Setting.target turn
  have around := Controller.error_cycle_of_angle ((wired_replay possible).positional real) mode
    (congrArg Loop.Setting.disabled turn) samples (replay s₀ past).now
  rw [controller_after_work, around, moved_eq_movedBy opened possible (by simp [mode]), target]
  exact g.rotation_iff a.degrees (turnSign mirrored) _

end Errors

/-! ### The theorem -/

/-- **Errors of zero mean the distance asked for, but half of the angle.**  After a cycle on a move
that was not stopped, both errors are zero exactly when the chassis has driven, since the first
cycle of the move, the distance it was asked for, both sides alike.  After a cycle on a turn that
was not stopped, the error is zero exactly when the chassis has turned by half of the angle. -/
theorem displaced_iff_settled {s₀ : Shared ℝ} (opened : s₀.Opened) (g : Geometry)
    (scales : s₀.controller.scales = g.scales) (ratio : s₀.controller.gearing.ratio = g.ratio)
    (real : s₀.controller.Positional) {past : List (Event ℝ)} {samples : Samples}
    (possible : Possible s₀ (.work samples :: past)) :
    let c := (replay s₀ (.work samples :: past)).controller
    (∀ x, course s₀.controller past = .move x false →
        (c.distance.error = 0 ∧ c.angle.error = 0 ↔
          g.advance (movedBy past samples) = x.meters ∧
            g.run (movedBy past samples).left = g.run (movedBy past samples).right)) ∧
      ∀ a mirrored, course s₀.controller past = .turn a mirrored false →
        (c.turn.error = 0 ↔
          g.rotation (movedBy past samples) =
            (if mirrored then -1 else 1) * a.degrees / 2) := by
  refine ⟨fun x moving => ?_, fun a mirrored turning => ?_⟩
  · exact move_errors_iff opened scales ratio real possible.1 moving
  · exact turn_error_iff opened scales ratio real possible.1 turning

/-- A chassis with wheels of one meter, two meters apart. -/
noncomputable def wide : Geometry := ⟨1, 2, 1, one_pos, two_pos, one_ne_zero⟩

/-- A controller for it whose loops drive nothing. -/
noncomputable def surveyed : Shared ℝ :=
  let passive : Loop ℝ := .position (.new ⟨0, 0, 0, 0⟩ .standard 10000000)
  ideal passive passive passive (.direct .green) wide.scales ⟨10000000, tenMilliseconds_pos⟩
    ⟨.pair (.bench .new) (.bench .new), .builtIn, ⟨200, battery⟩⟩

theorem opened_surveyed : surveyed.Opened := by
  refine opened_ideal one_ne_zero ?_ ?_ ..
  · have := Real.pi_pos
    simp only [wide, Geometry.scales, Scales.ofWheels, Scalar.ofInt_real, Scalar.pi_real]
    positivity
  · simp only [wide, Geometry.scales, Scales.ofWheels]
    norm_num

theorem positional_surveyed : surveyed.controller.Positional := by
  intro slot
  cases slot <;> rfl

/-- Both wheels have run one full turn, as a move of one circumference asks for. -/
theorem displaced_iff_settled_of_surveyed :
    let c := (replay surveyed
      (.work ⟨⟨0, 0⟩, ⟨360, 360⟩⟩ :: setOut (.move ⟨Real.pi⟩) ⟨0, 0⟩)).controller
    c.distance.error = 0 ∧ c.angle.error = 0 := by
  have possible := possible_setOut opened_surveyed (Controller.motion?_move rfl ⟨Real.pi⟩) ⟨0, 0⟩
    ⟨⟨0, 0⟩, ⟨360, 360⟩⟩
  have moved : movedBy (setOut (.move ⟨Real.pi⟩) ⟨0, 0⟩) ⟨⟨0, 0⟩, ⟨360, 360⟩⟩ =
      (⟨360, 360⟩ : Sides ℝ) := by
    simp [movedBy, setOut, origin, travel]
  obtain ⟨move, -⟩ :=
    displaced_iff_settled opened_surveyed wide rfl rfl positional_surveyed possible
  refine (move ⟨Real.pi⟩ rfl).2 ⟨?_, ?_⟩
  · rw [moved]
    simp only [Geometry.advance, Geometry.run, wide]
    ring
  · rw [moved]

/-- **A turn of ninety degrees with no error left has turned the chassis by half of that**: each
wheel has run a quarter turn, though it takes half a turn of each to bring the chassis around. -/
theorem turned_half_way :
    Possible surveyed (.work ⟨⟨0, 0⟩, ⟨90, -90⟩⟩ :: setOut (.turn ⟨90⟩) ⟨0, 0⟩) ∧
      course surveyed.controller (setOut (.turn ⟨90⟩) ⟨0, 0⟩) = .turn ⟨90⟩ false false ∧
      (replay surveyed
        (.work ⟨⟨0, 0⟩, ⟨90, -90⟩⟩ :: setOut (.turn ⟨90⟩) ⟨0, 0⟩)).controller.turn.error = 0 ∧
      wide.rotation (movedBy (setOut (.turn ⟨90⟩) ⟨0, 0⟩) ⟨⟨0, 0⟩, ⟨90, -90⟩⟩) = 45 := by
  have possible := possible_setOut opened_surveyed (Controller.motion?_turn rfl ⟨90⟩) ⟨0, 0⟩
    ⟨⟨0, 0⟩, ⟨90, -90⟩⟩
  have moved : movedBy (setOut (.turn ⟨90⟩) ⟨0, 0⟩) ⟨⟨0, 0⟩, ⟨90, -90⟩⟩ =
      (⟨90, -90⟩ : Sides ℝ) := by
    simp [movedBy, setOut, origin, travel]
  have turned : wide.rotation (movedBy (setOut (.turn ⟨90⟩) ⟨0, 0⟩) ⟨⟨0, 0⟩, ⟨90, -90⟩⟩) = 45 := by
    have pi := Real.pi_ne_zero
    rw [moved]
    simp only [Geometry.rotation, Geometry.run, wide]
    field_simp
    norm_num
  have turning : course surveyed.controller (setOut (.turn ⟨90⟩) ⟨0, 0⟩) = .turn ⟨90⟩ false false :=
    rfl
  refine ⟨possible, turning, ?_, turned⟩
  refine (turn_error_iff (g := wide) opened_surveyed rfl rfl positional_surveyed possible.1
    turning).2 ?_
  rw [turned]
  norm_num [turnSign]

end Shared

end Drivetrain
