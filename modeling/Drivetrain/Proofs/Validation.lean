/-
What an accepted configuration promises, and building from one.

Settings are checked twice: a configuration is checked as a whole when it is read, and a controller
checks its gearing, its scales and its period again when it is created.  The first check lets
nothing through that the second refuses, so a configuration that was accepted can be built from, on
every layout, and what is built has the settings that were configured.

An accepted configuration is usable but for one gap.  Voltage and velocity are refused when they are
zero or less, and what is not a number is neither; ratio and scales are refused unless they are
good, so nothing of the kind gets past them.

Main definitions:

* `Drivetrain.ScalesEntry.Means` — the scales that an entry spells out;
* `Drivetrain.Config.Accepted` — configurations that pass the check, or come from a file;
* `Drivetrain.Config.Usable` — what a configuration must be to drive by;
* `Drivetrain.Builder.Follows` — builders whose settings are those of a configuration;
* `Drivetrain.Pid.Tuned`, `Drivetrain.Session.Tuned` — loops that were given their settings, and
  sessions whose controller has those of a configuration.

Main results:

* `Drivetrain.Config.usable_iff` — **usable is what is accepted, with voltage and velocity that are
  numbers**;
* `Drivetrain.Builder.builds_as_configured` — **what is accepted can be built from**, and what is
  built is as configured.
-/

import Drivetrain.Builder
import Drivetrain.Config.Entries
import Drivetrain.Proofs.Commands
import Drivetrain.Proofs.Magnitude
import Drivetrain.Proofs.Posture
import Drivetrain.Proofs.Sessions

set_option relaxedAutoImplicit false
set_option autoImplicit false

namespace Drivetrain

/-! ### Scales as they are spelled out -/

section Scales

variable {α : Type} [Scalar α]

/-- **The scales that an entry spells out**: those that it gives, or those of wheels of a diameter,
the left and the right standing a wheelbase apart.  One turn of a wheel is 360 degrees and covers
its circumference. -/
inductive ScalesEntry.Means : ScalesEntry α → Scales α → Prop where
  | raw (straight turn : α) : Means (.raw straight turn) ⟨straight, turn⟩
  | dimensions (diameter wheelbase : α) :
      Means (.dimensions diameter wheelbase)
        ⟨Scalar.ofInt 360 / (diameter * Scalar.pi), wheelbase / diameter⟩

theorem ScalesEntry.means_iff {e : ScalesEntry α} {s : Scales α} :
    e.Means s ↔ e.toScales = s := by
  constructor
  · intro h
    cases h <;> rfl
  · rintro rfl
    cases e with
    | raw straight turn => exact .raw straight turn
    | dimensions diameter wheelbase => exact .dimensions diameter wheelbase

end Scales

namespace Config

/-! ### What the check finds -/

section Check

variable {α : Type} [Scalar α] {c : Config α}

/-- What is found wrong with a configuration, read as one condition: nothing is wrong exactly when
every part passes its check. -/
theorem problem?_eq_none_iff :
    c.problem? = none ↔
      (c.loopPeriod ≠ 0 ∧ (c.gearRatio == 0) = false ∧ Scalar.isFinite c.gearRatio = true) ∧
        ¬ c.maxVoltage ≤ 0 ∧ (∀ v, c.maxVelocity = some v → ¬ v ≤ 0) ∧
          c.scales.toScales.isValid = true := by
  unfold problem?
  cases hv : c.maxVelocity <;> grind

theorem checked_eq_ok_iff {c' : Config α} : c.checked = .ok c' ↔ c.problem? = none ∧ c = c' := by
  unfold checked
  cases c.problem? <;> simp

/-- A configuration that passes the check passes that of a controller. -/
theorem refusal?_of_problem? (h : c.problem? = none) :
    Controller.refusal? c.gearing c.scales.toScales = none ∧ 0 < c.period := by
  obtain ⟨⟨period, ratio, finite⟩, -, -, scales⟩ := problem?_eq_none_iff.1 h
  constructor
  · simp [Controller.refusal?, gearing, ratio, finite, scales]
  · exact Nat.mul_pos (Nat.pos_of_ne_zero period) (by decide)

end Check

/-! ### Usable configurations -/

/-- **Configurations that are accepted**: they pass the check, or a file that holds them does. -/
def Accepted (c : Config Float) : Prop := c.checked = .ok c ∨ ∃ text, ofText text = .ok c

/-- **What a configuration must be to drive by.** -/
structure Usable (c : Config Float) : Prop where
  period : 0 < c.period
  ratio_finite : c.gearRatio.isFinite = true
  ratio_ne_zero : (c.gearRatio == 0) = false
  scales : ∃ s : Scales Float, c.scales.Means s ∧
    (s.straight.isFinite = true ∧ 0 < s.straight) ∧ s.turn.isFinite = true ∧ 0 < s.turn
  voltage : 0 < c.maxVoltage
  velocity : 0 < c.velocity

/-- Being accepted is passing the check, wherever the configuration comes from. -/
theorem accepted_iff {c : Config Float} : c.Accepted ↔ c.problem? = none := by
  constructor
  · rintro (passed | ⟨text, read⟩)
    · exact (checked_eq_ok_iff.1 passed).1
    · unfold ofText at read
      split at read
      · cases read
      · obtain ⟨passed, rfl⟩ := checked_eq_ok_iff.1 read
        exact passed
  · exact fun passed => .inl (checked_eq_ok_iff.2 ⟨passed, rfl⟩)

/-- What is not zero or less is positive, or not a number. -/
theorem not_le_zero_iff {x : Float} : ¬ x ≤ 0 ↔ 0 < x ∨ x.isNaN = true := by
  cases h : x.isNaN with
  | false => rw [← Machine.not_lt rfl h, not_not]; simp
  | true =>
      refine iff_of_true (fun le => ?_) (.inr rfl)
      exact Bool.false_ne_true ((Machine.isNaN_of_le_left le).symm.trans h)

theorem isNaN_of_pos {x : Float} (h : 0 < x) : x.isNaN = false :=
  Machine.isNaN_of_le (Machine.le_of_lt h)

/-- The free speed of every cartridge is positive. -/
theorem freeSpeed_pos (g : Gearset) : (0 : Float) < g.freeSpeed := by
  cases g <;> decide +kernel

/-- Velocities that are given pass the check when that of full speed is positive or no number. -/
theorem velocities_iff {c : Config Float} :
    (∀ v, c.maxVelocity = some v → ¬ v ≤ 0) ↔ 0 < c.velocity ∨ c.velocity.isNaN = true := by
  rw [← not_le_zero_iff, velocity]
  cases c.maxVelocity with
  | none =>
      refine iff_of_true (fun v h => by cases h) ?_
      exact not_le_zero_iff.2 (.inl (freeSpeed_pos c.gearset))
  | some v => simp

/-- What is accepted, as conditions on the entries. -/
theorem accepted_iff_entries {c : Config Float} :
    c.Accepted ↔
      (c.loopPeriod ≠ 0 ∧ (c.gearRatio == 0) = false ∧ c.gearRatio.isFinite = true) ∧
        (0 < c.maxVoltage ∨ c.maxVoltage.isNaN = true) ∧
          (0 < c.velocity ∨ c.velocity.isNaN = true) ∧
            ∃ s : Scales Float, c.scales.Means s ∧
              (s.straight.isFinite = true ∧ 0 < s.straight) ∧
                s.turn.isFinite = true ∧ 0 < s.turn := by
  have scales : c.scales.toScales.isValid = true ↔
      ∃ s : Scales Float, c.scales.Means s ∧
        (s.straight.isFinite = true ∧ 0 < s.straight) ∧ s.turn.isFinite = true ∧ 0 < s.turn := by
    simp only [ScalesEntry.means_iff, exists_eq_left', Scales.isValid, Bool.and_eq_true,
      decide_eq_true_iff]
    rfl
  exact accepted_iff.trans (problem?_eq_none_iff.trans
    (and_congr Iff.rfl (and_congr not_le_zero_iff (and_congr velocities_iff scales))))

/-- **A configuration is usable exactly when it is accepted** and its voltage and velocity are
numbers. -/
theorem usable_iff (c : Config Float) :
    c.Usable ↔ c.Accepted ∧ c.maxVoltage.isNaN = false ∧ c.velocity.isNaN = false := by
  rw [accepted_iff_entries]
  constructor
  · intro h
    have period : c.loopPeriod ≠ 0 := by
      rintro zero
      exact absurd h.period (by rw [Config.period, zero]; decide)
    exact ⟨⟨⟨period, h.ratio_ne_zero, h.ratio_finite⟩, .inl h.voltage, .inl h.velocity, h.scales⟩,
      isNaN_of_pos h.voltage, isNaN_of_pos h.velocity⟩
  · rintro ⟨⟨⟨period, nonzero, finite⟩, voltage, velocity, scales⟩, noVoltage, noVelocity⟩
    exact
      { period := Nat.mul_pos (Nat.pos_of_ne_zero period) (by decide)
        ratio_finite := finite
        ratio_ne_zero := nonzero
        scales := scales
        voltage := voltage.resolve_right (ne_true_of_eq_false noVoltage)
        velocity := velocity.resolve_right (ne_true_of_eq_false noVelocity) }

theorem exists_of_read (text : String) {p : Config Float → Bool}
    (h : (ofText text).toOption.any p = true) : ∃ c, ofText text = .ok c ∧ p c = true := by
  cases read : ofText text with
  | error e => rw [read] at h; cases h
  | ok c => rw [read] at h; exact ⟨c, rfl, h⟩

/-- **Voltages and velocities that are not numbers are accepted**, from a file too, and are not
positive. -/
theorem accepts_isNaN :
    (∃ c, ofText "max_voltage = nan" = .ok c ∧ c.Accepted ∧ ¬ 0 < c.maxVoltage) ∧
      ∃ c, ofText "max_velocity = nan" = .ok c ∧ c.Accepted ∧ ¬ 0 < c.velocity := by
  constructor
  · obtain ⟨c, read, h⟩ := exists_of_read "max_voltage = nan"
      (p := fun c => !decide (0 < c.maxVoltage)) (by decide +kernel)
    exact ⟨c, read, .inr ⟨_, read⟩, by simpa using h⟩
  · obtain ⟨c, read, h⟩ := exists_of_read "max_velocity = nan"
      (p := fun c => !decide (0 < c.velocity)) (by decide +kernel)
    exact ⟨c, read, .inr ⟨_, read⟩, by simpa using h⟩

end Config

variable {α : Type} [Scalar α]

/-! ### Starting on nothing to do -/

namespace Session

/-- **Cycles that find nothing to do** leave controller, drive and read costs alone. -/
theorem runDue_of_idle (s : Session α) (instant : Nat) (idle : s.controller.idle = true) :
    (s.runDue instant).controller = s.controller ∧ (s.runDue instant).drive = s.drive ∧
      (s.runDue instant).isRunning = s.isRunning := by
  fun_induction runDue s instant with
  | case1 s hc => exact ⟨rfl, rfl, rfl⟩
  | case2 s pace hc hdue after ih =>
      have same : after = { s with now := max s.now pace.last } := if_pos idle
      rw [same] at ih
      obtain ⟨controller, drive, running⟩ := ih idle
      refine ⟨?_, ?_, ?_⟩
      · rw [same, controller]
      · rw [same, drive]
      · rw [same, running, isRunning, isRunning, hc]
        rfl
  | case3 s pace hc hdue => exact ⟨rfl, rfl, rfl⟩

/-- A cycle that starts with nothing to do only takes its baseline. -/
theorem start_of_idle {s : Session α} (off : s.cycle = none) (idle : s.controller.idle = true) :
    (∃ baseline, s.start.controller = s.controller.started baseline) ∧
      s.start.drive.full = s.drive.full ∧ s.start.isRunning = true := by
  simp only [start, off]
  obtain ⟨controller, drive, running⟩ := runDue_of_idle
    { (s.note (.loopStarted s.controller.period)).sense.2 with
      controller := s.controller.started (s.note (.loopStarted s.controller.period)).sense.1
      cycle := some (.startingAt (s.note (.loopStarted s.controller.period)).sense.2.now) }
    (s.note (.loopStarted s.controller.period)).sense.2.now idle
  refine ⟨⟨_, controller⟩, ?_, running⟩
  exact (congrArg Drive.full drive).trans (Drive.full_perform s.drive _ .sense)

end Session

/-! ### Building from a configuration -/

namespace Builder

/-- Whether a call gives hardware, and so no setting. -/
def Call.isHardware : Call α → Bool
  | .motors _ | .sensors _ => true
  | _ => false

/-- **Builders whose settings are those of a configuration**: it was given, and nothing but hardware
since. -/
inductive Follows (c : Config α) : Builder α → Prop where
  | config (b : Builder α) : Follows c (b.give (.config c))
  | hardware {b : Builder α} (h : Follows c b) {call : Call α} (hardware : call.isHardware = true) :
      Follows c (b.give call)

/-- Hardware changes no setting. -/
theorem Follows.eq {c : Config α} {b : Builder α} (h : b.Follows c) :
    b.giveConfig c = b := by
  induction h with
  | config b => rfl
  | @hardware b h call hardware ih =>
      cases call with
      | motors m => exact congrArg (fun b : Builder α => { b with motors := some m }) ih
      | sensors s => exact congrArg (fun b : Builder α => { b with sensors := some s }) ih
      | _ => cases hardware

end Builder

/-- **Loops that were given gains, settle tolerances and a sample time**, and never stepped. -/
structure Pid.Tuned (p : Pid α) (gains : Gains α) (settle : SettleSettings α) (sampleTime : Nat) :
    Prop where
  unstepped : p = .new gains settle sampleTime
  gains : p.gains = gains
  settle : p.settling.settings = settle
  sampleTime : p.sampleTime = sampleTime

theorem Pid.tuned_new (gains : Gains α) (settle : SettleSettings α) (sampleTime : Nat) :
    (new gains settle sampleTime).Tuned gains settle sampleTime :=
  ⟨rfl, rfl, rfl, rfl⟩

/-- **Sessions whose controller has the settings of a configuration**, and a cycle that runs. -/
structure Session.Tuned (s : Session α) (c : Config α) : Prop where
  gearing : s.controller.gearing = ⟨c.gearset, c.gearRatio⟩
  scales : c.scales.Means s.controller.scales
  /-- A millisecond is a million nanoseconds. -/
  period : s.controller.period = c.loopPeriod * 1000000
  velocity : s.drive.full.velocity = c.maxVelocity.getD c.gearset.freeSpeed
  voltage : s.drive.full.voltage = c.maxVoltage
  distance : ∃ p, s.controller.distance = .position p ∧
    p.Tuned c.distanceGains c.settle (c.loopPeriod * 1000000)
  turn : ∃ p, s.controller.turn = .position p ∧
    p.Tuned c.turnGains c.settle (c.loopPeriod * 1000000)
  angle : ∃ p, s.controller.angle = .position p ∧
    p.Tuned (c.angleGains.getD c.turnGains) c.settle (c.loopPeriod * 1000000)
  moveThreshold : s.controller.moveThreshold = ⟨Scalar.abs c.moveThreshold⟩
  turnThreshold : s.controller.turnThreshold = ⟨Scalar.abs c.turnThreshold⟩
  running : s.isRunning = true

namespace Controller

variable {distance turn angle : Loop α} {gearing : Gearing α} {scales : Scales α} {period : Nat}

theorem exists_create (accepted : refusal? gearing scales = none) (positive : 0 < period) :
    ∃ k, create distance turn angle gearing scales period = .ok k := by
  rw [create, accepted]
  exact ⟨_, dif_pos positive⟩

/-- A controller is created from what was given. -/
theorem settings_of_create {k : Controller α}
    (h : create distance turn angle gearing scales period = .ok k) :
    (k.gearing = gearing ∧ k.scales = scales ∧ k.period = period) ∧
      k.distance = distance ∧ k.turn = turn ∧ k.angle = angle := by
  obtain ⟨-, positive, rfl⟩ := eq_of_create h
  exact ⟨⟨rfl, rfl, rfl⟩, rfl, rfl, rfl⟩

end Controller

namespace Builder

open Undertaking (outcome_bind outcome_demand)

theorem build_of_missing {b : Builder α} {c : Config α} (h : b.motors = none) :
    (b.giveConfig c).build = .error .missingMotors := by
  have gains : (b.giveConfig c).neededGains = .ok (c.distanceGains, c.turnGains) := rfl
  have motors : (b.giveConfig c).neededMotors = .error .missingMotors := by
    simp only [neededMotors, giveConfig, h]
  simp only [build, undertake, outcome_bind, outcome_demand, gains, motors]

theorem controller_of_create {b : Builder α} {d g : Gains α} {k : Controller α}
    (h : Controller.create (b.loop d) (b.loop g) (b.loop (b.angleGains.getD g)) b.gearing b.scales
      b.period = .ok k) :
    b.controller d g = .ok ((k.request (.setMoveThreshold b.moveThreshold)).request
      (.setTurnThreshold b.turnThreshold)) := by
  rw [controller, h]
  rfl

/-- The session of a controller that was just built, before its cycle starts. -/
def opening (b : Builder α) (motors : Wheels (Motor α)) (k : Controller α) : Session α :=
  let session := Session.begin ((k.request (.setMoveThreshold b.moveThreshold)).request
    (.setTurnThreshold b.turnThreshold)) (b.drive motors) []
  { session with journal := session.journal ++ b.announce }

/-- **What is built of a controller that was created**, and what is done for it. -/
theorem undertake_of_create {b : Builder α} {d g : Gains α} {m : Wheels (Motor α)}
    {k : Controller α} (gains : b.neededGains = .ok (d, g)) (motors : b.neededMotors = .ok m)
    (created : Controller.create (b.loop d) (b.loop g) (b.loop (b.angleGains.getD g)) b.gearing
      b.scales b.period = .ok k) :
    b.undertake.outcome .none =
      (.ok (b.opening m k).start, ⟨Drive.settings k.gearing.gearset ++ [(0, .sense)], true⟩) := by
  simp only [undertake, outcome_bind, outcome_demand, gains, motors, controller_of_create created,
    Session.outcome_commission]
  rfl

/-- A configuration that passes the check is built from, on given motors. -/
theorem exists_build {c : Config α} {b : Builder α} (passed : c.problem? = none)
    {m : Wheels (Motor α)} (given : b.motors = some m) :
    ∃ s, (b.giveConfig c).build = .ok s ∧ s.Tuned c := by
  obtain ⟨accepted, positive⟩ := Config.refusal?_of_problem? passed
  let b' := b.giveConfig c
  obtain ⟨k, created⟩ : ∃ k, Controller.create (b'.loop c.distanceGains) (b'.loop c.turnGains)
      (b'.loop c.angle) b'.gearing b'.scales b'.period = .ok k :=
    Controller.exists_create accepted positive
  have motors : b'.neededMotors = .ok m := by simp only [neededMotors, b', giveConfig, given]
  refine ⟨_, congrArg Prod.fst (undertake_of_create rfl motors created), ?_⟩
  -- the controller starts its cycle as it was created, but for the baseline
  obtain ⟨⟨baseline, controller⟩, full, running⟩ := Session.start_of_idle (s := b'.opening m k) rfl
    (Controller.of_create created).idle
  obtain ⟨⟨gearing, scales, period⟩, distance, turn, angle⟩ := Controller.settings_of_create created
  exact
    { gearing := by rw [controller]; exact gearing
      scales := by rw [controller]; exact ScalesEntry.means_iff.2 scales.symm
      period := by rw [controller]; exact period
      velocity := by rw [full]; rfl
      voltage := by rw [full]; rfl
      distance := ⟨_, by rw [controller]; exact distance, Pid.tuned_new ..⟩
      turn := ⟨_, by rw [controller]; exact turn, Pid.tuned_new ..⟩
      angle := ⟨_, by rw [controller]; exact angle, Pid.tuned_new ..⟩
      moveThreshold := by rw [controller]; rfl
      turnThreshold := by rw [controller]; rfl
      running := running }

/-- **What is accepted can be built from**: on whatever motors and sensors, a controller is built
that has the settings of the configuration.  What cannot be built, for any reason but the lack of
motors, is from a configuration that the check refuses. -/
theorem builds_as_configured {c : Config α} {b : Builder α} (follows : b.Follows c) :
    (c.checked = .ok c → b.motors.isSome = true → ∃ s, b.build = .ok s ∧ s.Tuned c) ∧
      ∀ e, b.build = .error e → e ≠ .missingMotors → ∃ e', c.checked = .error e' := by
  rw [← follows.eq]
  constructor
  · intro checked motors
    obtain ⟨m, given⟩ := Option.isSome_iff_exists.1 motors
    exact exists_build (Config.checked_eq_ok_iff.1 checked).1 given
  · intro e failed present
    cases problem : c.problem? with
    | some e' => exact ⟨e', by rw [Config.checked, problem]⟩
    | none =>
        cases given : b.motors with
        | none =>
            have missing := (build_of_missing given).symm.trans failed
            exact absurd (Except.error.inj missing).symm present
        | some m =>
            obtain ⟨s, built, -⟩ := exists_build problem given
            cases built.symm.trans failed

/-- A configuration that leaves little as it is by default. -/
def geared : Config Float :=
  { Config.standard with
    loopPeriod := 5
    gearset := .blue
    gearRatio := 2
    maxVelocity := some 480
    scales := .dimensions 0.1 0.3
    moveThreshold := -0.02
    turnThreshold := 1.5 }

/-- A builder that was given it, and hardware before and after: a motor on each corner, and sensors
of their own. -/
def cornered : Builder Float :=
  ((new.give (.motors (.corners (.bench .new) (.bench .new) (.bench .new) (.bench .new)))).give
    (.config geared)).give (.sensors ⟨0, 0⟩)

theorem builds_as_configured_of_cornered :
    cornered.Follows geared ∧ geared.checked = .ok geared ∧
      ∃ s, cornered.build = .ok s ∧ s.Tuned geared ∧
        s.controller.scales = ⟨1145.9155902616465, 2.9999999999999996⟩ ∧
          s.controller.period = 5000000 := by
  have follows : cornered.Follows geared := .hardware (.config _) rfl
  have checked : geared.checked = .ok geared :=
    Config.checked_eq_ok_iff.2 ⟨Option.isNone_iff_eq_none.1 (by decide +kernel), rfl⟩
  obtain ⟨s, built, tuned⟩ := (builds_as_configured follows).1 checked rfl
  -- 360 by the circumference, and three tenths of a meter by one
  have scales : s.controller.scales = ⟨360 / (0.1 * Scalar.pi), 0.3 / 0.1⟩ :=
    (ScalesEntry.means_iff.1 tuned.scales).symm
  exact ⟨follows, checked, s, built, tuned, scales, tuned.period⟩

end Builder

end Drivetrain
