/-
One cycle of a straight move whose distance loop is proportional and nothing else.

The loop answers with its share of the error, the angle loop with nothing, so both sides are asked
for the same.  With a gentle gain a motor makes up for the error in a period at most, never for
more.  Positions are read without their fractions, and dropping them lengthens a way by less than
one: so the error never passes its target by a whole degree.

Main definitions:

* `Drivetrain.SimulatedMotor.toward` — how fast a motor turns for an error;
* `Drivetrain.Controller.Tuned`, `Drivetrain.Controller.Homes` — the loops of this module, and
  whether they are on their way straight ahead.

Main results:

* `Drivetrain.approach` — what a gentle move does to an error that is read without fractions;
* `Drivetrain.SimulatedMotor.toward_gentle` — in a period a motor makes up for the error at most;
* `Drivetrain.Shared.homes_after_of_quiet`, `Drivetrain.Shared.homes_after_work` — **what a step
  keeps of a straight move, and what a cycle does to it**.
-/

import Drivetrain.Proofs.Memory
import Drivetrain.Proofs.Rolling

set_option relaxedAutoImplicit false
set_option autoImplicit false

namespace Drivetrain

open Controller (Samples travel)
open Scalar (ofInt truncate)

/-! ### The approach -/

/-- **What a gentle move does to an error that is read without fractions.**  The move goes no
further than the error, in its direction.  Then the new error is above minus one and at most the
target, and no larger than the old one unless that was negative. -/
theorem approach {target start before after : ℝ} (ahead : 0 ≤ target) {e : ℝ}
    (error : e = target - (truncate before - truncate start)) (low : -1 < e) (high : e ≤ target)
    (forward : 0 ≤ e → 0 ≤ after - before ∧ after - before ≤ e)
    (back : e ≤ 0 → e ≤ after - before ∧ after - before ≤ 0) :
    -1 < target - (truncate after - truncate start) ∧
      target - (truncate after - truncate start) ≤ target ∧
      (0 ≤ e → target - (truncate after - truncate start) ≤ e) := by
  rcases le_or_gt 0 e with he | he
  · -- on the way to the target the position grows, and by less than the error and one
    obtain ⟨on, no_further⟩ := forward he
    have grows : (truncate before : ℝ) ≤ truncate after :=
      Int.cast_le.2 (Scalar.truncate_mono (sub_nonneg.1 on))
    have short := Scalar.truncate_sub_lt (sub_nonneg.1 on)
    exact ⟨by linarith, by linarith, fun _ => by linarith⟩
  · -- past the target it shrinks by one at most, and it was past by one at least
    obtain ⟨no_further, on⟩ := back he.le
    have shrinks : (truncate after : ℝ) ≤ truncate before :=
      Int.cast_le.2 (Scalar.truncate_mono (sub_nonpos.1 on))
    have short := Scalar.truncate_sub_lt (sub_nonpos.1 on)
    have past : 1 ≤ truncate before - truncate start := by
      have positive : (0 : ℝ) < ((truncate before - truncate start : ℤ) : ℝ) := by
        push_cast
        linarith
      exact_mod_cast positive
    have one : truncate before - truncate after ≤ 1 := by
      have less : ((truncate before - truncate after : ℤ) : ℝ) < 2 := by
        push_cast
        linarith
      have less : truncate before - truncate after < 2 := by exact_mod_cast less
      omega
    have still : (0 : ℝ) ≤ ((truncate after - truncate start : ℤ) : ℝ) := by
      exact_mod_cast (by omega : 0 ≤ truncate after - truncate start)
    push_cast at still
    exact ⟨by linarith, by linarith, fun h => absurd he (not_lt.2 h)⟩

/-! ### Loops -/

namespace Pid

open Mixing (clampUnit)

/-- One step of a loop with the limits that it was made with. -/
theorem step_unit {p : Pid ℝ} (on : p.disabled = false) (output : p.outputLimits = .unit)
    (integral : p.integralLimits = .unit) (x : ℝ) (now : Nat) :
    let e := p.target - x
    let gathered := clampUnit (p.gather e (p.elapsed now))
    p.step x now =
      ({ p with
          error := e
          lastError := e
          lastReading := some x
          integral := gathered
          output := clampUnit (p.drive e gathered (p.slope x (p.elapsed now)))
          steppedAt := some now },
        some (clampUnit (p.drive e gathered (p.slope x (p.elapsed now))))) := by
  have unit : (Range.unit : Range ℝ).lo ≤ Range.unit.hi := by
    simp only [Range.unit]
    norm_num
  have bounds : ∀ y : ℝ, (Range.unit : Range ℝ).clamp? y = some (clampUnit y) :=
    fun y => if_pos unit
  simp only [step, on, output, integral, bounds, Bool.false_eq_true, if_false]

end Pid

namespace Loop

open Mixing (clampUnit)

/-- The make of a loop with gains and the limits of a new one. -/
def Make.OfGains {α : Type} [Scalar α] (m : Make α) (gains : Gains α) : Prop :=
  m.gains = gains ∧ m.outputLimits = .unit ∧ m.integralLimits = .unit

theorem clampUnit_zero : clampUnit (0 : ℝ) = 0 := by
  rw [Mixing.clampUnit_real]
  norm_num

/-- A step of a position loop that remembers no integral and gathers none. -/
theorem step_of_make {l : Loop ℝ} {make : Make ℝ} {gains : Gains ℝ} {last : Option ℝ}
    (hm : l.make? = some make) (made : make.OfGains gains) (on : l.isDisabled = false)
    (hl : l.memory = some (0, last)) (x : ℝ) (now : Nat)
    (still : gains.ki * (l.target - x) = 0) :
    ∃ slope, (slope = 0 ∨ ∃ y, last = some y ∧ y ≠ x) ∧
      (l.step x now).2 =
        clampUnit (gains.kp * (l.target - x) - gains.kd * slope + gains.kbias) ∧
      (l.step x now).1.error = l.target - x ∧ (l.step x now).1.memory = some (0, some x) := by
  cases l with
  | scripted s => cases hm
  | position p =>
      cases hm
      obtain ⟨rfl, output, limits⟩ := made
      obtain ⟨integral, rfl⟩ := Prod.mk.inj (Option.some.inj hl)
      have gathered : clampUnit (p.gather (p.target - x) (p.elapsed now)) = 0 := by
        have still : p.gains.ki * (p.target - x) = 0 := still
        simp only [Pid.gather, integral, still, zero_mul, ite_self, add_zero]
        exact clampUnit_zero
      refine ⟨p.slope x (p.elapsed now), ?_, ?_, ?_, ?_⟩
      · -- the slope is that from another reading, if there is one
        unfold Pid.slope
        cases hr : p.lastReading with
        | none => exact .inl rfl
        | some y =>
            by_cases same : y = x
            · exact .inl (by simp [same])
            · exact .inr ⟨y, rfl, same⟩
      all_goals
        simp only [step, error, memory, target, Pid.step_unit on output limits, gathered,
          Option.getD_some]
      simp only [Pid.drive, add_zero]

variable {l : Loop ℝ} {make : Make ℝ} {kp : ℝ} {gains : Gains ℝ} {last : Option ℝ}

/-- **A proportional loop** answers with its share of the error. -/
theorem step_proportional (hm : l.make? = some make) (proportional : make.OfGains ⟨kp, 0, 0, 0⟩)
    (on : l.isDisabled = false) (hl : l.memory = some (0, last)) (x : ℝ) (now : Nat) :
    (l.step x now).2 = clampUnit (kp * (l.target - x)) ∧
      (l.step x now).1.error = l.target - x ∧
      (l.step x now).1.memory = some (0, some x) := by
  obtain ⟨slope, -, output, error, memory⟩ :=
    step_of_make hm proportional on hl x now (zero_mul _)
  refine ⟨?_, error, memory⟩
  simpa using output

/-- **A loop that is level stays level**: without an error, and with nothing that it remembers or
adds, it answers with nothing. -/
theorem step_level (hm : l.make? = some make) (made : make.OfGains gains)
    (unbiased : gains.kbias = 0) (on : l.isDisabled = false) (target : l.target = 0)
    (hl : l.memory = some (0, last)) (level : ∀ y, last = some y → y = 0) (now : Nat) :
    (l.step 0 now).2 = 0 ∧ (l.step 0 now).1.memory = some (0, some 0) := by
  obtain ⟨slope, flat, output, -, memory⟩ :=
    step_of_make hm made on hl 0 now (by rw [target]; ring)
  refine ⟨?_, memory⟩
  rcases flat with rfl | ⟨y, hy, other⟩
  · rw [output, target, unbiased]
    norm_num
    exact clampUnit_zero
  · exact absurd (level y hy) other

end Loop

namespace SimulatedMotor

open Mixing (clampUnit command)

/-- **How fast a motor turns for an error**, in degrees a second: for its share of full speed. -/
noncomputable def toward (g : Gearset) (kp full e : ℝ) : ℝ :=
  pull g (command (clampUnit (kp * e)) full)

/-- **With a gentle gain a motor makes up for the error in a period at most.** -/
theorem toward_gentle (g : Gearset) {kp full seconds : ℝ} (hk : 0 ≤ kp) (hf : 0 ≤ full)
    (hs : 0 ≤ seconds) (gentle : 6 * kp * full * seconds ≤ 1) (e : ℝ) :
    (0 ≤ e → 0 ≤ toward g kp full e * seconds ∧ toward g kp full e * seconds ≤ e) ∧
      (e ≤ 0 → e ≤ toward g kp full e * seconds ∧ toward g kp full e * seconds ≤ 0) := by
  rw [toward, Mixing.clampUnit_real]
  constructor <;> intro he
  · have share : 0 ≤ kp * e := mul_nonneg hk he
    have low : 0 ≤ max (-1) (min 1 (kp * e)) := le_max_of_le_right (le_min zero_le_one share)
    have high : max (-1) (min 1 (kp * e)) ≤ kp * e :=
      max_le (by linarith) (min_le_right ..)
    obtain ⟨on, slow⟩ := pull_command_of_nonneg g (mul_nonneg low hf)
    refine ⟨mul_nonneg on hs, ?_⟩
    calc _ ≤ max (-1) (min 1 (kp * e)) * full * 6 * seconds := by gcongr
      _ ≤ kp * e * full * 6 * seconds := by gcongr
      _ = 6 * kp * full * seconds * e := by ring
      _ ≤ 1 * e := by gcongr
      _ = e := one_mul e
  · have share : kp * e ≤ 0 := mul_nonpos_of_nonneg_of_nonpos hk he
    have high : max (-1) (min 1 (kp * e)) ≤ 0 := max_le (by norm_num) (min_le_of_right_le share)
    have low : kp * e ≤ max (-1) (min 1 (kp * e)) := by
      rw [min_eq_right (by linarith)]
      exact le_max_right ..
    obtain ⟨back, slow⟩ := pull_command_of_nonpos g (mul_nonpos_of_nonpos_of_nonneg high hf)
    refine ⟨?_, mul_nonpos_of_nonpos_of_nonneg back hs⟩
    calc e = 1 * e := (one_mul e).symm
      _ ≤ 6 * kp * full * seconds * e := mul_le_mul_of_nonpos_right gentle he
      _ = kp * e * full * 6 * seconds := by ring
      _ ≤ max (-1) (min 1 (kp * e)) * full * 6 * seconds := by gcongr
      _ ≤ _ := by gcongr

end SimulatedMotor

/-! ### Cycles -/

namespace Controller

open Mixing (clampUnit)

/-- **The loops of this module**: a proportional distance loop and an angle loop without a bias,
with the limits that loops are made with. -/
structure Tuned (c : Controller ℝ) (kp : ℝ) : Prop where
  real : c.Positional
  distance : ∃ make, (c.loop .distance).make? = some make ∧ make.OfGains ⟨kp, 0, 0, 0⟩
  angle : ∃ make gains, (c.loop .angle).make? = some make ∧ make.OfGains gains ∧ gains.kbias = 0

/-- Whether a controller is on its way to a target straight ahead, and remembers nothing that could
turn it aside. -/
structure Homes (c : Controller ℝ) (kp target : ℝ) : Prop where
  tuned : c.Tuned kp
  mode : c.mode = .distance
  distance : c.distance.setting = ⟨target, false⟩
  angle : c.angle.setting = ⟨0, false⟩
  forward : ∃ last, c.distance.memory = some (0, last)
  yaw : ∃ last, c.angle.memory = some (0, last) ∧ ∀ y, last = some y → y = 0

theorem Homes.of_posture {c c' : Controller ℝ} {kp target : ℝ} (h : c.Homes kp target)
    (tuned : c'.Tuned kp) (posture : c'.posture = c.posture)
    (forward : ∃ last, c'.distance.memory = some (0, last))
    (yaw : ∃ last, c'.angle.memory = some (0, last) ∧ ∀ y, last = some y → y = 0) :
    c'.Homes kp target where
  tuned := tuned
  mode := (congrArg Posture.mode posture).trans h.mode
  distance := (congrArg Posture.distance posture).trans h.distance
  angle := (congrArg Posture.angle posture).trans h.angle
  forward := forward
  yaw := yaw

/-- **A cycle straight ahead**: it asks both sides for the same share of the error. -/
theorem Homes.cycle {c : Controller ℝ} {kp target : ℝ} (h : c.Homes kp target) {samples : Samples}
    {d : ℝ} (moved : c.moved samples = ⟨d, d⟩) (now : Nat) :
    (c.cycle samples now).2 = some (.vector (clampUnit (kp * (target - d))) 0) ∧
      (c.cycle samples now).1.distance.error = target - d ∧
      (c.cycle samples now).1.distance.memory = some (0, some d) ∧
      (c.cycle samples now).1.angle.memory = some (0, some 0) := by
  obtain ⟨last, forward⟩ := h.forward
  obtain ⟨last', yaw, level⟩ := h.yaw
  obtain ⟨make, hm, made⟩ := h.tuned.distance
  obtain ⟨make', gains, hm', made', unbiased⟩ := h.tuned.angle
  have on : c.distance.isDisabled = false := congrArg Loop.Setting.disabled h.distance
  have on' : c.angle.isDisabled = false := congrArg Loop.Setting.disabled h.angle
  have aim : c.distance.target = target := congrArg Loop.Setting.target h.distance
  have straight : c.angle.target = 0 := congrArg Loop.Setting.target h.angle
  obtain ⟨output, error, memory⟩ := Loop.step_proportional hm made on forward d now
  obtain ⟨silent, memory'⟩ := Loop.step_level hm' made' unbiased on' straight yaw level now
  have mean : (d + d) / ofInt 2 = d := by
    rw [Scalar.ofInt_real]
    push_cast
    ring
  rw [loop, aim] at output error
  rw [loop] at silent memory'
  rw [cycle_of_distance h.mode, moved]
  simp only [mean, sub_self]
  exact ⟨by rw [output, silent], error, memory, memory'⟩

theorem Tuned.of_make {c c' : Controller ℝ} {kp : ℝ} (h : c.Tuned kp) (wired : c.Wired c')
    (same : ∀ slot, (c'.loop slot).make? = (c.loop slot).make?) : c'.Tuned kp := by
  obtain ⟨make, hm, made⟩ := h.distance
  obtain ⟨make', gains, hm', made'⟩ := h.angle
  exact ⟨wired.positional h.real, ⟨make, (same .distance).trans hm, made⟩,
    ⟨make', gains, (same .angle).trans hm', made'⟩⟩

end Controller

namespace Shared

open Mixing (clampUnit)

variable {s : Shared ℝ} {kp target : ℝ}

theorem tuned_after {e : Event ℝ} (enabled : s.Enabled e) (h : s.controller.Tuned kp) :
    (s.after e).controller.Tuned kp :=
  h.of_make (wired_after enabled) (make_after enabled)

theorem tuned_replay {past : List (Event ℝ)} (possible : Possible s past)
    (h : s.controller.Tuned kp) : (replay s past).controller.Tuned kp :=
  h.of_make (wired_replay possible) (make_replay possible)

/-- A step that determines nothing and is no cycle keeps a straight move as it is. -/
theorem homes_after_of_quiet {e : Event ℝ} (h : s.controller.Homes kp target)
    (enabled : s.Enabled e) (quiet : e.decides = false) (idle : ∀ samples, e ≠ .work samples) :
    (s.after e).controller.Homes kp target := by
  have still : e.stirs = false := by
    cases e with
    | launch i => cases quiet
    | work samples => exact absurd rfl (idle samples)
    | _ => rfl
  have memory := memory_after enabled still
  refine h.of_posture (tuned_after enabled h.tuned) (posture_after enabled quiet) ?_ ?_
  · exact h.forward.imp fun _ => (memory .distance).trans
  · exact h.yaw.imp fun _ => And.imp_left (memory .angle).trans

/-- **What a cycle does to a straight move**: it goes on, its error is what is left of the way, both
motors go on alike, as fast as the error asks for, and both get the same order. -/
theorem homes_after_work {samples : Samples} (h : s.controller.Homes kp target)
    (enabled : s.Enabled (.work samples)) {g : Gearset} {q : ℝ}
    (twin : s.Twin (·.Stands g s.now q)) {d : ℝ} (moved : s.controller.moved samples = ⟨d, d⟩) :
    (s.after (.work samples)).controller.Homes kp target ∧
      (s.after (.work samples)).controller.distance.error = target - d ∧
      (s.after (.work samples)).Twin
        (·.Rolls g s.now q (SimulatedMotor.toward g kp s.drive.full.velocity (target - d))) ∧
      ∀ orders, s.orders? (.work samples) = some orders → orders .left = orders .right := by
  obtain ⟨maneuver, error, forward, yaw⟩ := h.cycle moved s.now
  have worked := s.controller_after_work samples
  refine ⟨?_, by rw [worked, error], ?_, ?_⟩
  · refine h.of_posture (tuned_after enabled h.tuned) (posture_after enabled rfl) ?_ ?_
    · exact ⟨some d, by rw [worked, forward]⟩
    · exact ⟨some 0, by rw [worked, yaw], fun y hy => (Option.some.inj hy).symm⟩
  · -- the drive is the one before the cycle, steered straight ahead
    obtain ⟨sensing, motors⟩ := twin.steer (clampUnit (kp * (target - d)))
    have drive : (s.after (.work samples)).drive =
        (s.steer (some (.vector (clampUnit (kp * (target - d))) 0))).drive := by
      rw [drive_after enabled nofun, maneuver?, maneuver]
    rw [Mixing.clampUnit_clampUnit] at motors
    exact ⟨by rw [drive]; exact sensing, by rw [drive]; exact motors⟩
  · intro orders given
    rw [orders?, maneuver?, maneuver] at given
    obtain rfl := Option.some.inj given
    simp only [Maneuver.order?, Mixing.vector_ahead, Wheel.side, Sides.on]

end Shared

end Drivetrain
