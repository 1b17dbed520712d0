/-
What a finished motion has come to, where an amount may be no number.

A check finds an error out of tolerance if it is beyond it, and a request is ignored if its amount
is below a threshold.  What is not a number is neither beyond anything nor below it.  So a motion
whose amount is not a number is accepted, and its target is no number either.  From its first cycle
on its error is none, which every check takes for one within tolerance: the wait for it finishes
when the settle time is over, wherever the chassis is.

Nothing else goes wrong.  Readings are finite, and so are scales and gears, which are not zero.  An
amount that is infinite, or becomes so when it is scaled, leaves an infinite error.

Main definitions:

* `Drivetrain.Controller.Motion.amount`, `Drivetrain.Controller.Request.amount?` — the meters, the
  degrees or the ticks that are asked for;
* `Drivetrain.Controller.Geared` — scales and gears that are finite and not zero;
* `Drivetrain.Loop.measured?` — the error of a position loop.

Main results:

* `Drivetrain.Controller.Geared.motion?_of_isNaN` — what is not a number is never ignored;
* `Drivetrain.Shared.isNaN_error_replay` — **the errors of every run**: after a cycle they are
  numbers exactly when the targets are;
* `Drivetrain.Shared.finished_within_unless_isNaN` — **the errors of a finished motion are within
  tolerance, or are not numbers**, and when they are not;
* `Drivetrain.Shared.finished_on_isNaN` — a run in which they are not.
-/

import Drivetrain.Proofs.Displacement
import Drivetrain.Proofs.Magnitude
import Drivetrain.Proofs.Memory
import Drivetrain.Proofs.Rhythm

set_option relaxedAutoImplicit false
set_option autoImplicit false

namespace Drivetrain

open Controller (Samples)
open Machine (value?)

/-! ### Errors of loops -/

namespace Loop

variable {α : Type}

/-- The error of a position loop. -/
def measured? : Loop α → Option α
  | position p => some p.error
  | scripted _ => none

variable [Scalar α] {l : Loop α}

theorem kept_measured : Kept (measured? : Loop α → Option α) where
  setDisabled b l := by cases l <;> rfl
  script g l := by cases l <;> rfl
  checkSettled now l := by
    cases l with
    | position p => exact congrArg some (p.checkSettled_keeps now).2.2
    | scripted s => rfl

theorem measured?_of_real (real : l.settle?.isSome) : l.measured? = some l.error := by
  cases l with
  | position p => rfl
  | scripted s => cases real

theorem error_renewed (real : l.settle?.isSome) (target : α) :
    ((l.reset.setDisabled false).setTarget target).error = 0 := by
  cases l with
  | position p => rfl
  | scripted s => cases real

/-- A loop that reports has an error that is not beyond its tolerance. -/
theorem not_beyond_of_settled {settings : SettleSettings α} (hs : l.settle? = some settings)
    (on : l.isDisabled = false) {now : Nat} (settled : (l.checkSettled now).1 = true) :
    ¬ settings.error < Scalar.abs l.error := by
  obtain ⟨s, clock, rfl⟩ := clock_of_settle? hs on
  rw [(clock_checkSettled clock now).1] at settled
  exact Settling.not_lt_of_outside (Settling.of_check settled).1

end Loop

/-! ### Amounts and targets -/

namespace Controller

/-- The meters or the degrees of a motion. -/
def Motion.amount {α : Type} : Motion α → α
  | .move x => x.meters
  | .turn x _ => x.degrees

/-- The meters, the degrees or the ticks of a request for a motion. -/
def Request.amount? {α : Type} : Request α → Option α
  | .move x => some x.meters
  | .turn x => some x.degrees
  | .moveRaw t | .turnRaw t => some t
  | .mirror _ | .stop | .setMoveThreshold _ | .setTurnThreshold _ => none

/-- **Scales and gears that are finite and not zero.** -/
structure Geared (c : Controller Float) : Prop where
  straight : ∃ a, value? c.scales.straight = some a ∧ a ≠ 0
  turn : ∃ a, value? c.scales.turn = some a ∧ a ≠ 0
  ratio : ∃ a, value? c.gearing.ratio = some a ∧ a ≠ 0

/-- What is positive and finite has a value that is not zero. -/
theorem value?_of_positive {x : Float} (h : (Scalar.isFinite x && decide (0 < x)) = true) :
    ∃ a, value? x = some a ∧ a ≠ 0 := by
  obtain ⟨finite, above⟩ := Bool.and_eq_true_iff.1 h
  obtain ⟨a, ha⟩ := Machine.exists_value? finite
  exact ⟨a, ha, ((Machine.lt_of_value? rfl ha).1 (of_decide_eq_true above)).ne'⟩

theorem geared_of_accepted {gearing : Gearing Float} {scales : Scales Float} {c : Controller Float}
    (h : refusal? gearing scales = none) (hg : c.gearing = gearing) (hs : c.scales = scales) :
    c.Geared := by
  subst hg hs
  unfold refusal? at h
  split at h
  · cases h
  · rename_i nonzero
    split at h
    · cases h
    · rename_i finite
      split at h
      · cases h
      · rename_i valid
        rw [Bool.not_eq_true, Bool.not_eq_false'] at finite valid
        obtain ⟨straight, turn⟩ := Bool.and_eq_true_iff.1 valid
        obtain ⟨a, ha⟩ := Machine.exists_value? finite
        exact
          { straight := value?_of_positive straight
            turn := value?_of_positive turn
            ratio := ⟨a, ha, Machine.ne_zero_of_beq (eq_false_of_ne_true nonzero) ha⟩ }

/-- Every controller has such scales and gears. -/
theorem geared_of_create {distance turn angle : Loop Float} {gearing : Gearing Float}
    {scales : Scales Float} {period : Nat} {c : Controller Float}
    (h : create distance turn angle gearing scales period = .ok c) : c.Geared := by
  obtain ⟨accepted, positive, rfl⟩ := eq_of_create h
  exact geared_of_accepted accepted rfl rfl

section Amounts

variable {c : Controller Float}

/-- **The target of a motion is a number exactly when its amount is one.** -/
theorem Geared.isNaN_moveTarget (h : c.Geared) (x : Length Float) :
    (c.moveTarget x).isNaN = x.meters.isNaN := by
  obtain ⟨a, straight, ha⟩ := h.straight
  obtain ⟨b, ratio, hb⟩ := h.ratio
  rw [moveTarget, Machine.isNaN_mul ratio hb, Machine.isNaN_mul straight ha]

theorem value?_turnSign (mirrored : Bool) :
    ∃ a, value? (turnSign mirrored : Float) = some a ∧ a ≠ 0 := by
  cases mirrored with
  | true => exact ⟨-1, Machine.value?_neg Machine.value?_one, by norm_num⟩
  | false => exact ⟨1, Machine.value?_one, one_ne_zero⟩

theorem Geared.isNaN_turnTarget (h : c.Geared) (x : Angle Float) (mirrored : Bool) :
    (c.turnTarget x mirrored).isNaN = x.degrees.isNaN := by
  obtain ⟨a, turn, ha⟩ := h.turn
  obtain ⟨b, ratio, hb⟩ := h.ratio
  obtain ⟨s, sign, hs⟩ := value?_turnSign mirrored
  rw [turnTarget, Machine.isNaN_mul sign hs, Machine.isNaN_mul ratio hb, Machine.isNaN_mul turn ha]

/-- What is asked for in ticks is a number exactly when the ticks are. -/
theorem Geared.isNaN_raw (h : c.Geared) (ticks : Float) :
    (c.rawLength ticks).meters.isNaN = ticks.isNaN ∧
      (c.rawAngle ticks).degrees.isNaN = ticks.isNaN := by
  obtain ⟨a, straight, ha⟩ := h.straight
  obtain ⟨b, turn, hb⟩ := h.turn
  exact ⟨Machine.isNaN_div straight ha, Machine.isNaN_div turn hb⟩

theorem abs_not_lt_of_isNaN {x : Float} (h : x.isNaN = true) (y : Float) : ¬ Float.abs x < y := by
  intro below
  have number := Machine.isNaN_of_le_left (Machine.le_of_lt below)
  rw [Machine.isNaN_abs_eq, h] at number
  cases number

/-- **What is not a number is never ignored**, whatever the thresholds. -/
theorem Geared.motion?_of_isNaN (h : c.Geared) {r : Request Float} {x : Float}
    (hx : r.amount? = some x) (nan : x.isNaN = true) : ∃ m, c.motion? r = some m := by
  have move : ∀ d : Length Float, d.meters.isNaN = true → ∃ m, c.acceptMove d = some m :=
    fun d hd => ⟨_, if_neg fun below => abs_not_lt_of_isNaN hd _ (of_decide_eq_true below)⟩
  have turn : ∀ a : Angle Float, a.degrees.isNaN = true → ∃ m, c.acceptTurn a = some m :=
    fun a ha => ⟨_, if_neg fun below => abs_not_lt_of_isNaN ha _ (of_decide_eq_true below)⟩
  have ticks := h.isNaN_raw x
  cases r with
  | move d => cases hx; exact move d nan
  | turn a => cases hx; exact turn a nan
  | moveRaw t => cases hx; exact move _ (ticks.1.trans nan)
  | turnRaw t => cases hx; exact turn _ (ticks.2.trans nan)
  | _ => cases hx

end Amounts

/-! ### Errors of a controller -/

theorem error_launch {α : Type} [Scalar α] {c : Controller α} (real : c.Positional)
    (m : Motion α) : ∀ slot ∈ (c.launch m).mode.slots, ((c.launch m).loop slot).error = 0 := by
  have renewed := fun slot => Loop.error_renewed (c.settle?_loop slot ▸ real slot)
  cases m with
  | move x => exact Mode.forall_slots_distance.2 ⟨renewed .distance _, renewed .angle _⟩
  | turn x mirrored => exact Mode.forall_slots_angle.2 (renewed .turn _)

/-- **A cycle leaves errors that are numbers exactly where the targets are.** -/
theorem isNaN_error_cycle {c : Controller Float} (real : c.Positional)
    (on : ∀ slot ∈ c.mode.slots, (c.loop slot).isDisabled = false) (samples : Samples) (now : Nat) :
    ∀ slot ∈ c.mode.slots,
      ((c.cycle samples now).1.loop slot).error.isNaN = (c.loop slot).target.isNaN := by
  have steps : Shared.StepsFrom _ samples.current now c (c.cycle samples now).1 :=
    Shared.stepsFrom_cycle (fun _ => rfl) now
  have error (slot : Slot) (hs : slot ∈ c.mode.slots) (reading : Float) {a : ℚ}
      (value : value? reading = some a) :
      ((c.loop slot).step reading now).1.error.isNaN = (c.loop slot).target.isNaN := by
    rw [Loop.error_step (c.settle?_loop slot ▸ real slot) (on slot hs), Machine.isNaN_sub value]
  cases hm : c.mode with
  | none => nofun
  | distance =>
      rw [hm] at error
      obtain ⟨mean, lead, hmean, hlead, distance, angle, -⟩ := steps.distance hm
      refine Mode.forall_slots_distance.2 ⟨?_, ?_⟩
      · rw [← error .distance (by decide) mean hmean]
        simp only [loop, distance]
      · rw [← error .angle (by decide) lead hlead]
        simp only [loop, angle]
  | angle =>
      rw [hm] at error
      obtain ⟨lead, hlead, turn, -⟩ := steps.angle hm
      refine Mode.forall_slots_angle.2 ?_
      rw [← error .turn (by decide) lead hlead]
      simp only [loop, turn]

/-- The targets are part of the posture. -/
theorem target_loop_of_posture {α : Type} {c c' : Controller α} (h : c'.posture = c.posture)
    (slot : Slot) : (c'.loop slot).target = (c.loop slot).target := by
  cases slot with
  | distance => exact congrArg (·.distance.target) h
  | turn => exact congrArg (·.turn.target) h
  | angle => exact congrArg (·.angle.target) h

/-- The loops of a motion that was not stopped are switched on. -/
theorem on_of_begun {α : Type} [Scalar α] {wiring c : Controller α} {m : Motion α}
    (h : (Course.begun m).Fits wiring c.posture) :
    ∀ slot ∈ c.mode.slots, (c.loop slot).isDisabled = false := by
  cases m with
  | move x =>
      obtain ⟨mode, distance, angle, -⟩ := h
      rw [show c.mode = .distance from mode, Mode.forall_slots_distance]
      exact ⟨congrArg Loop.Setting.disabled distance, congrArg Loop.Setting.disabled angle⟩
  | turn x mirrored =>
      obtain ⟨mode, turn, -⟩ := h
      rw [show c.mode = .angle from mode, Mode.forall_slots_angle]
      exact congrArg Loop.Setting.disabled turn

/-- Their targets are numbers exactly when the amount is one, but for the loop that holds a straight
line, whose target is zero. -/
theorem Geared.isNaN_target {wiring c : Controller Float} (geared : wiring.Geared)
    {m : Motion Float} (h : (Course.begun m).Fits wiring c.posture) :
    ∀ slot ∈ c.mode.slots,
      ((c.loop slot).target.isNaN = true ↔ slot ≠ .angle ∧ m.amount.isNaN = true) := by
  cases m with
  | move x =>
      obtain ⟨mode, distance, angle, -⟩ := h
      have target : c.distance.target = wiring.moveTarget x := congrArg Loop.Setting.target distance
      have level : c.angle.target = 0 := congrArg Loop.Setting.target angle
      have zero : (0 : Float).isNaN = false := rfl
      rw [show c.mode = .distance from mode, Mode.forall_slots_distance]
      simp only [loop, target, level, geared.isNaN_moveTarget]
      refine ⟨(and_iff_right (by decide)).symm, iff_of_false ?_ fun h => h.1 rfl⟩
      rw [zero]
      decide
  | turn x mirrored =>
      obtain ⟨mode, turn, -⟩ := h
      have target : c.turn.target = wiring.turnTarget x mirrored :=
        congrArg Loop.Setting.target turn
      rw [show c.mode = .angle from mode, Mode.forall_slots_angle]
      simp only [loop, target, geared.isNaN_turnTarget]
      exact (and_iff_right (by decide)).symm

end Controller

/-! ### Errors of a run -/

namespace Shared

/-- A step within a motion that was not stopped decides nothing, unless it is the launch. -/
theorem not_decides_of_begun {α : Type} [Scalar α] {wiring : Controller α} {e : Event α}
    {past : List (Event α)} {m : Controller.Motion α}
    (moving : course wiring (e :: past) = .begun m) (he : e.stirs = false) : e.decides = false := by
  cases e with
  | launch i => cases he
  | poll i verdict =>
      cases verdict with
      | finished => cases m <;> cases moving
      | _ => rfl
  | ask i r =>
      cases r with
      | stop =>
          rw [course] at moving
          cases hc : course wiring past <;> rw [hc] at moving <;> cases m <;> cases moving
      | _ => rfl
  | _ => rfl

/-- **Only a launch and a cycle change the error of a position loop.** -/
theorem error_after {α : Type} [Scalar α] {s : Shared α} {e : Event α}
    (real : s.controller.Positional) (enabled : s.Enabled e) (he : e.stirs = false) (slot : Slot) :
    ((s.after e).controller.loop slot).error = (s.controller.loop slot).error := by
  have kept := Loop.kept_measured.after enabled he slot
  have before := (s.controller.settle?_loop slot).symm ▸ real slot
  have after := ((s.after e).controller.settle?_loop slot).symm ▸
    (wired_after enabled).positional real slot
  rw [Loop.measured?_of_real before, Loop.measured?_of_real after] at kept
  exact Option.some.inj kept

/-- **The errors of every run.**  Within a motion that was not stopped, the error of a loop at work
is not a number exactly when a cycle has worked on it and its target is none. -/
theorem isNaN_error_replay {s₀ : Shared Float} (opened : s₀.Opened)
    (real : s₀.controller.Positional) {past : List (Event Float)} (possible : Possible s₀ past)
    {m : Controller.Motion Float} (moving : course s₀.controller past = .begun m) :
    ∀ slot ∈ (replay s₀ past).controller.mode.slots,
      (((replay s₀ past).controller.loop slot).error.isNaN = true ↔
        worked past = true ∧ ((replay s₀ past).controller.loop slot).target.isNaN = true) := by
  -- induction on the history, back to the launch
  induction past with
  | nil => cases m <;> cases moving
  | cons e past ih =>
      obtain ⟨before, enabled⟩ := possible
      have positional := (wired_replay before).positional real
      cases he : e.stirs with
      | false =>
          have quiet := not_decides_of_begun moving he
          have posture := posture_after enabled quiet
          rw [course_of_not_decides _ quiet] at moving
          have mode : ((replay s₀ past).after e).controller.mode = _ :=
            congrArg Controller.Posture.mode posture
          have same : worked (e :: past) = worked past := by
            cases e <;> first | rfl | cases he
          rw [replay_cons, mode, same]
          intro slot hs
          rw [Controller.target_loop_of_posture posture, error_after positional enabled he]
          exact ih before moving slot hs
      | true =>
          cases e with
          | launch i =>
              obtain ⟨launched, -, e⟩ := launch_cases enabled
              have begun : ((replay s₀ past).after (.launch i)).controller =
                  (replay s₀ past).controller.launch launched := by rw [e]; rfl
              rw [replay_cons, begun]
              intro slot hs
              rw [Controller.error_launch positional launched slot hs]
              exact iff_of_false Bool.false_ne_true fun h => Bool.false_ne_true h.1
          | work samples =>
              have fits := (before.tracks opened).fits
              rw [show course s₀.controller past = .begun m from moving] at fits
              have posture := posture_after enabled rfl
              have mode : ((replay s₀ past).after (.work samples)).controller.mode = _ :=
                congrArg Controller.Posture.mode posture
              rw [replay_cons, mode]
              intro slot hs
              rw [Controller.target_loop_of_posture posture, controller_after_work,
                Controller.isNaN_error_cycle positional (Controller.on_of_begun fits) _ _ slot hs]
              exact (and_iff_right rfl).symm
          | _ => cases he

/-! ### The theorem -/

/-- What is not beyond a tolerance is within it, unless it is not a number. -/
theorem within_iff_of_not_beyond {st : SettleSettings Float} {e : Float}
    (number : st.error.isNaN = false) (h : ¬ st.error < Float.abs e) :
    Within st e ↔ e.isNaN = false := by
  constructor
  · intro within
    rw [← Machine.isNaN_abs_eq]
    exact Machine.isNaN_of_le_left within
  · intro he
    exact (Machine.not_lt number ((Machine.isNaN_abs_eq e).trans he)).1 h

/-- The loops of a finished motion that was not stopped are not beyond their tolerances. -/
theorem not_beyond_of_reports {s : Shared Float} {wiring : Controller Float}
    {m : Controller.Motion Float} (fits : (Course.begun m).Fits wiring s.controller.posture)
    (reports : s.controller.Reports s.now s.controller.mode) :
    ∀ slot ∈ s.controller.mode.slots, ∀ st, s.controller.settle? slot = some st →
      ¬ st.error < Float.abs (s.controller.loop slot).error := by
  have on := Controller.on_of_begun fits
  have settled (slot : Slot) (hs : slot ∈ s.controller.mode.slots)
      (there : ((s.controller.loop slot).checkSettled s.now).1 = true) (st : SettleSettings Float)
      (hst : s.controller.settle? slot = some st) :
      ¬ st.error < Float.abs (s.controller.loop slot).error :=
    Loop.not_beyond_of_settled ((s.controller.settle?_loop slot).trans hst) (on slot hs) there
  cases hm : s.controller.mode with
  | none => nofun
  | distance =>
      rw [hm] at settled reports
      exact Mode.forall_slots_distance.2
        ⟨settled .distance (by decide) reports.1, settled .angle (by decide) reports.2⟩
  | angle =>
      rw [hm] at settled reports
      exact Mode.forall_slots_angle.2 (settled .turn (by decide) reports)

/-- **The errors of a finished motion are within tolerance, or are not numbers.**  A poll finishes a
motion that was not stopped, and no tolerance is anything but a number.  Then the last error of a
loop of that motion is within its tolerance exactly when it is a number.  It is none exactly when
the amount of the motion is none and a cycle has worked on it; the loop that holds a straight line
always has a number. -/
theorem finished_within_unless_isNaN {s₀ : Shared Float} (opened : s₀.Opened)
    (real : s₀.controller.Positional)
    (numbers : ∀ slot st, s₀.controller.settle? slot = some st → st.error.isNaN = false) {i : Nat}
    {past : List (Event Float)} (possible : Possible s₀ (.poll i .finished :: past))
    {m : Controller.Motion Float} (moving : course s₀.controller past = .begun m) :
    ∀ slot ∈ (replay s₀ past).controller.mode.slots, ∀ st,
      s₀.controller.settle? slot = some st →
      let error := ((replay s₀ (.poll i .finished :: past)).controller.loop slot).error
      (Within st error ↔ error.isNaN = false) ∧
        (error.isNaN = true ↔ slot ≠ .angle ∧ m.amount.isNaN = true ∧ worked past = true) := by
  obtain ⟨before, enabled⟩ := possible
  have tracks := before.tracks opened
  have fits := tracks.fits
  rw [moving] at fits
  have positional := (wired_replay before).positional real
  obtain ⟨-, reports, -⟩ := ended_after enabled
  intro slot hs st hst
  have last : ((replay s₀ (.poll i .finished :: past)).controller.loop slot).error =
      ((replay s₀ past).controller.loop slot).error := error_after positional enabled rfl slot
  have inside := not_beyond_of_reports fits reports slot hs st ((tracks.wired.settle slot).trans hst)
  obtain ⟨distance, turn, angle, gearing, scales, period, created⟩ := opened.created
  have target := (Controller.geared_of_create created).isNaN_target fits slot hs
  intro error
  rw [show error = _ from last]
  refine ⟨within_iff_of_not_beyond (numbers slot st hst) inside, ?_⟩
  rw [isNaN_error_replay opened real before moving slot hs, target]
  tauto

/-- The tolerances of loops that do nothing. -/
theorem settle?_still (slot : Slot) : still.controller.settle? slot = some ⟨50, 100000, 50⟩ := by
  cases slot <;> rfl

theorem opened_still : still.Opened := opened_bench ..

theorem positional_still : still.controller.Positional := fun slot => by rw [settle?_still]; rfl

theorem numbers_still {slot : Slot} {st : SettleSettings Float}
    (h : still.controller.settle? slot = some st) : st.error.isNaN = false := by
  rw [settle?_still] at h
  cases h
  rfl

theorem finished_within_unless_isNaN_of_steady :
    (∀ slot ∈ Mode.distance.slots, still.controller.settle? slot = some ⟨50, 100000, 50⟩) ∧
      ∀ slot ∈ Mode.distance.slots, Within ⟨50, 100000, 50⟩
        ((replay still (.poll 0 .finished :: steady)).controller.loop slot).error := by
  have possible : Possible still (.poll 0 .finished :: steady) := by decide +kernel
  have mode : (replay still steady).controller.mode = .distance := by decide +kernel
  have moving : course still.controller steady = .begun (.move ⟨0⟩) := rfl
  refine ⟨fun slot _ => settle?_still slot, ?_⟩
  intro slot hs
  rw [← mode] at hs
  obtain ⟨within, nan⟩ := finished_within_unless_isNaN opened_still positional_still
    (fun _ _ => numbers_still) possible moving slot hs _ (settle?_still slot)
  refine within.2 (eq_false_of_ne_true fun h => ?_)
  exact Bool.false_ne_true (nan.1 h).2.1

/-- A move by what is not a number, followed until both settle timers have run. -/
def astray : List (Event Float) :=
  [.pass 50000000, .poll 0 .pending, .pass 50000000, .poll 0 .pending, .look 0, .wait 0,
    .work ⟨⟨0, 0⟩, ⟨0, 0⟩⟩, .wake, .start ⟨0, 0⟩, .launch 0, .ask 0 (.move ⟨0 / 0⟩)]

/-- **A wait finishes a move whose last error is not a number**, and so within no tolerance. -/
theorem finished_on_isNaN :
    (still.Opened ∧ still.controller.Positional ∧
      (∀ slot st, still.controller.settle? slot = some st → st.error.isNaN = false) ∧
      Possible still (.poll 0 .finished :: astray) ∧
      course still.controller astray = .begun (.move ⟨0 / 0⟩) ∧
      (replay still astray).controller.mode = .distance) ∧
      still.controller.settle? .distance = some ⟨50, 100000, 50⟩ ∧
      ¬ Within ⟨50, 100000, 50⟩
        ((replay still (.poll 0 .finished :: astray)).controller.loop .distance).error :=
  ⟨⟨opened_still, positional_still, fun _ _ => numbers_still, by decide +kernel, rfl,
    by decide +kernel⟩, settle?_still .distance, by decide +kernel⟩

end Shared

end Drivetrain
