/-
The posture of a controller: what motions, stops and ends determine, and what nothing else touches.

Eight functions write overlapping parts of a controller.  Most of them leave alone what a client
set: a cycle and a look only change what the loops remember, a request that starts no motion changes
a flag or a threshold.  This module says once what each function leaves alone, and once what a poll
can come to, so that no statement about runs has to open the functions again.

Main definitions:

* `Drivetrain.Loop.Setting`, `Drivetrain.Loop.Alike` — the target of a loop and its switch, and the
  same loop but for what it remembers;
* `Drivetrain.Controller.Posture` — mode, idleness and the settings of the three loops;
* `Drivetrain.Controller.Resembles` — the same controller, but for what its loops remember;
* `Drivetrain.Controller.Wired` — the same scales, gears, period and tolerances;
* `Drivetrain.Controller.Reports` — whether the loops of a mode report that they have settled.

Main results:

* `Drivetrain.Controller.cycle_resembles`, `Drivetrain.Controller.checkSettled_resembles` — a cycle
  and a check **only change what the loops remember**;
* `Drivetrain.Controller.posture_adjust` — a request that starts no motion leaves the posture,
  unless it is a stop;
* `Drivetrain.Controller.poll_cases` — what a poll comes to.
-/

import Drivetrain.Controller

set_option relaxedAutoImplicit false
set_option autoImplicit false

namespace Drivetrain

open Scalar (ofInt)

variable {α : Type}

/-! ### Loops -/

namespace Loop

/-- What a client sets on a loop. -/
structure Setting (α : Type) where
  target : α
  disabled : Bool

def setting (l : Loop α) : Setting α := ⟨l.target, l.isDisabled⟩

/-- The tolerances of a position loop. -/
def settle? : Loop α → Option (SettleSettings α)
  | position p => some p.settling.settings
  | scripted _ => none

/-- **The same loop, but for what it remembers.** -/
structure Alike (l l' : Loop α) : Prop where
  setting : l'.setting = l.setting
  settle : l'.settle? = l.settle?

theorem Alike.refl (l : Loop α) : l.Alike l := ⟨rfl, rfl⟩

theorem alike_script {f : ScriptedLoop α → ScriptedLoop α}
    (hf : ∀ s, (f s).target = s.target ∧ (f s).disabled = s.disabled) (l : Loop α) :
    l.Alike (l.script f) := by
  cases l with
  | position p => exact .refl _
  | scripted s =>
      obtain ⟨target, disabled⟩ := hf s
      refine ⟨?_, rfl⟩
      simp only [script, setting, Loop.target, isDisabled, target, disabled]

@[simp] theorem settle?_setDisabled (b : Bool) (l : Loop α) :
    (l.setDisabled b).settle? = l.settle? := by
  cases l <;> rfl

@[simp] theorem settle?_setTarget (x : α) (l : Loop α) : (l.setTarget x).settle? = l.settle? := by
  cases l <;> rfl

variable [Scalar α]

@[simp] theorem settle?_reset (l : Loop α) : l.reset.settle? = l.settle? := by
  cases l <;> rfl

theorem alike_step (x : α) (now : Nat) (l : Loop α) : l.Alike (l.step x now).1 := by
  refine ⟨by simp only [setting, target_step, isDisabled_step], ?_⟩
  cases l with
  | position p =>
      have kept := (p.step_keeps x now).2.2
      simp only [step, settle?, kept]
  | scripted s => rfl

theorem alike_checkSettled (now : Nat) (l : Loop α) : l.Alike (l.checkSettled now).2 := by
  refine ⟨by simp only [setting, target_checkSettled, isDisabled_checkSettled], ?_⟩
  cases l with
  | position p =>
      cases h : p.disabled with
      | true => simp only [checkSettled, Pid.checkSettled_of_disabled h]
      | false =>
          simp only [checkSettled, Pid.checkSettled_of_enabled h, settle?,
            Settling.settings_check]
  | scripted s => rfl

end Loop

namespace Controller

/-! ### Postures -/

/-- **The posture of a controller**: all that a motion, a stop or an end determines. -/
structure Posture (α : Type) where
  mode : Mode
  idle : Bool
  distance : Loop.Setting α
  turn : Loop.Setting α
  angle : Loop.Setting α

def posture (c : Controller α) : Posture α :=
  ⟨c.mode, c.idle, c.distance.setting, c.turn.setting, c.angle.setting⟩

/-- **The same controller, but for what its loops remember.** -/
structure Resembles (c c' : Controller α) : Prop where
  distance : c.distance.Alike c'.distance
  turn : c.turn.Alike c'.turn
  angle : c.angle.Alike c'.angle
  /-- Nothing but the loops has changed. -/
  rest : c' = { c with distance := c'.distance, turn := c'.turn, angle := c'.angle }

/-- The tolerances of a loop, if it is a position loop. -/
def settle? (c : Controller α) : Slot → Option (SettleSettings α)
  | .distance => c.distance.settle?
  | .turn => c.turn.settle?
  | .angle => c.angle.settle?

/-- Whether all loops are position loops. -/
def Positional (c : Controller α) : Prop := ∀ slot, (c.settle? slot).isSome

/-- **The same scales, gears, period and tolerances.** -/
structure Wired (c c' : Controller α) : Prop where
  scales : c'.scales = c.scales
  gearing : c'.gearing = c.gearing
  period : c'.period = c.period
  settle : ∀ slot, c'.settle? slot = c.settle? slot

namespace Resembles

variable {c c' : Controller α}

theorem refl (c : Controller α) : c.Resembles c := ⟨.refl _, .refl _, .refl _, rfl⟩

theorem mode (h : c.Resembles c') : c'.mode = c.mode := (congrArg Controller.mode h.rest :)

theorem idle (h : c.Resembles c') : c'.idle = c.idle := (congrArg Controller.idle h.rest :)

theorem fresh (h : c.Resembles c') : c'.fresh = c.fresh := (congrArg Controller.fresh h.rest :)

theorem baseline (h : c.Resembles c') : c'.baseline = c.baseline :=
  (congrArg Controller.baseline h.rest :)

theorem lastMode (h : c.Resembles c') : c'.lastMode = c.lastMode :=
  (congrArg Controller.lastMode h.rest :)

theorem mirrored (h : c.Resembles c') : c'.mirrored = c.mirrored :=
  (congrArg Controller.mirrored h.rest :)

theorem posture (h : c.Resembles c') : c'.posture = c.posture := by
  simp only [Controller.posture, h.mode, h.idle, h.distance.setting, h.turn.setting,
    h.angle.setting]

theorem wired (h : c.Resembles c') : c.Wired c' where
  scales := (congrArg Controller.scales h.rest :)
  gearing := (congrArg Controller.gearing h.rest :)
  period := (congrArg Controller.period h.rest :)
  settle slot := by
    cases slot with
    | distance => exact h.distance.settle
    | turn => exact h.turn.settle
    | angle => exact h.angle.settle

end Resembles

namespace Wired

variable {c c' c'' : Controller α}

theorem refl (c : Controller α) : c.Wired c := ⟨rfl, rfl, rfl, fun _ => rfl⟩

theorem trans (h : c.Wired c') (h' : c'.Wired c'') : c.Wired c'' :=
  ⟨h'.scales.trans h.scales, h'.gearing.trans h.gearing, h'.period.trans h.period,
    fun slot => (h'.settle slot).trans (h.settle slot)⟩

theorem positional (h : c.Wired c') (real : c.Positional) : c'.Positional := by
  intro slot
  rw [h.settle slot]
  exact real slot

variable [Scalar α]

theorem moveTarget (h : c.Wired c') (x : Length α) : c'.moveTarget x = c.moveTarget x := by
  rw [Controller.moveTarget, Controller.moveTarget, h.scales, h.gearing]

theorem turnTarget (h : c.Wired c') (x : Angle α) (mirrored : Bool) :
    c'.turnTarget x mirrored = c.turnTarget x mirrored := by
  rw [Controller.turnTarget, Controller.turnTarget, h.scales, h.gearing]

end Wired

/-! ### What only the loops see -/

variable [Scalar α]

theorem checkSettled_distance_of_settled {c : Controller α} {now : Nat}
    (h : (c.distance.checkSettled now).1 = true) :
    c.checkSettled now .distance =
      ((c.angle.checkSettled now).1,
        { c with
          distance := (c.distance.checkSettled now).2
          angle := (c.angle.checkSettled now).2 }) :=
  if_pos h

theorem checkSettled_distance_of_unsettled {c : Controller α} {now : Nat}
    (h : ¬ (c.distance.checkSettled now).1 = true) :
    c.checkSettled now .distance =
      (false, { c with distance := (c.distance.checkSettled now).2 }) :=
  if_neg h

/-- **A check only changes what the loops remember.** -/
theorem checkSettled_resembles (c : Controller α) (now : Nat) (mode : Mode) :
    c.Resembles (c.checkSettled now mode).2 := by
  cases mode with
  | none => exact .refl c
  | distance =>
      by_cases h : (c.distance.checkSettled now).1 = true
      · rw [checkSettled_distance_of_settled h]
        exact ⟨Loop.alike_checkSettled .., .refl _, Loop.alike_checkSettled .., rfl⟩
      · rw [checkSettled_distance_of_unsettled h]
        exact ⟨Loop.alike_checkSettled .., .refl _, .refl _, rfl⟩
  | angle => exact ⟨.refl _, Loop.alike_checkSettled .., .refl _, rfl⟩

/-- The travel that a cycle finds. -/
def moved (c : Controller α) (samples : Samples) : Sides α :=
  travel (c.rebased samples.baseline).baseline samples.current

theorem cycle_of_none {c : Controller α} (h : c.mode = .none) (samples : Samples) (now : Nat) :
    c.cycle samples now = (c.rebased samples.baseline, none) := by
  simp only [cycle, rebased, h]

theorem cycle_of_distance {c : Controller α} (h : c.mode = .distance) (samples : Samples)
    (now : Nat) :
    c.cycle samples now =
      let moved := c.moved samples
      let forward := c.distance.step ((moved.left + moved.right) / ofInt 2) now
      let yaw := c.angle.step (moved.left - moved.right) now
      ({ c.rebased samples.baseline with distance := forward.1, angle := yaw.1 },
        some (.vector forward.2 yaw.2)) := by
  simp only [cycle, rebased, moved, h]

theorem cycle_of_angle {c : Controller α} (h : c.mode = .angle) (samples : Samples) (now : Nat) :
    c.cycle samples now =
      let moved := c.moved samples
      let speed := c.turn.step (moved.left - moved.right) now
      ({ c.rebased samples.baseline with turn := speed.1 }, some (.rotate speed.2)) := by
  simp only [cycle, rebased, moved, h]

/-- **A cycle only changes what the loops remember**, once its baseline is taken. -/
theorem cycle_resembles (c : Controller α) (samples : Samples) (now : Nat) :
    (c.rebased samples.baseline).Resembles (c.cycle samples now).1 := by
  cases h : c.mode with
  | none => rw [cycle_of_none h]; exact .refl _
  | distance =>
      rw [cycle_of_distance h]
      exact ⟨Loop.alike_step .., .refl _, Loop.alike_step .., rfl⟩
  | angle =>
      rw [cycle_of_angle h]
      exact ⟨.refl _, Loop.alike_step .., .refl _, rfl⟩

omit [Scalar α] in
theorem script_resembles (c : Controller α) (slot : Slot) {f : ScriptedLoop α → ScriptedLoop α}
    (hf : ∀ s, (f s).target = s.target ∧ (f s).disabled = s.disabled) :
    c.Resembles (c.script slot f) := by
  cases slot with
  | distance => exact ⟨Loop.alike_script hf _, .refl _, .refl _, rfl⟩
  | turn => exact ⟨.refl _, Loop.alike_script hf _, .refl _, rfl⟩
  | angle => exact ⟨.refl _, .refl _, Loop.alike_script hf _, rfl⟩

omit [Scalar α] in
theorem posture_rebased (c : Controller α) (baseline : Readings) :
    (c.rebased baseline).posture = c.posture := rfl

theorem posture_cycle (c : Controller α) (samples : Samples) (now : Nat) :
    (c.cycle samples now).1.posture = c.posture :=
  (c.cycle_resembles samples now).posture.trans (c.posture_rebased _)

/-! ### What creation and requests write -/

/-- **There is one controller that can be created** from what is given, if its gearing, scales and
period are usable. -/
theorem eq_of_create {distance turn angle : Loop α} {gearing : Gearing α} {scales : Scales α}
    {period : Nat} {c : Controller α}
    (h : create distance turn angle gearing scales period = .ok c) :
    refusal? gearing scales = none ∧ ∃ positive : 0 < period,
      c =
        { scales := scales
          gearing := gearing
          period := period
          period_pos := positive
          distance := distance
          turn := turn
          angle := angle
          mode := .none
          idle := true
          fresh := false
          baseline := ⟨0, 0⟩
          lastMode := .none
          mirrored := false
          moveThreshold := .zero
          turnThreshold := .zero } := by
  unfold create at h
  split at h
  · cases h
  · rename_i accepted
    split at h
    · rename_i positive
      cases h
      exact ⟨accepted, positive, rfl⟩
    · cases h

/-- **What holds of a controller just created.** -/
structure AtRest (c : Controller α) : Prop where
  mode : c.mode = .none
  idle : c.idle = true
  fresh : c.fresh = false
  mirrored : c.mirrored = false

theorem of_create {distance turn angle : Loop α} {gearing : Gearing α} {scales : Scales α}
    {period : Nat} {c : Controller α}
    (h : create distance turn angle gearing scales period = .ok c) : c.AtRest := by
  obtain ⟨-, positive, rfl⟩ := eq_of_create h
  exact ⟨rfl, rfl, rfl, rfl⟩

/-- A request that starts no motion leaves the posture, unless it is a stop. -/
theorem posture_adjust (c : Controller α) {r : Request α} (hr : r.maneuver? = none) :
    (c.adjust r).posture = c.posture := by
  cases r with
  | stop => simp [Request.maneuver?] at hr
  | _ => rfl

theorem adjust_wired (c : Controller α) (r : Request α) : c.Wired (c.adjust r) := by
  cases r with
  | stop =>
      refine ⟨rfl, rfl, rfl, fun slot => ?_⟩
      cases slot <;> exact Loop.settle?_setDisabled ..
  | _ => exact ⟨rfl, rfl, rfl, fun _ => rfl⟩

theorem launch_wired (c : Controller α) (m : Motion α) : c.Wired (c.launch m) := by
  cases m with
  | move x =>
      refine ⟨rfl, rfl, rfl, fun slot => ?_⟩
      cases slot <;> simp [settle?, launch, beginMove]
  | turn x mirrored =>
      refine ⟨rfl, rfl, rfl, fun slot => ?_⟩
      cases slot <;> simp [settle?, launch, beginTurn]

omit [Scalar α] in
theorem finish_wired (c : Controller α) : c.Wired c.finish := by
  refine ⟨rfl, rfl, rfl, fun slot => ?_⟩
  cases slot <;> exact Loop.settle?_setDisabled ..

theorem cycle_wired (c : Controller α) (samples : Samples) (now : Nat) :
    c.Wired (c.cycle samples now).1 := by
  have rebased : c.Wired (c.rebased samples.baseline) := ⟨rfl, rfl, rfl, fun _ => rfl⟩
  exact rebased.trans (c.cycle_resembles samples now).wired

/-! ### What a poll comes to -/

/-- **Whether the loops of a mode report that they have settled**: on a straight move both of its
loops, on a turn its one. -/
def Reports (c : Controller α) (now : Nat) : Mode → Prop
  | .none => True
  | .distance => (c.distance.checkSettled now).1 ∧ (c.angle.checkSettled now).1
  | .angle => (c.turn.checkSettled now).1

theorem checkSettled_iff (c : Controller α) (now : Nat) (mode : Mode) :
    (c.checkSettled now mode).1 = true ↔ c.Reports now mode := by
  cases mode with
  | none => simp [checkSettled, Reports]
  | angle => rfl
  | distance =>
      unfold checkSettled Reports
      cases h : (c.distance.checkSettled now).1 <;> simp [h]

/-- **What a poll comes to**: the mode watched has given way, or its loops report, or they do
not. -/
theorem poll_cases (c : Controller α) (watched : Mode) (now : Nat) :
    (c.poll watched now = (.superseded, c) ∧ c.mode ≠ watched) ∨
    (c.poll watched now = (.pending, (c.checkSettled now watched).2) ∧ c.mode = watched ∧
      ¬ c.Reports now watched) ∨
    (c.poll watched now = (.finished, (c.checkSettled now watched).2.finish) ∧ c.mode = watched ∧
      c.Reports now watched) := by
  unfold poll
  by_cases hm : c.mode = watched
  · rw [if_neg (not_not_intro hm)]
    have hr := c.checkSettled_iff now watched
    cases h : (c.checkSettled now watched).1 with
    | true => exact .inr (.inr ⟨by simp [h], hm, hr.1 h⟩)
    | false => exact .inr (.inl ⟨by simp [h], hm, fun reports => by simp [hr.2 reports] at h⟩)
  · exact .inl ⟨if_pos hm, hm⟩

end Controller

end Drivetrain
