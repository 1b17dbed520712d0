/-
What a run shows to the outside: the orders that the motors are given, and the waits that return.

Three steps give orders to motors: a request to stop, a poll that finished, and a cycle that has
something to do.  All else that happens to the motors is done by hand, past the controller.

Main definitions:

* `Drivetrain.Shared.trace` — what the steps of a run show, each with its instant;
* `Drivetrain.Shared.maneuver?`, `Drivetrain.Shared.orders?` — what a step asks of the chassis, and
  the order that each wheel gets by it;
* `Drivetrain.Shared.commands`, `Drivetrain.Shared.returns` — the orders given in a run, and the
  waits that return.

Main results:

* `Drivetrain.Shared.drive_after` — the drive **follows the maneuver** of a step, and nothing else
  that the controller does reaches it;
* `Drivetrain.Shared.full_replay` — full speed is the same throughout a run.
-/

import Drivetrain.Proofs.Shared

set_option relaxedAutoImplicit false
set_option autoImplicit false

namespace Drivetrain

variable {α : Type} [Scalar α]

namespace Drive

theorem full_direct (d : Drive α) (now : Nat) (side : Side) (v : Int16) :
    (d.direct now side v).full = d.full := by
  unfold direct
  split <;> rfl

/-- Nothing that is done to a drive changes what full speed is. -/
theorem full_perform (d : Drive α) (now : Nat) (a : Action α) :
    (d.perform now a).full = d.full := by
  cases a with
  | resetSensors => simp only [perform, resetSensors]; split <;> rfl
  | placeSensor side x => simp only [perform, placeSensor]; split <;> rfl
  | sense => simp only [perform, sense]; split <;> rfl
  | direct side v => exact d.full_direct now side v
  | _ => rfl

end Drive

namespace Shared

/-! ### Traces -/

/-- **What the steps of a run show**, each with its instant, the newest first. -/
def trace {β : Type} (shows? : Shared α → Event α → Option β) (s : Shared α) :
    List (Event α) → List (Nat × β)
  | [] => []
  | e :: past =>
      match shows? (replay s past) e with
      | some x => ((replay s past).now, x) :: trace shows? s past
      | none => trace shows? s past

section Trace

variable {β : Type} {shows? : Shared α → Event α → Option β}

theorem trace_cons_of_none {s : Shared α} {past : List (Event α)} {e : Event α}
    (h : shows? (replay s past) e = none) :
    trace shows? s (e :: past) = trace shows? s past := by
  simp only [trace, h]

/-- What a run has shown it keeps as it goes on. -/
theorem trace_suffix (s : Shared α) (e : Event α) (past : List (Event α)) :
    trace shows? s past <:+ trace shows? s (e :: past) := by
  rw [trace]
  split
  · exact List.suffix_cons ..
  · exact List.suffix_rfl

/-- What holds of all that a run has shown holds of what it shows next and of what it showed
before. -/
theorem forall_mem_trace_cons {s : Shared α} {past : List (Event α)} {e : Event α}
    {P : Nat × β → Prop} :
    (∀ c ∈ trace shows? s (e :: past), P c) ↔
      (∀ x, shows? (replay s past) e = some x → P ((replay s past).now, x)) ∧
        ∀ c ∈ trace shows? s past, P c := by
  cases h : shows? (replay s past) e with
  | none => simp [trace_cons_of_none h]
  | some x => simp [trace, h]

/-- Two runs that have shown the same, and now show the same at the same instant, have shown the
same. -/
theorem trace_cons_congr {s s' : Shared α} {past past' : List (Event α)} {e e' : Event α}
    (before : trace shows? s past = trace shows? s' past')
    (now : (replay s past).now = (replay s' past').now)
    (shown : shows? (replay s past) e = shows? (replay s' past') e') :
    trace shows? s (e :: past) = trace shows? s' (e' :: past') := by
  simp only [trace, before, now, shown]

/-- Two runs of which one has shown what the other has, up to a change, and which now do so at the
same instant. -/
theorem trace_cons_map {f : β → β} {s s' : Shared α} {past past' : List (Event α)} {e e' : Event α}
    (before : trace shows? s' past' = (trace shows? s past).map (Prod.map id f))
    (now : (replay s' past').now = (replay s past).now)
    (shown : shows? (replay s' past') e' = (shows? (replay s past) e).map f) :
    trace shows? s' (e' :: past') = (trace shows? s (e :: past)).map (Prod.map id f) := by
  cases h : shows? (replay s past) e with
  | none => rw [trace_cons_of_none h, trace_cons_of_none (by rw [shown, h]; rfl), before]
  | some x =>
      rw [h, Option.map_some] at shown
      simp only [trace, h, shown, before, now, List.map_cons, Prod.map_apply, id]

end Trace

/-! ### Orders -/

/-- What a step asks of the chassis, if it does. -/
def maneuver? (s : Shared α) : Event α → Option (Maneuver α)
  | .ask _ r => r.maneuver?
  | .poll _ .finished => some .stop
  | .work samples => (s.controller.cycle samples s.now).2
  | _ => none

/-- **The order that each wheel gets by a step**, if the step gives any. -/
def orders? (s : Shared α) (e : Event α) : Option (Wheel → Option MotorOrder) :=
  (s.maneuver? e).map fun m => m.order? s.drive.full

/-- The client whose wait returns with a step. -/
def returned? (_ : Shared α) : Event α → Option Nat
  | .poll i .finished => some i
  | _ => none

/-- **The orders given in a run.** -/
def commands (s : Shared α) (run : List (Event α)) : List (Nat × (Wheel → Option MotorOrder)) :=
  trace orders? s run

/-- **The waits that return in a run.** -/
def returns (s : Shared α) (run : List (Event α)) : List (Nat × Nat) := trace returned? s run

/-! ### What becomes of the drive -/

/-- A request whose motion is accepted asks nothing of the chassis yet. -/
theorem maneuver?_of_motion? {c : Controller α} {r : Controller.Request α}
    {m : Controller.Motion α} (h : c.motion? r = some m) : r.maneuver? = none := by
  cases r with
  | stop => cases h
  | _ => rfl

/-- **The drive follows the maneuver of a step**, unless the step is a hand that acts on it. -/
theorem drive_after {s : Shared α} {e : Event α} (enabled : s.Enabled e) (he : ∀ a, e ≠ .act a) :
    (s.after e).drive = (s.steer (s.maneuver? e)).drive := by
  cases e with
  | ask i r =>
      cases hm : s.controller.motion? r with
      | some m => rw [after_ask_of_accepted hm, maneuver?, maneuver?_of_motion? hm]; rfl
      | none => rw [after_ask_of_none hm, maneuver?]; cases r.maneuver? <;> rfl
  | launch i =>
      obtain ⟨m, -, e⟩ := launch_cases enabled
      rw [e]
      rfl
  | poll i verdict =>
      obtain ⟨watched, -, ⟨rfl, -, e⟩ | ⟨rfl, -, -, e⟩ | ⟨rfl, -, -, e⟩⟩ := poll_cases enabled
      all_goals rw [e]; rfl
  | work samples =>
      simp only [after, maneuver?]
      cases (s.controller.cycle samples s.now).2 <;> rfl
  | act a => exact absurd rfl (he a)
  | _ => rfl

/-- Time passes in no other step than the one it passes in. -/
theorem now_after {s : Shared α} {e : Event α} (enabled : s.Enabled e) (he : ∀ d, e ≠ .pass d) :
    (s.after e).now = s.now := by
  cases e with
  | ask i r =>
      cases hm : s.controller.motion? r with
      | some m => rw [after_ask_of_accepted hm]; rfl
      | none => rw [after_ask_of_none hm, now_steer]
  | launch i =>
      obtain ⟨m, -, e⟩ := launch_cases enabled
      rw [e]
      rfl
  | poll i verdict =>
      obtain ⟨watched, -, ⟨-, -, e⟩ | ⟨-, -, -, e⟩ | ⟨-, -, -, e⟩⟩ := poll_cases enabled
      · rw [e]; rfl
      · rw [e]
      · rw [e]; exact now_steer ..
  | work samples => rw [after_work, now_steer]
  | pass d => exact absurd rfl (he d)
  | _ => rfl

theorem now_le_after {s : Shared α} {e : Event α} (enabled : s.Enabled e) :
    s.now ≤ (s.after e).now := by
  by_cases passes : ∃ d, e = .pass d
  · obtain ⟨d, rfl⟩ := passes
    exact Nat.le_add_right ..
  · exact Nat.le_of_eq (now_after enabled (not_exists.1 passes)).symm

theorem full_steer (s : Shared α) (m : Option (Maneuver α)) :
    (s.steer m).drive.full = s.drive.full := by
  cases m <;> rfl

theorem full_after {s : Shared α} {e : Event α} (enabled : s.Enabled e) :
    (s.after e).drive.full = s.drive.full := by
  cases e with
  | act a => exact s.drive.full_perform s.now a
  | _ => rw [drive_after enabled nofun, full_steer]

/-- Full speed is the same throughout a run. -/
theorem full_replay {s : Shared α} {past : List (Event α)} (possible : Possible s past) :
    (replay s past).drive.full = s.drive.full := by
  refine Possible.invariant (P := fun _ t => t.drive.full = s.drive.full) rfl ?_ possible
  intro past e _ enabled h
  exact (full_after enabled).trans h

end Shared

end Drivetrain
