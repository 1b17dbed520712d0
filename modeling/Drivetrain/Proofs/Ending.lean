/-
How motions end and waits return.

A wait returns, and a motion ends, in one kind of step only: a poll whose client watches the very
mode that the controller is in, at a moment when the loops of that mode report.  A client whose mode
has given way to another is sent back to look again, so no motion is ended on the report of loops
that a later motion has left behind.

Main definitions:

* `Drivetrain.Motor.Halted` — whether the last order of a motor was to stand still;
* `Drivetrain.Drive.velocities?` — what two motors of a bench were last told;
* `Drivetrain.Shared.Ended` — a controller that has just ended its motion;
* `Drivetrain.Shared.Event.ends` — whether an event is a poll that finished.

Main results:

* `Drivetrain.Shared.mode_after`, `Drivetrain.Shared.waits_after` — no other event ends a motion,
  and none lets a wait return;
* `Drivetrain.Shared.ended_after` — a poll that finished leaves every loop off and every motor at
  rest;
* `Drivetrain.Shared.ends_only_settled` — **motions end and waits return only settled**.
-/

import Drivetrain.Proofs.Course

set_option relaxedAutoImplicit false
set_option autoImplicit false

namespace Drivetrain

variable {α : Type} [Scalar α]

/-- Whether the last order of a motor was to stand still, given at an instant. -/
def Motor.Halted (now : Nat) (m : Motor α) : Prop := ∃ before : Motor α,
  m = before.obey now (.velocity 0)

/-- A motor on the bench was halted if the last velocity it was given is zero. -/
theorem Motor.halted_bench (now : Nat) (m : BenchMotor α) :
    (Motor.bench m).Halted now ↔ m.velocity = 0 := by
  constructor
  · rintro ⟨before, h⟩
    cases before with
    | bench b => cases h; rfl
    | simulated b => cases h
  · intro h
    refine ⟨.bench m, ?_⟩
    rw [obey, BenchMotor.obey, ← h]

/-- The velocities that two motors of a bench were last given. -/
def Drive.velocities? {α : Type} (d : Drive α) : Option (Sides Int16) :=
  match d.motors with
  | .pair (.bench l) (.bench r) => some ⟨l.velocity, r.velocity⟩
  | _ => none

theorem Drive.halted_of_stop (d : Drive α) (now : Nat) :
    ∀ m ∈ (d.steer now .stop).motors.toList, m.Halted now := by
  intro m hm
  cases h : d.motors <;> simp only [steer, h, Wheels.map, Wheels.toList, Maneuver.order?] at hm
  all_goals
    simp only [List.mem_cons, List.not_mem_nil, or_false] at hm
    rcases hm with rfl | hm
    · exact ⟨_, rfl⟩
  · exact ⟨_, hm⟩
  · rcases hm with rfl | rfl | rfl <;> exact ⟨_, rfl⟩

namespace Shared

/-- **A controller that has just ended its motion**: it does nothing, its loops are switched off and
its motors stand still. -/
structure Ended (s : Shared α) : Prop where
  mode : s.controller.mode = .none
  idle : s.controller.idle = true
  distance : s.controller.distance.isDisabled = true
  turn : s.controller.turn.isDisabled = true
  angle : s.controller.angle.isDisabled = true
  motors : ∀ m ∈ s.drive.motors.toList, m.Halted s.now

/-- Motors of a bench were last given no velocity then. -/
theorem Ended.velocities {s : Shared α} (ended : s.Ended) {v : Sides Int16}
    (given : s.drive.velocities? = some v) : v = ⟨0, 0⟩ := by
  have halted := ended.motors
  unfold Drive.velocities? at given
  split at given
  · rename_i l r pair
    obtain rfl := Option.some.inj given
    simp only [pair, Wheels.toList, List.forall_mem_cons, Motor.halted_bench] at halted
    rw [halted.1, halted.2.1]
  · cases given

/-- Whether an event is a poll that finished. -/
def Event.ends : Event α → Bool
  | .poll _ .finished => true
  | _ => false

omit [Scalar α] in
theorem Event.ends_iff {e : Event α} : e.ends = true ↔ ∃ i, e = .poll i .finished := by
  constructor
  · intro h
    unfold Event.ends at h
    split at h
    · exact ⟨_, rfl⟩
    · cases h
  · rintro ⟨i, rfl⟩
    rfl

/-- Only a poll that finished takes a controller out of its motion. -/
theorem mode_after {s : Shared α} {e : Event α} (enabled : s.Enabled e) (he : e.ends = false)
    (h : s.controller.mode ≠ .none) : (s.after e).controller.mode ≠ .none := by
  cases hd : e.decides with
  | false =>
      have kept := congrArg Controller.Posture.mode (posture_after enabled hd)
      exact fun ended => h (kept.symm.trans ended)
  | true =>
      cases e with
      | ask i r =>
          cases r with
          | stop => exact h -- a stop leaves the mode
          | _ => simp [Event.decides] at hd
      | launch i =>
          obtain ⟨m, -, e⟩ := launch_cases enabled
          rw [e]
          intro ended
          cases m <;> cases ended
      | poll i verdict => cases verdict <;> simp [Event.decides, Event.ends] at hd he
      | _ => simp [Event.decides] at hd

omit [Scalar α] in
theorem waits_setClient {s : Shared α} {i j : Nat} {c : Client α} (hc : j = i → c.waits = true)
    (h : (s.clients j).waits = true) : ((s.setClient i c).clients j).waits = true := by
  by_cases hj : j = i
  · subst hj
    rw [clients_setClient_self]
    exact hc rfl
  · rwa [clients_setClient_of_ne s hj]

/-- Only a poll that finished lets a wait return. -/
theorem waits_after {s : Shared α} {e : Event α} (enabled : s.Enabled e) (he : e.ends = false)
    {j : Nat} (h : (s.clients j).waits = true) : ((s.after e).clients j).waits = true := by
  cases e with
  | ask i r =>
      cases hr : s.controller.motion? r with
      | some m =>
          rw [after_ask_of_accepted hr]
          refine waits_setClient ?_ h
          -- a client that waits asks for nothing
          rintro rfl
          cases hc : s.clients j <;>
            simp_all [Enabled, Client.isFree, Client.waits, Client.isDeciding, Client.watched?]
      | none => rwa [after_ask_of_none hr, clients_steer]
  | launch i =>
      obtain ⟨m, hm, e⟩ := launch_cases enabled
      rw [e]
      refine waits_setClient ?_ h
      -- a client that waits has no motion to launch
      rintro rfl
      cases hc : s.clients j <;>
        simp_all [Client.motion?, Client.waits, Client.isDeciding, Client.watched?]
  | poll i verdict =>
      obtain ⟨watched, hw, ⟨rfl, -, e⟩ | ⟨rfl, -, -, e⟩ | ⟨rfl, -⟩⟩ := poll_cases enabled
      · rw [e]; exact waits_setClient (fun _ => rfl) h
      · rw [e]; exact h
      · simp [Event.ends] at he
  | wait i => exact waits_setClient (fun _ => rfl) h
  | look i => exact waits_setClient (fun _ => rfl) h
  | work samples => rwa [clients_after_work]
  | _ => exact h

/-- **What a poll that finished leaves.** -/
theorem ended_after {s : Shared α} {i : Nat} (enabled : s.Enabled (.poll i .finished)) :
    (s.clients i).watched? = some s.controller.mode ∧
      s.controller.Reports s.now s.controller.mode ∧ (s.after (.poll i .finished)).Ended := by
  obtain ⟨watched, hw, ⟨⟨⟩, -⟩ | ⟨⟨⟩, -⟩ | ⟨-, rfl, reports, e⟩⟩ := poll_cases enabled
  refine ⟨hw, reports, ?_⟩
  rw [e]
  exact
    { mode := rfl
      idle := rfl
      distance := Loop.isDisabled_setDisabled ..
      turn := Loop.isDisabled_setDisabled ..
      angle := Loop.isDisabled_setDisabled ..
      motors := s.drive.halted_of_stop s.now }

/-- **Motions end and waits return only settled.**  Whatever the threads do, if a step takes the
controller out of a motion or lets a wait return, it is a poll that finished: its client watches the
mode that the controller is in, the loops of that mode, set on the last motion that was launched,
report at this very moment, and the step leaves every loop off and every motor at rest. -/
theorem ends_only_settled {s₀ : Shared α} (opened : s₀.Opened) {e : Event α}
    {past : List (Event α)} (possible : Possible s₀ (e :: past))
    (ends : ((replay s₀ past).controller.mode ≠ .none ∧
        (replay s₀ (e :: past)).controller.mode = .none) ∨
      ∃ i, ((replay s₀ past).clients i).waits = true ∧
        ((replay s₀ (e :: past)).clients i).waits = false) :
    ∃ i, e = .poll i .finished ∧
      ((replay s₀ past).clients i).watched? = some (replay s₀ past).controller.mode ∧
      (replay s₀ past).controller.Reports (replay s₀ past).now (replay s₀ past).controller.mode ∧
      (course s₀.controller past).Fits s₀.controller (replay s₀ past).controller.posture ∧
      (replay s₀ (e :: past)).Ended := by
  obtain ⟨before, enabled⟩ := possible
  have finished : e.ends = true := by
    by_contra he
    rw [Bool.not_eq_true] at he
    rcases ends with ⟨moving, still⟩ | ⟨j, waits, returned⟩
    · exact mode_after enabled he moving still
    · have waits' := waits_after enabled he waits
      rw [← replay_cons, returned] at waits'
      cases waits'
  obtain ⟨i, rfl⟩ := Event.ends_iff.1 finished
  obtain ⟨watched, reports, ended⟩ := ended_after enabled
  exact ⟨i, rfl, watched, reports, (before.tracks opened).fits, ended⟩

/-- A client waits for a turn while a move takes its place, and the scripted loops of both report
one after the other.  The cycle drives on the move, at half speed, before its loops report. -/
def preemptedTurn : List (Event Float) :=
  [.scriptSettled .angle true, .scriptSettled .distance true, .work ⟨⟨0, 0⟩, ⟨0, 0⟩⟩, .wake,
    .scriptOutput .distance 0.5, .look 1, .poll 1 .superseded, .launch 0, .ask 0 (.move ⟨1⟩),
    .scriptSettled .turn true, .poll 1 .pending, .look 1, .wait 1, .launch 0, .ask 0 (.turn ⟨90⟩),
    .start ⟨0, 0⟩]

/-- The client is not content with the loop of the turn: it looks again, and returns when both loops
of the move report.  The motors, which turn until then, are told to stand still. -/
theorem ends_only_settled_of_preemptedTurn :
    Possible scripted (.poll 1 .finished :: preemptedTurn) ∧
      (replay scripted preemptedTurn).controller.mode = .distance ∧
      (replay scripted preemptedTurn).drive.velocities? = some ⟨100, 100⟩ ∧
      (replay scripted (.poll 1 .finished :: preemptedTurn)).Ended ∧
      (replay scripted (.poll 1 .finished :: preemptedTurn)).drive.velocities? = some ⟨0, 0⟩ := by
  have possible : Possible scripted (.poll 1 .finished :: preemptedTurn) := by decide +kernel
  obtain ⟨-, -, -, -, -, ended⟩ :=
    ends_only_settled opened_scripted possible (.inr ⟨1, by decide +kernel, by decide +kernel⟩)
  have bench : (replay scripted (.poll 1 .finished :: preemptedTurn)).drive.velocities?.isSome := by
    decide +kernel
  obtain ⟨v, given⟩ := Option.isSome_iff_exists.1 bench
  refine ⟨possible, by decide +kernel, by decide +kernel, ended, ?_⟩
  rw [given, ended.velocities given]

end Shared

end Drivetrain
