/-
What loops remember of their steps, and when they forget it.

A launch makes the loops of its mode forget, a cycle gives them something to remember, and nothing
else touches what they remember.  So a motion that no cycle has seen has loops that remember
nothing.

Main definitions:

* `Drivetrain.Loop.Kept` — what of a loop only a renewal and a step can change;
* `Drivetrain.Loop.memory` — the integral of a position loop, and its last reading.

Main results:

* `Drivetrain.Loop.Kept.after` — only a launch and a cycle change what is kept;
* `Drivetrain.Shared.memory_of_unseen` — the loops of a motion that no cycle has seen **remember
  nothing**.
-/

import Drivetrain.Proofs.Forgetting

set_option relaxedAutoImplicit false
set_option autoImplicit false

namespace Drivetrain

variable {α : Type}

namespace Loop

/-- **What of a loop only a renewal and a step can change**: neither the switch, nor a script, nor a
check does. -/
structure Kept [Scalar α] {β : Type} (f : Loop α → β) : Prop where
  setDisabled : ∀ b l, f (l.setDisabled b) = f l
  script : ∀ g l, f (l.script g) = f l
  checkSettled : ∀ now l, f (l.checkSettled now).2 = f l

/-- **What a position loop remembers of its steps**: its integral, and its last reading. -/
def memory : Loop α → Option (α × Option α)
  | position p => some (p.integral, p.lastReading)
  | scripted _ => none

variable [Scalar α]

theorem kept_memory : Kept (memory : Loop α → Option (α × Option α)) where
  setDisabled b l := by cases l <;> rfl
  script g l := by cases l <;> rfl
  checkSettled now l := by
    cases l with
    | scripted s => rfl
    | position p =>
        cases h : p.disabled with
        | true => simp only [checkSettled, Pid.checkSettled_of_disabled h]
        | false => simp only [checkSettled, Pid.checkSettled_of_enabled h, memory]

/-- A loop that was just set on a target remembers nothing. -/
theorem memory_renewed {l : Loop α} (real : l.settle?.isSome) (target : α) :
    ((l.reset.setDisabled false).setTarget target).memory = some (0, none) := by
  cases l with
  | scripted s => cases real
  | position p => rfl

end Loop

namespace Loop.Kept

variable [Scalar α] {β : Type} {f : Loop α → β}

theorem disableAll (h : Kept f) (c : Controller α) (slot : Slot) :
    f (c.disableAll.loop slot) = f (c.loop slot) := by
  cases slot <;> exact h.setDisabled ..

theorem finish (h : Kept f) (c : Controller α) (slot : Slot) :
    f (c.finish.loop slot) = f (c.loop slot) := by
  cases slot <;> exact h.setDisabled ..

theorem scripting (h : Kept f) (c : Controller α) (told slot : Slot)
    (g : ScriptedLoop α → ScriptedLoop α) : f ((c.script told g).loop slot) = f (c.loop slot) := by
  cases told <;> cases slot <;> simp [Controller.script, Controller.loop, h.script]

theorem checking (h : Kept f) (c : Controller α) (now : Nat) (mode : Mode) (slot : Slot) :
    f ((c.checkSettled now mode).2.loop slot) = f (c.loop slot) := by
  cases mode with
  | none => rfl
  | angle => cases slot <;> simp [Controller.loop, Controller.checkSettled, h.checkSettled]
  | distance =>
      by_cases there : (c.distance.checkSettled now).1 = true
      · rw [Controller.checkSettled_distance_of_settled there]
        cases slot <;> simp [Controller.loop, h.checkSettled]
      · rw [Controller.checkSettled_distance_of_unsettled there]
        cases slot <;> simp [Controller.loop, h.checkSettled]

end Loop.Kept

namespace Controller

variable [Scalar α]

/-- The loops of a motion just launched remember nothing. -/
theorem memory_launch {c : Controller α} (real : c.Positional) (m : Motion α) :
    ∀ slot ∈ (c.launch m).mode.slots, ((c.launch m).loop slot).memory = some (0, none) := by
  have renewed := fun slot => Loop.memory_renewed (c.settle?_loop slot ▸ real slot)
  cases m with
  | move x => exact Mode.forall_slots_distance.2 ⟨renewed .distance _, renewed .angle _⟩
  | turn x mirrored => exact Mode.forall_slots_angle.2 (renewed .turn _)

end Controller

namespace Shared

variable [Scalar α]

/-- Whether an event changes what loops remember of their steps. -/
def Event.stirs : Event α → Bool
  | .launch _ | .work _ => true
  | _ => false

end Shared

open Shared in
/-- **Only a launch and a cycle change what is kept.** -/
theorem Loop.Kept.after [Scalar α] {β : Type} {f : Loop α → β} (h : Kept f) {s : Shared α}
    {e : Event α} (enabled : s.Enabled e) (he : e.stirs = false) (slot : Slot) :
    f ((s.after e).controller.loop slot) = f (s.controller.loop slot) := by
  cases e with
  | ask i r =>
      cases hr : s.controller.motion? r with
      | some m => rw [after_ask_of_accepted hr]; rfl
      | none =>
          rw [after_ask_of_none hr, controller_steer]
          cases r with
          | stop => exact h.disableAll s.controller slot
          | _ => rfl
  | launch i => cases he
  | work samples => cases he
  | poll i verdict =>
      have checked := fun watched => h.checking s.controller s.now watched slot
      obtain ⟨watched, -, ⟨-, -, e⟩ | ⟨-, -, -, e⟩ | ⟨-, -, -, e⟩⟩ := poll_cases enabled
      · rw [e]; rfl
      · rw [e]; exact checked watched
      · rw [e]; exact (h.finish _ slot).trans (checked watched)
  | scriptOutput told x => exact h.scripting ..
  | scriptSettled told b => exact h.scripting ..
  | start baseline => cases slot <;> rfl
  | _ => rfl

namespace Shared

variable [Scalar α]

theorem memory_after {s : Shared α} {e : Event α} (enabled : s.Enabled e) (he : e.stirs = false)
    (slot : Slot) :
    ((s.after e).controller.loop slot).memory = (s.controller.loop slot).memory :=
  Loop.kept_memory.after enabled he slot

/-- Only a launch brings a mode that was not there before, but for that of nothing. -/
theorem mode_after_eq {s : Shared α} {e : Event α} (enabled : s.Enabled e)
    (he : ∀ i, e ≠ .launch i) (moving : (s.after e).controller.mode ≠ .none) :
    (s.after e).controller.mode = s.controller.mode := by
  cases hd : e.decides with
  | false => exact congrArg Controller.Posture.mode (posture_after enabled hd)
  | true =>
      cases e with
      | launch i => exact absurd rfl (he i)
      | ask i r =>
          cases r with
          | stop => rfl
          | _ => cases hd
      | poll i verdict =>
          cases verdict with
          | finished => exact absurd (ended_after enabled).2.2.mode moving
          | _ => cases hd
      | _ => cases hd

/-- **The loops of a motion that no cycle has seen remember nothing.** -/
theorem memory_of_unseen {s₀ : Shared α} (opened : s₀.Opened) (real : s₀.controller.Positional)
    {past : List (Event α)} (possible : Possible s₀ past) (unseen : origin past = none) :
    ∀ slot ∈ (replay s₀ past).controller.mode.slots,
      ((replay s₀ past).controller.loop slot).memory = some (0, none) := by
  -- induction on the history, back to the launch
  induction past with
  | nil =>
      obtain ⟨⟨distance, turn, angle, gearing, scales, period, created⟩, -, -⟩ := opened
      intro slot hs
      rw [replay_nil, (Controller.of_create created).mode] at hs
      cases hs
  | cons e past ih =>
      obtain ⟨before, enabled⟩ := possible
      intro slot hs
      cases he : e.stirs with
      | true =>
          cases e with
          | launch i =>
              obtain ⟨m, -, launched⟩ := launch_cases enabled
              rw [replay_cons, launched] at hs ⊢
              exact Controller.memory_launch ((wired_replay before).positional real) m slot hs
          | work samples => cases unseen
          | _ => cases he
      | false =>
          have unseen' : origin past = none := by
            cases e with
            | launch i => cases he
            | work samples => cases he
            | _ => exact unseen
          have moving : ((replay s₀ past).after e).controller.mode ≠ .none := by
            intro still
            rw [replay_cons, still] at hs
            cases hs
          have same := mode_after_eq enabled (by rintro i rfl; cases he) moving
          rw [replay_cons, same] at hs
          rw [replay_cons, memory_after enabled he]
          exact ih before unseen' slot hs

end Shared

end Drivetrain
