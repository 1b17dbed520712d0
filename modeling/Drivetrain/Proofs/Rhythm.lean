/-
The rhythm of cycles and polls: whether a motion is worked on before a wait finishes it.

Loops that were just set on a motion report no error, so all that keeps a wait from finishing a
motion that no cycle has seen is time.  The first poll of it only starts a settle timer; the next
one comes a period later, and by then a cycle has come, whose period is the same.

That holds as long as the client is never late.  One that has overslept polls late, and comes again
at its next deadline, which is less than a period away, or at once.  Then there may be no cycle
between the two, and with a settle time of zero the wait finishes a motion that nothing has worked
on.

Main definitions:

* `Drivetrain.Shared.cyclePace`, `Drivetrain.Shared.waitPace` — the pace of the cycle and that of
  the client who waits, by the history;
* `Drivetrain.Shared.Timely` — whether a history keeps time: cycles run when they are due and take
  no time, and the one client who waits never polls before its deadline, nor before a cycle that is
  due;
* `Drivetrain.Shared.worked`, `Drivetrain.Shared.overslept` — whether a cycle has run since the last
  launch, and whether a poll since then was late.

Main results:

* `Drivetrain.Shared.Possible.paced` — **the invariant of every run that keeps time**;
* `Drivetrain.Shared.worked_before_finished` — a motion that a wait finishes was worked on, **unless
  the client was late**;
* `Drivetrain.Shared.finished_unworked` — a run in which it was, and nothing had worked on the
  motion.
-/

import Drivetrain.Pace
import Drivetrain.Proofs.Holding

set_option relaxedAutoImplicit false
set_option autoImplicit false

namespace Drivetrain

variable {α : Type} [Scalar α]

/-! ### The timer of a mode -/

namespace Loop

/-- Since when a loop that is switched on has been within tolerance, if it is. -/
def timer (l : Loop α) : Option Nat :=
  match l.clock with
  | some (false, s) => s.enteredAt
  | _ => none

omit [Scalar α] in
theorem timer_of_clock {l l' : Loop α} (h : l'.clock = l.clock) : l'.timer = l.timer := by
  simp only [timer, h]

omit [Scalar α] in
theorem timer_setDisabled (l : Loop α) : (l.setDisabled true).timer = none := by
  cases l <;> rfl

theorem timer_renewed (l : Loop α) (target : α) :
    ((l.reset.setDisabled false).setTarget target).timer = none := by
  cases l <;> rfl

/-- A loop that reports was within tolerance before it was asked. -/
theorem timer_of_settled {l : Loop α} (real : l.settle?.isSome) (on : l.isDisabled = false)
    {now : Nat} (h : (l.checkSettled now).1 = true) : l.timer.isSome := by
  obtain ⟨settings, hs⟩ := Option.isSome_iff_exists.1 real
  obtain ⟨s, clock, -⟩ := clock_of_settle? hs on
  rw [(clock_checkSettled clock now).1] at h
  obtain ⟨-, t, running, -⟩ := Settling.of_check h
  simp only [timer, clock, running, Option.isSome_some]

end Loop

namespace Controller

/-- The timer of the loop that a poll asks first. -/
def timer (c : Controller α) : Option Nat :=
  match c.mode with
  | .none => none
  | .distance => c.distance.timer
  | .angle => c.turn.timer

omit [Scalar α] in
theorem timer_of_none {c : Controller α} (h : c.mode = .none) : c.timer = none := by
  simp only [timer, h]

theorem timer_launch (c : Controller α) (m : Motion α) : (c.launch m).timer = none := by
  cases m <;> exact Loop.timer_renewed ..

omit [Scalar α] in
theorem timer_disableAll (c : Controller α) : c.disableAll.timer = none := by
  unfold timer
  split
  · rfl
  · exact Loop.timer_setDisabled _
  · exact Loop.timer_setDisabled _

theorem timer_cycle (c : Controller α) (samples : Samples) (now : Nat) :
    (c.cycle samples now).1.timer = c.timer := by
  cases h : c.mode with
  | none =>
      rw [cycle_of_none h, timer_of_none h]
      exact timer_of_none h
  | distance =>
      rw [cycle_of_distance h]
      simp only [timer, rebased, h]
      exact Loop.timer_of_clock (Loop.clock_step ..)
  | angle =>
      rw [cycle_of_angle h]
      simp only [timer, rebased, h]
      exact Loop.timer_of_clock (Loop.clock_step ..)

omit [Scalar α] in
theorem timer_script (c : Controller α) (slot : Slot) (f : ScriptedLoop α → ScriptedLoop α) :
    (c.script slot f).timer = c.timer := by
  have same := fun l : Loop α => Loop.timer_of_clock (l.clock_script f)
  cases slot <;> cases h : c.mode <;> simp only [timer, script, h, same]

end Controller

namespace Shared

/-! ### Paces -/

/-- **The pace of the cycle**, by the history: it starts with its thread, and every look of the
thread that is done with its work sets the next deadline. -/
def cyclePace (s₀ : Shared α) : List (Event α) → Option Pace
  | [] => none
  | .start _ :: past => some (.startingAt (replay s₀ past).now)
  | .wake :: past =>
      if (replay s₀ past).controller.idle then
        (cyclePace s₀ past).map (·.next s₀.controller.period (replay s₀ past).now)
      else cyclePace s₀ past
  | .work _ :: past => (cyclePace s₀ past).map (·.next s₀.controller.period (replay s₀ past).now)
  | _ :: past => cyclePace s₀ past

/-- **The pace of the client who waits**, by the history: it starts with the wait, and every poll
that leaves the motion going on sets the next deadline. -/
def waitPace (s₀ : Shared α) : List (Event α) → Option Pace
  | [] => none
  | .wait _ :: past => some (.startingAt (replay s₀ past).now)
  | .poll _ .pending :: past =>
      (waitPace s₀ past).map (·.next s₀.controller.period (replay s₀ past).now)
  | .poll _ .finished :: _ => none
  | _ :: past => waitPace s₀ past

/-- Whether an event keeps time.  Time does not pass while the cycle works, nor over its deadline;
the thread of the cycle looks when it is due; one client waits at a time; and a poll comes at its
deadline or later, when every cycle due has run. -/
def InTime (s₀ : Shared α) (past : List (Event α)) : Event α → Prop
  | .pass d =>
      (replay s₀ past).worker ≠ .awake ∧
        (cyclePace s₀ past).all ((replay s₀ past).now + d ≤ ·.last) = true
  | .wake => (cyclePace s₀ past).all (·.last ≤ (replay s₀ past).now) = true
  | .wait _ => waitPace s₀ past = none
  | .poll .. =>
      (replay s₀ past).worker ≠ .awake ∧
        (cyclePace s₀ past).all ((replay s₀ past).now < ·.last) = true ∧
        (waitPace s₀ past).all (·.last ≤ (replay s₀ past).now) = true
  | _ => True

instance decidableInTime (s₀ : Shared α) (past : List (Event α)) :
    (e : Event α) → Decidable (InTime s₀ past e)
  | .pass _ => inferInstanceAs (Decidable (_ ∧ _))
  | .wake => inferInstanceAs (Decidable (_ = true))
  | .wait _ => inferInstanceAs (Decidable (waitPace s₀ past = none))
  | .poll .. => inferInstanceAs (Decidable (_ ∧ _ ∧ _))
  | .ask .. | .launch _ | .look _ | .start _ | .work _ | .act _ | .scriptOutput .. |
    .scriptSettled .. => .isTrue trivial

/-- **Whether a history keeps time.** -/
def Timely (s₀ : Shared α) : List (Event α) → Prop
  | [] => True
  | e :: past => Timely s₀ past ∧ InTime s₀ past e

instance decidableTimely (s₀ : Shared α) : (past : List (Event α)) → Decidable (Timely s₀ past)
  | [] => .isTrue trivial
  | _ :: past =>
      have := decidableTimely s₀ past
      inferInstanceAs (Decidable (_ ∧ _))

omit [Scalar α] in
/-- Whether a cycle has worked since the last launch. -/
def worked : List (Event α) → Bool
  | [] => false
  | .launch _ :: _ => false
  | .work _ :: _ => true
  | _ :: past => worked past

/-- Whether a poll since the last launch came after its deadline. -/
def overslept (s₀ : Shared α) : List (Event α) → Bool
  | [] => false
  | .launch _ :: _ => false
  | .poll _ _ :: past =>
      (waitPace s₀ past).any (·.last < (replay s₀ past).now) || overslept s₀ past
  | _ :: past => overslept s₀ past

/-! ### The invariant -/

/-- **What every run that keeps time keeps.** -/
structure Paced (s₀ : Shared α) (past : List (Event α)) (s : Shared α) : Prop where
  /-- The next cycle is no further away than a period. -/
  cycle : s.worker ≠ .off → ∃ pace, cyclePace s₀ past = some pace ∧
    pace.last ≤ s.now + s₀.controller.period
  /-- A cycle that works was due. -/
  due : s.worker = .awake → ∀ pace, cyclePace s₀ past = some pace → pace.last ≤ s.now
  /-- One client waits at a time. -/
  alone : ∀ i j, (s.clients i).waits = true → (s.clients j).waits = true → i = j
  /-- A client who waits has a pace. -/
  waiting : ∀ i, (s.clients i).waits = true → (waitPace s₀ past).isSome
  /-- While a timer runs, someone waits. -/
  watched : s.controller.timer.isSome → (waitPace s₀ past).isSome
  /-- While a timer runs on a motion that nothing has worked on, and no poll of it was late, the
  next cycle comes no later than the next poll. -/
  ahead : s.controller.timer.isSome → worked past = false → overslept s₀ past = false →
    s.worker = .resting → ∀ cycle wait, cyclePace s₀ past = some cycle →
      waitPace s₀ past = some wait → cycle.last ≤ max wait.last s.now

/-- A step that leaves threads, timers and paces alone keeps the invariant. -/
theorem Paced.of_eq {s₀ s s' : Shared α} {past : List (Event α)} {e : Event α}
    (h : Paced s₀ past s) (worker : s'.worker = s.worker) (now : s.now ≤ s'.now)
    (waits : ∀ i, (s'.clients i).waits = true → (s.clients i).waits = true)
    (timer : s'.controller.timer.isSome → s.controller.timer.isSome)
    (cycle : cyclePace s₀ (e :: past) = cyclePace s₀ past)
    (wait : waitPace s₀ (e :: past) = waitPace s₀ past)
    (work : worked (e :: past) = worked past)
    (oversleeps : overslept s₀ (e :: past) = false → overslept s₀ past = false) :
    Paced s₀ (e :: past) s' where
  cycle hw := by
    obtain ⟨pace, hp, near⟩ := h.cycle (worker ▸ hw)
    exact ⟨pace, cycle.trans hp, near.trans (Nat.add_le_add_right now _)⟩
  due hw pace hp := (h.due (worker ▸ hw) pace (cycle ▸ hp)).trans now
  alone i j hi hj := h.alone i j (waits i hi) (waits j hj)
  waiting i hi := by
    rw [wait]
    exact h.waiting i (waits i hi)
  watched ht := by
    rw [wait]
    exact h.watched (timer ht)
  ahead ht hw ho hr c w hc hp := by
    have before := h.ahead (timer ht) (work ▸ hw) (oversleeps ho) (worker ▸ hr) c w (cycle ▸ hc)
      (wait ▸ hp)
    omega

omit [Scalar α] in
/-- Who waits after a client has moved on has waited before, if that client has. -/
theorem waits_before {s : Shared α} {i j : Nat} {c : Client α}
    (hc : c.waits = true → (s.clients i).waits = true)
    (h : ((s.setClient i c).clients j).waits = true) : (s.clients j).waits = true := by
  by_cases hj : j = i
  · subst hj
    rw [clients_setClient_self] at h
    exact hc h
  · rwa [clients_setClient_of_ne s hj] at h

omit [Scalar α] in
theorem waits_of_watched {c : Client α} {mode : Mode} (h : c.watched? = some mode) :
    c.waits = true := by
  simp [Client.waits, h]

section Steps

variable {s₀ : Shared α} {past : List (Event α)}

theorem Paced.wait (h : Paced s₀ past (replay s₀ past)) {i : Nat}
    (timely : InTime s₀ past (.wait i)) :
    Paced s₀ (.wait i :: past) ((replay s₀ past).after (.wait i)) := by
  -- nobody waits yet, so no timer runs
  have nobody : ¬ (waitPace s₀ past).isSome := by
    rw [show waitPace s₀ past = none from timely]
    exact nofun
  have alone : ∀ j, (((replay s₀ past).setClient i .deciding).clients j).waits = true → j = i := by
    intro j hj
    by_contra other
    rw [clients_setClient_of_ne _ other] at hj
    exact nobody (h.waiting j hj)
  exact
    { cycle := h.cycle
      due := h.due
      alone := fun j k hj hk => (alone j hj).trans (alone k hk).symm
      waiting := fun _ _ => rfl
      watched := fun _ => rfl
      ahead := fun running => absurd (h.watched running) nobody }

theorem Paced.poll (h : Paced s₀ past (replay s₀ past)) {i : Nat} {seen : Controller.Verdict}
    (enabled : (replay s₀ past).Enabled (.poll i seen)) (timely : InTime s₀ past (.poll i seen)) :
    Paced s₀ (.poll i seen :: past) ((replay s₀ past).after (.poll i seen)) := by
  obtain ⟨asleep, coming, deadline⟩ := timely
  obtain ⟨watched, hw, ⟨rfl, -, e⟩ | ⟨rfl, -, -, e⟩ | ⟨rfl, -, -, e⟩⟩ := poll_cases enabled
  · rw [e]
    refine h.of_eq rfl le_rfl (fun j => waits_before fun _ => waits_of_watched hw) id rfl rfl rfl ?_
    intro never
    exact (Bool.or_eq_false_iff.1 never).2
  · -- the next poll is a period away, and the next cycle no further
    obtain ⟨wait, hp⟩ := Option.isSome_iff_exists.1 (h.waiting i (waits_of_watched hw))
    have more : waitPace s₀ (.poll i .pending :: past) =
        some (wait.next s₀.controller.period (replay s₀ past).now) := by
      rw [waitPace, hp]
      rfl
    rw [e]
    refine
      { cycle := h.cycle
        due := h.due
        alone := h.alone
        waiting := fun _ _ => by rw [more]; rfl
        watched := fun _ => by rw [more]; rfl
        ahead := ?_ }
    intro _ _ never resting c w hc hw
    obtain ⟨c', hc', near⟩ := h.cycle (by rw [resting]; decide)
    cases hc'.symm.trans hc
    cases more.symm.trans hw
    have punctual : (replay s₀ past).now ≤ wait.last := by
      have never := (Bool.or_eq_false_iff.1 never).1
      simpa [hp] using never
    simp only [Pace.next]
    omega
  · -- the motion is over, and nobody waits any more
    have gone : ∀ j, (((replay s₀ past).after (.poll i .finished)).clients j).waits = false := by
      intro j
      by_cases hj : j = i
      · subst hj
        rw [e, clients_setClient_self]
        rfl
      · rw [e, clients_setClient_of_ne _ hj, clients_steer]
        by_contra waits
        rw [Bool.not_eq_false] at waits
        exact hj (h.alone j i waits (waits_of_watched hw))
    have ended : ((replay s₀ past).after (.poll i .finished)).controller.timer = none := by
      rw [e]
      rfl
    refine
      { cycle := ?_
        due := ?_
        alone := fun j k hj => absurd hj (by rw [gone]; decide)
        waiting := fun j hj => absurd hj (by rw [gone]; decide)
        watched := fun running => absurd running (by rw [ended]; decide)
        ahead := fun running => absurd running (by rw [ended]; decide) }
    all_goals rw [e]
    · exact h.cycle
    · exact h.due

theorem Paced.wake (h : Paced s₀ past (replay s₀ past))
    (idle : (replay s₀ past).controller.mode = .none ↔ (replay s₀ past).controller.idle = true)
    (enabled : (replay s₀ past).Enabled .wake) (timely : InTime s₀ past .wake) :
    Paced s₀ (.wake :: past) ((replay s₀ past).after .wake) := by
  have resting : (replay s₀ past).worker = .resting := enabled
  obtain ⟨pace, hp, near⟩ := h.cycle (by rw [resting]; decide)
  have due : pace.last ≤ (replay s₀ past).now := by
    simpa [InTime, hp] using timely
  cases hi : (replay s₀ past).controller.idle with
  | true =>
      -- with nothing to do no timer runs, and the next deadline is set
      have off : (replay s₀ past).controller.timer = none := Controller.timer_of_none (idle.2 hi)
      have next : cyclePace s₀ (.wake :: past) =
          some (pace.next s₀.controller.period (replay s₀ past).now) := by
        rw [cyclePace, if_pos hi, hp]
        rfl
      have rests : ((replay s₀ past).after .wake).worker = .resting := if_pos hi
      exact
        { cycle := fun _ => ⟨_, next, by simp only [after, Pace.next]; omega⟩
          due := fun hw => by rw [rests] at hw; cases hw
          alone := h.alone
          waiting := h.waiting
          watched := h.watched
          ahead := fun running => absurd running (by simp only [after, off]; decide) }
  | false =>
      have same : cyclePace s₀ (.wake :: past) = cyclePace s₀ past := by
        rw [cyclePace, if_neg (by simp [hi])]
      have works : ((replay s₀ past).after .wake).worker = .awake :=
        if_neg (by simp [hi])
      exact
        { cycle := fun _ => ⟨pace, same.trans hp, near⟩
          due := fun _ pace' hp' => by
            cases (same.symm.trans hp').symm.trans hp
            exact due
          alone := h.alone
          waiting := h.waiting
          watched := h.watched
          ahead := fun _ _ _ hr => by rw [works] at hr; cases hr }

theorem Paced.work (h : Paced s₀ past (replay s₀ past)) {samples : Controller.Samples}
    (enabled : (replay s₀ past).Enabled (.work samples)) :
    Paced s₀ (.work samples :: past) ((replay s₀ past).after (.work samples)) := by
  have awake : (replay s₀ past).worker = .awake := enabled
  obtain ⟨pace, hp, -⟩ := h.cycle (by rw [awake]; exact nofun)
  have due := h.due awake pace hp
  have next : cyclePace s₀ (.work samples :: past) =
      some (pace.next s₀.controller.period (replay s₀ past).now) := by
    rw [cyclePace, hp]
    rfl
  have timer : ((replay s₀ past).after (.work samples)).controller.timer =
      (replay s₀ past).controller.timer := by
    rw [controller_after_work]
    exact Controller.timer_cycle ..
  refine
    { cycle := fun _ => ⟨_, next, ?_⟩
      due := ?_
      alone := ?_
      waiting := ?_
      watched := fun running => h.watched (timer ▸ running)
      ahead := fun _ => nofun }
  · simp only [after_work, now_steer, Pace.next]
    omega
  · intro hw
    rw [after_work, worker_steer] at hw
    cases hw
  · rw [clients_after_work]
    exact h.alone
  · rw [clients_after_work]
    exact h.waiting

theorem Paced.step (h : Paced s₀ past (replay s₀ past))
    (idle : (replay s₀ past).controller.mode = .none ↔ (replay s₀ past).controller.idle = true)
    {e : Event α} (enabled : (replay s₀ past).Enabled e) (timely : InTime s₀ past e) :
    Paced s₀ (e :: past) ((replay s₀ past).after e) := by
  cases e with
  | wait i => exact h.wait timely
  | poll i seen => exact h.poll enabled timely
  | wake => exact h.wake idle enabled timely
  | work samples => exact h.work enabled
  | ask i r =>
      cases hr : (replay s₀ past).controller.motion? r with
      | some m =>
          rw [after_ask_of_accepted hr]
          exact h.of_eq rfl le_rfl (fun _ => waits_before nofun) id rfl rfl rfl id
      | none =>
          rw [after_ask_of_none hr]
          refine h.of_eq (worker_steer ..) ?_ (fun j hj => ?_) ?_ rfl rfl rfl id
          · rw [now_steer]
          · rwa [clients_steer] at hj
          · rw [controller_steer]
            cases r with
            | stop =>
                intro running
                rw [Controller.adjust, Controller.timer_disableAll] at running
                cases running
            | _ => exact id
  | launch i =>
      -- the timers of a motion just launched do not run
      obtain ⟨m, -, e⟩ := launch_cases enabled
      have off : ((replay s₀ past).after (.launch i)).controller.timer = none := by
        rw [e]
        exact Controller.timer_launch ..
      have waits : ∀ j, (((replay s₀ past).after (.launch i)).clients j).waits = true →
          ((replay s₀ past).clients j).waits = true := by
        intro j hj
        rw [e] at hj
        exact waits_before (c := .free) nofun hj
      refine
        { cycle := ?_
          due := ?_
          alone := fun j k hj hk => h.alone j k (waits j hj) (waits k hk)
          waiting := fun j hj => h.waiting j (waits j hj)
          watched := fun running => absurd running (by rw [off]; exact nofun)
          ahead := fun running => absurd running (by rw [off]; exact nofun) }
      all_goals rw [e]
      · exact h.cycle
      · exact h.due
  | look i =>
      have deciding : ((replay s₀ past).clients i).isDeciding = true := enabled
      refine h.of_eq rfl le_rfl (fun _ => waits_before fun _ => ?_) id rfl rfl rfl id
      simp [Client.waits, deciding]
  | start baseline =>
      exact
        { cycle := fun _ => ⟨_, rfl, Nat.le_add_right ..⟩
          due := fun hw => by cases hw
          alone := h.alone
          waiting := h.waiting
          watched := h.watched
          ahead := fun _ _ _ _ c w hc _ => by cases hc; exact Nat.le_max_right .. }
  | pass d =>
      obtain ⟨asleep, -⟩ := timely
      exact h.of_eq rfl (Nat.le_add_right ..) (fun _ => id) id rfl rfl rfl id
  | scriptOutput slot x =>
      refine h.of_eq rfl le_rfl (fun _ => id) ?_ rfl rfl rfl id
      simp only [after, Controller.timer_script]
      exact id
  | scriptSettled slot b =>
      refine h.of_eq rfl le_rfl (fun _ => id) ?_ rfl rfl rfl id
      simp only [after, Controller.timer_script]
      exact id
  | act a => exact h.of_eq rfl le_rfl (fun _ => id) id rfl rfl rfl id

end Steps

theorem Opened.paced {s₀ : Shared α} (opened : s₀.Opened) : Paced s₀ [] s₀ := by
  obtain ⟨⟨distance, turn, angle, gearing, scales, period, created⟩, off, free⟩ := opened
  have idle : ¬ s₀.controller.timer.isSome := by
    rw [Controller.timer_of_none (Controller.of_create created).mode]
    exact nofun
  have nobody : ∀ i, ¬ (s₀.clients i).waits = true := by
    intro i
    rw [free i]
    exact nofun
  exact
    { cycle := fun hw => absurd off hw
      due := fun hw => by rw [off] at hw; cases hw
      alone := fun i _ hi => absurd hi (nobody i)
      waiting := fun i hi => absurd hi (nobody i)
      watched := fun running => absurd running idle
      ahead := fun running => absurd running idle }

/-- **The invariant of every run that keeps time.** -/
theorem Possible.paced {s₀ : Shared α} (opened : s₀.Opened) {past : List (Event α)}
    (possible : Possible s₀ past) (timely : Timely s₀ past) : Paced s₀ past (replay s₀ past) := by
  -- induction on the history, whose head is the last step
  induction past with
  | nil => exact opened.paced
  | cons e past ih =>
      obtain ⟨before, enabled⟩ := possible
      exact (ih before timely.1).step (before.tracks opened).idle enabled timely.2

/-! ### The theorem -/

/-- A motion that a poll finishes, and that was not stopped, has its first timer running. -/
theorem timer_of_finished {s₀ : Shared α} (opened : s₀.Opened) (real : s₀.controller.Positional)
    {past : List (Event α)} (possible : Possible s₀ past) {i : Nat}
    (enabled : (replay s₀ past).Enabled (.poll i .finished)) {m : Controller.Motion α}
    (moving : course s₀.controller past = .begun m) :
    (replay s₀ past).controller.timer.isSome := by
  have fits := (possible.tracks opened).fits
  have real := (wired_replay possible).positional real
  obtain ⟨-, reports, -⟩ := ended_after enabled
  rw [moving] at fits
  cases m with
  | move x =>
      obtain ⟨mode, distance, -⟩ := fits
      replace mode : (replay s₀ past).controller.mode = .distance := mode
      rw [mode] at reports
      simp only [Controller.timer, mode]
      exact Loop.timer_of_settled (real .distance) (congrArg Loop.Setting.disabled distance)
        reports.1
  | turn x mirrored =>
      obtain ⟨mode, turn, -⟩ := fits
      replace mode : (replay s₀ past).controller.mode = .angle := mode
      rw [mode] at reports
      simp only [Controller.timer, mode]
      exact Loop.timer_of_settled (real .turn) (congrArg Loop.Setting.disabled turn) reports

/-- **A motion that a wait finishes was worked on**, unless the client was late.  In a run that
keeps time, with the thread of the cycle started, a poll finishes a motion that was not stopped.
Then a cycle has worked since the motion was launched, or an earlier poll since then came after its
deadline. -/
theorem worked_before_finished {s₀ : Shared α} (opened : s₀.Opened)
    (real : s₀.controller.Positional) {i : Nat} {past : List (Event α)}
    (possible : Possible s₀ (.poll i .finished :: past))
    (timely : Timely s₀ (.poll i .finished :: past)) (started : (replay s₀ past).worker ≠ .off)
    {m : Controller.Motion α} (moving : course s₀.controller past = .begun m) :
    worked past = true ∨ overslept s₀ past = true := by
  obtain ⟨before, enabled⟩ := possible
  obtain ⟨punctual, asleep, coming, deadline⟩ := timely
  have paced := before.paced opened punctual
  have running := timer_of_finished opened real before enabled moving
  obtain ⟨cycle, hc, -⟩ := paced.cycle started
  obtain ⟨wait, hw⟩ := Option.isSome_iff_exists.1 (paced.watched running)
  by_contra unworked
  obtain ⟨idle, never⟩ := not_or.1 unworked
  rw [Bool.not_eq_true] at idle never
  have resting : (replay s₀ past).worker = .resting := by
    cases h : (replay s₀ past).worker with
    | off => exact absurd h started
    | resting => rfl
    | awake => exact absurd h asleep
  -- the next cycle is no later than this poll, so it has run
  have ahead := paced.ahead running idle never resting cycle wait hc hw
  simp only [hc, hw, Option.all_some, decide_eq_true_eq] at coming deadline
  omega

/-- A position loop that settles in no time. -/
def hasty : Loop Float := .position (.new ⟨0.01, 0, 0, 0⟩ ⟨50, 5, 0⟩ 10000000)

/-- A move that a client waits for, at its first poll. -/
def departed : List (Event Float) :=
  [.poll 0 .pending, .look 0, .wait 0, .work ⟨⟨0, 0⟩, ⟨0, 0⟩⟩, .wake, .start ⟨0, 0⟩, .launch 1,
    .ask 1 (.move ⟨100⟩)]

/-- A turn launched right before a poll, which comes at its deadline, and so does the next. -/
def punctual : List (Event Float) :=
  [.work ⟨⟨0, 0⟩, ⟨90, 0⟩⟩, .wake, .pass 10000000, .poll 0 .pending, .look 0, .poll 0 .superseded,
    .launch 1, .ask 1 (.turn ⟨90⟩), .work ⟨⟨0, 0⟩, ⟨0, 0⟩⟩, .wake, .pass 10000000] ++ departed

theorem worked_before_finished_of_punctual :
    overslept (bench hasty hasty hasty) punctual = false ∧ worked punctual = true := by
  have never : overslept (bench hasty hasty hasty) punctual = false := by decide +kernel
  have real : (bench hasty hasty hasty).controller.Positional := by
    intro slot
    cases slot <;> rfl
  have possible : Possible (bench hasty hasty hasty) (.poll 0 .finished :: punctual) := by
    decide +kernel
  have timely : Timely (bench hasty hasty hasty) (.poll 0 .finished :: punctual) := by
    decide +kernel
  have moving : course (bench hasty hasty hasty).controller punctual =
      .begun (.turn ⟨90⟩ false) := rfl
  refine ⟨never, ?_⟩
  rcases worked_before_finished (opened_bench ..) real possible timely (by decide +kernel) moving
    with works | late
  · exact works
  · rw [never] at late
    cases late

/-- The client sleeps over its deadline, and a turn is launched before it comes to poll. -/
def oversleeping : List (Event Float) :=
  [.poll 0 .pending, .look 0, .poll 0 .superseded, .launch 1, .ask 1 (.turn ⟨90⟩), .pass 5000000,
    .work ⟨⟨0, 0⟩, ⟨0, 0⟩⟩, .wake, .pass 10000000, .work ⟨⟨0, 0⟩, ⟨0, 0⟩⟩, .wake,
    .pass 10000000] ++ departed

/-- **A wait finishes a turn that no cycle has worked on.**  The late poll has started the settle
timer, and as its next deadline is past as well, the client polls again at once. -/
theorem finished_unworked :
    Possible (bench hasty hasty hasty) (.poll 0 .finished :: oversleeping) ∧
      Timely (bench hasty hasty hasty) (.poll 0 .finished :: oversleeping) ∧
      (replay (bench hasty hasty hasty) oversleeping).worker ≠ .off ∧
      course (bench hasty hasty hasty).controller oversleeping = .begun (.turn ⟨90⟩ false) ∧
      worked oversleeping = false := by
  refine ⟨by decide +kernel, by decide +kernel, by decide +kernel, rfl, rfl⟩

end Shared

end Drivetrain
