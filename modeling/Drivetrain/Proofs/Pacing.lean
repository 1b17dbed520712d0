/-
The pace of a cycle: no drift, no catching up, and an honest count.

A deadline follows from the deadline before it, unless that is past: then the present is the
deadline.  So cycles that keep within the period begin exactly a period apart, and one that takes
longer moves all that follow and makes up for nothing.

A session is taken apart into small steps here.  Its clock moves while no cycle is due, clients do
something or look, the cycle is started, and a cycle runs.  The cycles that ran are its chronicle,
and every session that calls come to has one, also in the midst of a wait.  What a chronicle says of
beginnings and counts is proved by induction on these steps.

Main definitions:

* `Drivetrain.Pace.schedule` — when the cycles of a loop begin, if they take given times;
* `Drivetrain.Pace.after`, `Drivetrain.Pace.returns` — paces after calls that sleep until their
  deadline, and when such a call returns;
* `Drivetrain.Session.Beat` — a cycle that ran: when it began, how long it took, and whether a motion
  was active;
* `Drivetrain.Session.Chronicle` — **the cycles that ran between two states of a session**.

Main results:

* `Drivetrain.Pace.schedule_succ` — each cycle begins a period, or as long as the last one took,
  after the last one;
* `Drivetrain.Pace.returns_after_succ` — a call returns a period after the last one did, or at once;
* `Drivetrain.Session.Chronicled.perform`, `Drivetrain.Session.Chronicled.wait` — calls have a
  chronicle;
* `Drivetrain.Session.keeps_pace` — **beginnings and counts of all that ran**.
-/

import Mathlib
import Drivetrain.Proofs.Posture
import Drivetrain.Proofs.Sessions

set_option relaxedAutoImplicit false
set_option autoImplicit false

namespace Drivetrain

/-! ### Paces alone -/

namespace Pace

/-- When a call returns that sets the next deadline and sleeps until it. -/
def returns (p : Pace) (period now : Nat) : Nat := now + (p.next period now).left now

/-- The pace after calls at given instants. -/
def after (p : Pace) (period : Nat) (calls : Nat → Nat) : Nat → Pace
  | 0 => p
  | k + 1 => (after p period calls k).next period (calls k)

/-- **The schedule of a loop** whose cycles take given times: when each begins, and the pace then. -/
def schedule (period : Nat) (took : Nat → Nat) (start : Nat) : Nat → Nat × Pace
  | 0 => (start, .startingAt start)
  | k + 1 =>
      let (began, pace) := schedule period took start k
      (pace.returns period (began + took k), pace.next period (began + took k))

/-- A call returns at the deadline that it sets. -/
theorem returns_eq_last (p : Pace) (period now : Nat) :
    p.returns period now = (p.next period now).last := by
  simp only [returns, next, left]
  omega

/-- **A call returns a period after the last one did**, or at once if that is past. -/
theorem returns_after_succ (p : Pace) (period : Nat) (calls : Nat → Nat) (k : Nat) :
    (p.after period calls (k + 1)).returns period (calls (k + 1)) =
      max ((p.after period calls k).returns period (calls k) + period) (calls (k + 1)) := by
  rw [returns_eq_last, returns_eq_last]
  rfl

/-- A cycle begins at the deadline that is its pace. -/
theorem last_schedule (period : Nat) (took : Nat → Nat) (start k : Nat) :
    (schedule period took start k).2.last = (schedule period took start k).1 := by
  cases k with
  | zero => rfl
  | succ k => exact (returns_eq_last ..).symm

/-- **A cycle begins a period after the last one, or as long after it as that one took.** -/
theorem schedule_succ (period : Nat) (took : Nat → Nat) (start k : Nat) :
    (schedule period took start (k + 1)).1 =
      (schedule period took start k).1 + max period (took k) := by
  have deadline := last_schedule period took start k
  simp only [schedule, returns_eq_last, next]
  omega

end Pace

variable {α : Type} [Scalar α]

/-! ### What the clockwork needs of a controller -/

namespace Controller

/-- **The period is the one given, and a motion is active unless the controller is idle.** -/
structure Clocked (period : Nat) (c : Controller α) : Prop where
  period : c.period = period
  idle : c.mode = .none ↔ c.idle = true

namespace Clocked

variable {period : Nat} {c : Controller α}

theorem of_create {distance turn angle : Loop α} {gearing : Gearing α} {scales : Scales α}
    (h : create distance turn angle gearing scales period = .ok c) : c.Clocked period := by
  obtain ⟨-, positive, rfl⟩ := eq_of_create h
  exact ⟨rfl, iff_of_true rfl rfl⟩

omit [Scalar α] in
theorem of_resembles {c' : Controller α} (h : c.Clocked period) (alike : c.Resembles c') :
    c'.Clocked period :=
  ⟨alike.wired.period.trans h.period, by rw [alike.mode, alike.idle]; exact h.idle⟩

theorem request (h : c.Clocked period) (r : Request α) : (c.request r).Clocked period := by
  unfold Controller.request
  cases c.motion? r with
  | some m => cases m <;> exact ⟨h.period, by simp [launch, beginMove, beginTurn]⟩
  | none => cases r <;> exact ⟨h.period, h.idle⟩

omit [Scalar α] in
theorem script (h : c.Clocked period) (slot : Slot) (f : ScriptedLoop α → ScriptedLoop α) :
    (c.script slot f).Clocked period := by
  cases slot <;> exact ⟨h.period, h.idle⟩

theorem cycle (h : c.Clocked period) (samples : Samples) (now : Nat) :
    (c.cycle samples now).1.Clocked period :=
  of_resembles (c := c.rebased samples.baseline) ⟨h.period, h.idle⟩ (c.cycle_resembles samples now)

theorem poll (h : c.Clocked period) (watched : Mode) (now : Nat) :
    (c.poll watched now).2.Clocked period := by
  have checked := h.of_resembles (c.checkSettled_resembles now watched)
  unfold Controller.poll
  split
  · exact h
  · dsimp only
    split
    · exact ⟨checked.period, iff_of_true rfl rfl⟩
    · exact checked

end Clocked

end Controller

namespace Session

/-! ### Chronicles -/

/-- **A cycle that ran.** -/
structure Beat where
  began : Nat
  took : Nat
  /-- Whether a motion was active. -/
  active : Bool
  deriving Repr, DecidableEq

/-- The session after its next cycle, whose deadline is given. -/
def beaten (s : Session α) (pace : Pace) : Session α :=
  let after := { s with now := max s.now pace.last }.tick
  { after with cycle := some (pace.next s.controller.period after.now) }

/-- Its next cycle, whose deadline is given. -/
def beat (s : Session α) (pace : Pace) : Beat where
  began := max s.now pace.last
  took := (s.beaten pace).now - max s.now pace.last
  active := s.controller.mode != .none

/-- The session whose cycle was just started, and is due at once. -/
def opening (s : Session α) : Session α :=
  let (baseline, s) := (s.note (.loopStarted s.controller.period)).sense
  { s with
    controller := s.controller.started baseline
    cycle := some (.startingAt s.now) }

/-- Whether an action has no part in the clockwork: it moves no clock and starts no cycle. -/
def Action.isAside : Action α → Bool
  | .start | .advance _ => false
  | _ => true

/-- **The cycles that ran between two states of a session**, the newest first. -/
inductive Chronicle (s₀ : Session α) : List Beat → Session α → Prop where
  | begun : Chronicle s₀ [] s₀
  /-- The next cycle runs. -/
  | beat {beats : List Beat} {s : Session α} (before : Chronicle s₀ beats s) {pace : Pace}
      (running : s.cycle = some pace) : Chronicle s₀ (s.beat pace :: beats) (s.beaten pace)
  /-- The clock moves while no cycle is due. -/
  | later {beats : List Beat} {s : Session α} (before : Chronicle s₀ beats s) {instant : Nat}
      (ahead : s.now ≤ instant) (free : ∀ pace, s.cycle = some pace → instant < pace.last) :
      Chronicle s₀ beats { s with now := instant }
  | start {beats : List Beat} {s : Session α} (before : Chronicle s₀ beats s)
      (off : s.cycle = none) : Chronicle s₀ beats s.opening
  | act {beats : List Beat} {s : Session α} (before : Chronicle s₀ beats s) {a : Action α}
      (aside : a.isAside = true) : Chronicle s₀ beats (s.perform a)
  /-- A waiting client looks. -/
  | look {beats : List Beat} {s : Session α} (before : Chronicle s₀ beats s) (watched : Mode) :
      Chronicle s₀ beats { s with controller := (s.controller.poll watched s.now).2 }
  | note {beats : List Beat} {s : Session α} (before : Chronicle s₀ beats s) (n : Notice α) :
      Chronicle s₀ beats (s.note n)

/-- Whether steps of the clockwork and of clients lead from one state to another. -/
def Chronicled (s₀ s : Session α) : Prop := ∃ beats, Chronicle s₀ beats s

/-! ### What runs has a chronicle -/

/-- When the cycles that are due have run, the next one is not due. -/
theorem ahead_runDue (s : Session α) (instant : Nat) {pace : Pace}
    (running : (s.runDue instant).cycle = some pace) :
    max instant (s.runDue instant).now < pace.last := by
  fun_induction runDue s instant with
  | case1 s hc => cases hc.symm.trans running
  | case2 s pace' hc hdue after ih => exact ih running
  | case3 s pace' hc hdue =>
      cases hc.symm.trans running
      omega

namespace Chronicled

variable {s₀ s : Session α}

theorem note (h : s₀.Chronicled s) (n : Notice α) : s₀.Chronicled (s.note n) := by
  obtain ⟨beats, before⟩ := h
  exact ⟨beats, before.note n⟩

theorem act (h : s₀.Chronicled s) {a : Action α} (aside : a.isAside = true) :
    s₀.Chronicled (s.perform a) := by
  obtain ⟨beats, before⟩ := h
  exact ⟨beats, before.act aside⟩

theorem look (h : s₀.Chronicled s) (watched : Mode) :
    s₀.Chronicled { s with controller := (s.controller.poll watched s.now).2 } := by
  obtain ⟨beats, before⟩ := h
  exact ⟨beats, before.look watched⟩

theorem runDue (h : s₀.Chronicled s) (instant : Nat) : s₀.Chronicled (s.runDue instant) := by
  -- induction on the cycles that are due, the first of which is the next beat
  fun_induction Session.runDue s instant with
  | case1 s hc => exact h
  | case2 s pace hc hdue after ih =>
      obtain ⟨beats, before⟩ := h
      exact ih ⟨_, before.beat hc⟩
  | case3 s pace hc hdue => exact h

theorem advanceTo (h : s₀.Chronicled s) (instant : Nat) : s₀.Chronicled (s.advanceTo instant) := by
  obtain ⟨beats, before⟩ := h.runDue instant
  refine ⟨beats, before.later (Nat.le_max_left ..) fun pace running => ?_⟩
  have ahead := ahead_runDue s instant running
  omega

theorem start (h : s₀.Chronicled s) : s₀.Chronicled s.start := by
  cases hc : s.cycle with
  | some pace => simpa only [Session.start, hc] using h
  | none =>
      obtain ⟨beats, before⟩ := h
      have opened : s₀.Chronicled s.opening := ⟨beats, before.start hc⟩
      simp only [Session.start, hc]
      exact opened.runDue s.opening.now

/-- **Whatever a client does has a chronicle.** -/
theorem perform (h : s₀.Chronicled s) (a : Action α) : s₀.Chronicled (s.perform a) := by
  cases a with
  | start => exact h.start
  | advance t => exact h.advanceTo _
  | _ => exact h.act rfl

end Chronicled

namespace Waiting

/-- A wait of which the present and all that happened in its midst are chronicled. -/
def Chronicled (s₀ : Session α) (w : Waiting α) : Prop :=
  s₀.Chronicled w.session ∧ ∀ s ∈ w.fired, s₀.Chronicled s

namespace Chronicled

variable {s₀ : Session α}

theorem fire (wake : Nat) (events : List (Nat × Action α)) {w : Waiting α}
    (h : w.Chronicled s₀) : (w.fire wake events).Chronicled s₀ := by
  induction events generalizing w with
  | nil => exact h
  | cons event rest ih =>
      obtain ⟨instant, action⟩ := event
      rw [Waiting.fire]
      split
      · have done := (h.1.advanceTo instant).perform action
        refine ih ⟨done, fun s hs => ?_⟩
        rcases Array.mem_push.1 hs with earlier | rfl
        · exact h.2 s earlier
        · exact done
      · exact h

theorem giveUp {w : Waiting α} (h : w.Chronicled s₀) (instant : Nat) :
    (w.giveUp instant).Chronicled s₀ :=
  ⟨((((h.1.advanceTo instant).perform (.request .stop)).perform
    (.scriptSettled .distance true)).perform (.scriptSettled .turn true)).perform
    (.scriptSettled .angle true), h.2⟩

theorem sleep {w : Waiting α} (h : w.Chronicled s₀) (wake : Nat) :
    (w.sleep wake).Chronicled s₀ := by
  have fired := h.fire wake w.events
  rw [Waiting.sleep]
  cases hl : (w.fire wake w.events).limit with
  | none => exact ⟨fired.1.advanceTo wake, fired.2⟩
  | some instant =>
      by_cases due : instant ≤ wake
      · simp only [if_pos due]
        have given := fired.giveUp instant
        exact ⟨given.1.advanceTo wake, given.2⟩
      · simp only [if_neg due]
        exact ⟨fired.1.advanceTo wake, fired.2⟩

theorem looks (patience : Nat) {w w' : Waiting α} {pace : Pace} {watched : Option Mode}
    (h : w.Chronicled s₀) (ends : w.looks patience pace watched = some w') :
    w'.Chronicled s₀ := by
  induction patience generalizing w pace watched with
  | zero => cases ends
  | succ patience ih =>
      cases watched with
      | none =>
          rw [Waiting.looks] at ends
          refine ih ?_ ends
          refine ⟨?_, h.2⟩
          split
          · exact h.1
          · exact h.1.note _
      | some mode =>
          have looked := h.1.look mode
          rw [Waiting.looks] at ends
          rcases hp : w.session.controller.poll mode w.session.now with ⟨verdict, c⟩
          simp only [hp] at ends looked
          cases verdict with
          | finished =>
              cases ends
              exact ⟨looked.perform (.drive (.steer .stop)), h.2⟩
          | superseded =>
              refine ih ?_ ends
              refine ⟨?_, h.2⟩
              split
              · exact looked
              · exact looked.note _
          | pending =>
              refine ih ?_ ends
              split
              · exact ⟨looked, h.2⟩
              · refine sleep ?_ _
                exact ⟨looked, h.2⟩

end Chronicled

end Waiting

/-- **A wait has a chronicle**, and so has every moment in its midst. -/
theorem Chronicled.wait {s₀ s : Session α} (h : s₀.Chronicled s) {script : Script α}
    {patience : Nat} {w : Waiting α} (ends : s.wait script patience = some w) :
    w.Chronicled s₀ := by
  obtain ⟨w', looks, rfl⟩ := Option.map_eq_some_iff.1 ends
  have looked : w'.Chronicled s₀ := Waiting.Chronicled.looks patience
    ⟨h.note _, fun s hs => absurd hs (Array.not_mem_empty s)⟩ looks
  exact ⟨looked.1.note _, looked.2⟩

/-- **Every session has a chronicle.** -/
theorem Reached.chronicled {s₀ s : Session α} (h : Reached s₀ s) : s₀.Chronicled s := by
  induction h with
  | begun => exact ⟨[], .begun⟩
  | acted before a ih => exact ih.perform a
  | waited before script patience h ih => exact (ih.wait h).1

/-! ### What a chronicle says -/

/-- **Beginnings without drift or bursts**, the newest first: each a period after the one before,
or as long after it as that one took. -/
def Paced (period : Nat) (beats : List Beat) : Prop :=
  beats.IsChain fun next b => next.began = b.began + max period b.took

/-- The instants between two cycles, however many ran in between. -/
theorem Paced.began_eq {period : Nat} {newer span older : List Beat} {b b' : Beat}
    (h : Paced period (newer ++ b' :: (span ++ b :: older))) :
    b'.began = b.began + ((span ++ [b]).map fun x => max period x.took).sum := by
  replace h : Paced period (b' :: (span ++ b :: older)) := (List.isChain_append.1 h).2.1
  induction span generalizing b' with
  | nil => simpa using (List.isChain_cons_cons.1 h).1
  | cons x span ih =>
      obtain ⟨here, rest⟩ := List.isChain_cons_cons.1 h
      have earlier := ih rest
      simp only [List.cons_append, List.map_cons, List.sum_cons]
      omega

/-- Cycles that keep within the period begin exactly a period apart. -/
theorem sum_of_punctual {period : Nat} {beats : List Beat} (h : ∀ b ∈ beats, b.took ≤ period) :
    (beats.map fun b => max period b.took).sum = beats.length * period := by
  induction beats with
  | nil => simp
  | cons b beats ih =>
      have here := h b (List.mem_cons_self ..)
      rw [List.map_cons, List.sum_cons, ih fun x hx => h x (List.mem_cons_of_mem _ hx),
        Nat.max_eq_left here, List.length_cons, Nat.succ_mul, Nat.add_comm]

/-- **What the clockwork keeps.** -/
structure Keeps (period : Nat) (beats : List Beat) (s : Session α) : Prop where
  clocked : s.controller.Clocked period
  /-- Nothing ran before the cycle was started. -/
  off : s.cycle = none → beats = []
  /-- The deadline is not past, and follows from the last cycle. -/
  deadline : ∀ pace, s.cycle = some pace →
    s.now ≤ pace.last ∧ ∀ b ∈ beats.head?, pace.last = b.began + max period b.took
  paced : Paced period beats
  bound : s.timing.period = Timing.wrap period
  ticks : s.timing.ticks = beats.countP (·.active)
  overruns : s.timing.overruns =
    beats.countP fun b => b.active && decide (Timing.wrap period < Timing.wrap b.took)

theorem clockwork_perform (s : Session α) {a : Action α} (aside : a.isAside = true) :
    (s.perform a).now = s.now ∧ (s.perform a).cycle = s.cycle ∧
      (s.perform a).timing = s.timing := by
  cases a with
  | start | advance t => cases aside
  | request r => cases r <;> exact ⟨rfl, rfl, rfl⟩
  | _ => exact ⟨rfl, rfl, rfl⟩

theorem clocked_perform {period : Nat} {s : Session α} (h : s.controller.Clocked period)
    {a : Action α} (aside : a.isAside = true) : (s.perform a).controller.Clocked period := by
  cases a with
  | start | advance t => cases aside
  | request r =>
      have requested := h.request r
      cases r <;> exact requested
  | drive a => exact h
  | scriptOutput slot x => exact h.script slot _
  | scriptSettled slot b => exact h.script slot _

theorem controller_steer (s : Session α) (m : Option (Maneuver α)) :
    (s.steer m).controller = s.controller := by
  cases m <;> rfl

theorem timing_steer (s : Session α) (m : Option (Maneuver α)) :
    (s.steer m).timing = s.timing := by
  cases m <;> rfl

/-- What a cycle that has something to do leaves of controller and clockwork. -/
theorem clockwork_tick_of_busy {s : Session α} (busy : ¬ s.controller.idle = true) :
    s.tick.controller = (s.controller.cycle s.sample.1 s.sample.2.now).1 ∧
      s.tick.now = s.sample.2.now ∧ s.tick.timing = s.timing.record (s.tick.now - s.now) := by
  have untimed : s.sample.2.timing = s.timing := by
    rcases s.sense_of_sample with e | e | e <;> rw [e] <;> rfl
  rw [tick_of_busy busy, controller_sample]
  exact ⟨controller_steer .., now_steer ..,
    congrArg (Timing.record · _) ((timing_steer ..).trans untimed)⟩

theorem tick_of_idle {s : Session α} (idle : s.controller.idle = true) : s.tick = s := if_pos idle

/-- **A cycle is recorded, with the time it took, exactly when a motion is active.** -/
theorem timing_tick {period : Nat} {s : Session α} (h : s.controller.Clocked period) :
    s.tick.timing =
      if s.controller.mode != .none then s.timing.record (s.tick.now - s.now) else s.timing := by
  by_cases hi : s.controller.idle = true
  · rw [tick_of_idle hi, h.idle.2 hi]
    rfl
  · have moves : s.controller.mode ≠ .none := fun rests => hi (h.idle.1 rests)
    rw [if_pos (bne_iff_ne.2 moves)]
    exact (clockwork_tick_of_busy hi).2.2

theorem clocked_tick {period : Nat} {s : Session α} (h : s.controller.Clocked period) :
    s.tick.controller.Clocked period := by
  by_cases hi : s.controller.idle = true
  · rwa [tick_of_idle hi]
  · rw [(clockwork_tick_of_busy hi).1]
    exact h.cycle ..

theorem now_le_tick (s : Session α) : s.now ≤ s.tick.now := by
  by_cases hi : s.controller.idle = true
  · rw [tick_of_idle hi]
  · rw [(clockwork_tick_of_busy hi).2.1]
    rcases s.sense_of_sample with e | e | e <;> rw [e]
    · exact Nat.le_add_right ..
    · exact (Nat.le_add_right ..).trans (Nat.le_add_right ..)

namespace Keeps

variable {period : Nat} {beats : List Beat} {s : Session α}

omit [Scalar α] in
/-- A step that moves no clock and records nothing. -/
theorem aside (h : s.Keeps period beats) {s' : Session α} (now : s'.now = s.now)
    (cycle : s'.cycle = s.cycle) (timing : s'.timing = s.timing)
    (clocked : s'.controller.Clocked period) : s'.Keeps period beats where
  clocked := clocked
  off := by rw [cycle]; exact h.off
  deadline := by rw [cycle, now]; exact h.deadline
  paced := h.paced
  bound := by rw [timing]; exact h.bound
  ticks := by rw [timing]; exact h.ticks
  overruns := by rw [timing]; exact h.overruns

/-- **A cycle keeps the pace and the count.** -/
theorem beat (h : s.Keeps period beats) {pace : Pace} (running : s.cycle = some pace) :
    (s.beaten pace).Keeps period (s.beat pace :: beats) := by
  obtain ⟨due, follows⟩ := h.deadline pace running
  have began : max s.now pace.last = pace.last := Nat.max_eq_right due
  have later : pace.last ≤ (s.beaten pace).now := by
    rw [← began]
    exact now_le_tick { s with now := max s.now pace.last }
  have recorded : (s.beaten pace).timing =
      if (s.beat pace).active then s.timing.record (s.beat pace).took else s.timing :=
    timing_tick (s := { s with now := max s.now pace.last }) h.clocked
  exact
    { clocked := clocked_tick (s := { s with now := max s.now pace.last }) h.clocked
      off := nofun
      deadline := by
        rintro next ⟨⟩
        refine ⟨Nat.le_max_right .., ?_⟩
        rintro b ⟨⟩
        change max (pace.last + s.controller.period) (s.beaten pace).now =
          max s.now pace.last + max period ((s.beaten pace).now - max s.now pace.last)
        rw [began, h.clocked.period]
        omega
      paced := by
        cases beats with
        | nil => exact List.isChain_singleton _
        | cons b earlier =>
            refine List.isChain_cons_cons.2 ⟨?_, h.paced⟩
            exact began.trans (follows b rfl)
      bound := by
        rw [recorded]
        split <;> exact h.bound
      ticks := by
        rw [recorded, List.countP_cons, ← h.ticks]
        split <;> rfl
      overruns := by
        rw [recorded, List.countP_cons, ← h.overruns]
        cases (s.beat pace).active with
        | false => rfl
        | true =>
            simp only [Timing.record, h.bound, if_true, Bool.true_and, decide_eq_true_iff]
            split <;> rfl }

end Keeps

/-- **Every step keeps the pace and the count.** -/
theorem Chronicle.keeps {period : Nat} {s₀ s : Session α} {beats : List Beat}
    (h : s₀.Chronicle beats s) (begins : s₀.Keeps period []) : s.Keeps period beats := by
  -- induction on the steps; only a cycle and the start of all cycles touch the clockwork
  induction h with
  | begun => exact begins
  | beat before running ih => exact ih.beat running
  | later before ahead free ih =>
      exact { ih with
        deadline := fun pace running =>
          ⟨Nat.le_of_lt (free pace running), (ih.deadline pace running).2⟩ }
  | start before off ih =>
      have none := ih.off off
      subst none
      exact
        { clocked := ⟨ih.clocked.period, ih.clocked.idle⟩
          off := nofun
          deadline := by
            rintro pace ⟨⟩
            exact ⟨le_rfl, nofun⟩
          paced := ih.paced
          bound := ih.bound
          ticks := ih.ticks
          overruns := ih.overruns }
  | act before aside ih =>
      obtain ⟨now, cycle, timing⟩ := clockwork_perform _ aside
      exact ih.aside now cycle timing (clocked_perform ih.clocked aside)
  | look before watched ih => exact ih.aside rfl rfl rfl (ih.clocked.poll ..)
  | note before n ih => exact ih.aside rfl rfl rfl ih.clocked

theorem keeps_begin {distance turn angle : Loop α} {gearing : Gearing α} {scales : Scales α}
    {period : Nat} {c : Controller α}
    (created : Controller.create distance turn angle gearing scales period = .ok c)
    (drive : Drive α) (readCosts : List Nat) : (begin c drive readCosts).Keeps period [] where
  clocked := .of_create created
  off _ := rfl
  deadline := nofun
  paced := .nil
  bound := congrArg Timing.wrap (Controller.Clocked.of_create created).period
  ticks := rfl
  overruns := rfl

/-- **Without drift, without bursts, and with an honest count**: every session has a chronicle of
the cycles that ran, moments in the midst of a wait included.  In every chronicle each cycle begins a
period after the one before, or as long after it as that one took, the next one is due then and not
overdue, and the report counts the cycles that ran while a motion was active, and of those the ones
that took longer than the period.  Loops whose cycles take arbitrary times, and calls that sleep until
their deadline, keep the same pace. -/
theorem keeps_pace {distance turn angle : Loop α} {gearing : Gearing α} {scales : Scales α}
    {period : Nat} {c : Controller α}
    (created : Controller.create distance turn angle gearing scales period = .ok c)
    (drive : Drive α) (readCosts : List Nat) :
    (∀ s, Reached (begin c drive readCosts) s →
      (begin c drive readCosts).Chronicled s ∧
        ∀ script patience w, s.wait script patience = some w →
          ∀ moment ∈ w.fired, (begin c drive readCosts).Chronicled moment) ∧
    (∀ beats s, (begin c drive readCosts).Chronicle beats s →
      (∀ newer b' span b older, beats = newer ++ b' :: (span ++ b :: older) →
        b'.began = b.began + ((span ++ [b]).map fun x => max period x.took).sum ∧
          ((∀ x ∈ span ++ [b], x.took ≤ period) →
            b'.began = b.began + (span.length + 1) * period)) ∧
      (∀ b older, beats = b :: older →
        s.cycle = some ⟨b.began + max period b.took⟩ ∧ s.now ≤ b.began + max period b.took) ∧
      s.timing.report.ticks = beats.countP (·.active) ∧
      (period < 2 ^ 64 → (∀ b ∈ beats, b.took < 2 ^ 64) →
        s.timing.report.overruns = beats.countP fun b => b.active && decide (period < b.took))) ∧
    (∀ took start k, (Pace.schedule period took start (k + 1)).1 =
      (Pace.schedule period took start k).1 + max period (took k)) ∧
    ∀ (p : Pace) calls k, (p.after period calls (k + 1)).returns period (calls (k + 1)) =
      max ((p.after period calls k).returns period (calls k) + period) (calls (k + 1)) := by
  refine ⟨?_, ?_, Pace.schedule_succ period, fun p => p.returns_after_succ period⟩
  · intro s reached
    exact ⟨reached.chronicled, fun script patience w ends => (reached.chronicled.wait ends).2⟩
  · intro beats s chronicle
    have keeps := chronicle.keeps (keeps_begin created drive readCosts)
    refine ⟨?_, ?_, keeps.ticks, ?_⟩
    · rintro newer b' span b older rfl
      have began := keeps.paced.began_eq
      refine ⟨began, fun punctual => ?_⟩
      rw [began, sum_of_punctual punctual, List.length_append, List.length_singleton]
    · rintro b older rfl
      cases hc : s.cycle with
      | none => cases keeps.off hc
      | some pace =>
          obtain ⟨due, follows⟩ := keeps.deadline pace hc
          rw [← follows b rfl]
          exact ⟨rfl, due⟩
    · intro short times
      have whole : ∀ n, n < 2 ^ 64 → Timing.wrap n = n := fun n => Nat.mod_eq_of_lt
      refine keeps.overruns.trans (List.countP_congr fun b hb => ?_)
      rw [whole _ short, whole _ (times b hb)]

/-- A session whose readings take time: a cycle of three milliseconds, and one of twelve, which is
longer than the period. -/
def laggard : Session Float :=
  begin Shared.scripted.controller Shared.scripted.drive [0, 1000000, 2000000, 12000000]

theorem keeps_pace_of_laggard :
    Controller.create (.scripted .new) (.scripted .new) (.scripted .new) (.direct .green) .unit
        10000000 = .ok Shared.scripted.controller ∧
      ∃ s, laggard.Chronicle [⟨32000000, 0, true⟩, ⟨20000000, 12000000, true⟩,
          ⟨10000000, 3000000, true⟩, ⟨0, 0, false⟩] s ∧
        s.timing.report.ticks = 3 ∧ s.timing.report.overruns = 1 := by
  have created : Controller.create (.scripted .new) (.scripted .new) (.scripted .new)
      (.direct .green) .unit 10000000 = .ok Shared.scripted.controller := rfl
  -- the cycle starts, and a move is asked for once it has run idle
  have opened := (Chronicle.begun : laggard.Chronicle [] laggard).start rfl
  have moving := (opened.beat rfl).act (a := .request (.move ⟨2⟩)) rfl
  have ran := ((moving.beat rfl).beat rfl).beat rfl
  obtain ⟨-, -, ticks, overruns⟩ := (keeps_pace created _ _).2.1 _ _ ran
  refine ⟨created, _, ?_, ticks.trans (by decide +kernel),
    (overruns (by decide) (by decide +kernel)).trans (by decide +kernel)⟩
  convert ran using 1
  decide +kernel

end Session

end Drivetrain
