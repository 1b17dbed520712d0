/-
Sessions are runs.

A session does one thing after another: a cycle is one step of it, and so is a request or a look of
a client that waits.  To the threads each of these is several steps, and a session is one of the
many orders in which they may be taken.  So whatever holds of every run of a shared controller holds
of every session.

Main definitions:

* `Drivetrain.Shared.Leads` — whether a run leads from one state to another;
* `Drivetrain.Session.shared` — a session as its threads see it;
* `Drivetrain.Session.Reached` — the sessions that actions and waits come to.

Main results:

* `Drivetrain.Session.leads_tick`, `Drivetrain.Session.leads_runDue`,
  `Drivetrain.Session.leads_perform`, `Drivetrain.Session.leads_wait` — what a session does is a
  run;
* `Drivetrain.Session.Reached.leads` — **every session is reached by a run** of its controller.
-/

import Drivetrain.Session.Wait
import Drivetrain.Proofs.Course

set_option relaxedAutoImplicit false
set_option autoImplicit false

namespace Drivetrain

variable {α : Type} [Scalar α]

/-! ### Runs one after another -/

namespace Shared

/-- **Whether a run leads from one state to another.** -/
def Leads (s s' : Shared α) : Prop := ∃ run, Possible s run ∧ replay s run = s'

namespace Leads

variable {s s' s'' : Shared α}

theorem trans (h : s.Leads s') (h' : s'.Leads s'') : s.Leads s'' := by
  obtain ⟨earlier, first, rfl⟩ := h
  obtain ⟨later, second, rfl⟩ := h'
  exact ⟨later ++ earlier, first.append second, replay_append ..⟩

theorem of_eq (h : s = s') : s.Leads s' := ⟨[], trivial, h⟩

theorem of_enabled {e : Event α} (h : s.Enabled e) : s.Leads (s.after e) :=
  ⟨[e], ⟨trivial, h⟩, rfl⟩

/-- A client whose motion is accepted may launch it at once, and then calls nothing again. -/
theorem of_accepted {r : Controller.Request α} {m : Controller.Motion α} {i : Nat}
    (free : s.clients i = .free) (hr : s.controller.motion? r = some m) :
    s.Leads { s with controller := s.controller.launch m } := by
  have asks : s.Leads _ :=
    .of_enabled (e := .ask i r) (show (s.clients i).isFree = true by rw [free]; rfl)
  rw [after_ask_of_accepted hr] at asks
  have enabled : (s.setClient i (.accepted m)).Enabled (.launch i) := by
    simp [Enabled, Client.motion?]
  obtain ⟨m', hm, e⟩ := launch_cases enabled
  rw [clients_setClient_self] at hm
  cases hm
  have launches := of_enabled enabled
  rw [e] at launches
  refine asks.trans (launches.trans (.of_eq ?_))
  have back : Function.update (Function.update s.clients i (.accepted m)) i .free = s.clients := by
    rw [Function.update_idem, ← free, Function.update_eq_self]
  simp only [setClient, back]

/-- A poll of a client that watches a mode, by what it sees. -/
theorem of_poll (s : Shared α) (i : Nat) (mode : Mode) :
    (s.setClient i (.watching mode)).Leads
      (let polled := { s with controller := (s.controller.poll mode s.now).2 }
      match (s.controller.poll mode s.now).1 with
      | .finished => (polled.steer (some .stop)).setClient i .free
      | .superseded => polled.setClient i .deciding
      | .pending => polled.setClient i (.watching mode)) := by
  have seen : (s.setClient i (.watching mode)).seen mode = s.controller.poll mode s.now := rfl
  have enabled : (s.setClient i (.watching mode)).Enabled
      (.poll i (s.controller.poll mode s.now).1) := by
    simp [Enabled, Client.watched?, seen]
  have polls := of_enabled enabled
  simp only [after, Shared.poll, clients_setClient_self, Client.watched?, seen] at polls
  refine polls.trans (.of_eq ?_)
  cases (s.controller.poll mode s.now).1 <;> simp [setClient, steer]

end Leads

end Shared

namespace Session

open Shared (Leads)

/-! ### What threads see of a session -/

/-- A session as its threads see it, the thread of the cycle standing somewhere. -/
def threads (s : Session α) (worker : Worker) (clients : Nat → Client α) : Shared α :=
  ⟨s.controller, s.drive, s.now, worker, clients⟩

/-- **A session as its threads see it**, between two cycles. -/
def shared (s : Session α) (clients : Nat → Client α) : Shared α :=
  s.threads (if s.isRunning then .resting else .off) clients

theorem threads_steer (s : Session α) (m : Option (Maneuver α)) (worker : Worker)
    (clients : Nat → Client α) :
    (s.steer m).threads worker clients = (s.threads worker clients).steer m := by
  cases m <;> rfl

theorem shared_steer (s : Session α) (m : Option (Maneuver α)) (clients : Nat → Client α) :
    (s.steer m).shared clients = (s.shared clients).steer m := by
  cases m <;> rfl

omit [Scalar α] in
theorem shared_of_some {s : Session α} {pace : Pace} (h : s.cycle = some pace)
    (clients : Nat → Client α) : s.shared clients = s.threads .resting clients := by
  simp only [shared, isRunning, h, Option.isSome_some, if_true]

omit [Scalar α] in
theorem shared_of_none {s : Session α} (h : s.cycle = none) (clients : Nat → Client α) :
    s.shared clients = s.threads .off clients := by
  simp only [shared, isRunning, h, Option.isSome_none, Bool.false_eq_true, if_false]

omit [Scalar α] in
theorem shared_note_unless (s : Session α) (p : Prop) [Decidable p] (n : Notice α)
    (clients : Nat → Client α) : (if p then s else s.note n).shared clients = s.shared clients := by
  split <;> rfl

/-! ### Cycles -/

theorem leads_later (s : Session α) {instant : Nat} (h : s.now ≤ instant) (worker : Worker)
    (clients : Nat → Client α) :
    (s.threads worker clients).Leads ({ s with now := instant }.threads worker clients) := by
  have passed : (s.threads worker clients).Leads _ :=
    .of_enabled (e := .pass (instant - s.now)) trivial
  have there : s.now + (instant - s.now) = instant := by omega
  simpa only [Shared.after, threads, there] using passed

/-- Readings that take time are a while that passes, and an action on the drive. -/
theorem leads_sense (s : Session α) (worker : Worker) (clients : Nat → Client α) :
    (s.threads worker clients).Leads (s.sense.2.threads worker clients) := by
  have passed := s.leads_later (Nat.le_add_right s.now (s.readCosts.headD 0)) worker clients
  exact passed.trans (.of_enabled (e := .act .sense) trivial)

/-- Sampling reads the sensors twice, once or not at all. -/
theorem sense_of_sample (s : Session α) :
    s.sample.2 = s ∨ s.sample.2 = s.sense.2 ∨ s.sample.2 = s.sense.2.sense.2 := by
  unfold sample
  by_cases hb : s.controller.needsBaseline
  · by_cases hm : s.sense.2.controller.mode = .none
    · simp [hb, hm]
    · simp [hb, hm]
  · by_cases hm : s.controller.mode = .none
    · simp [hb, hm]
    · simp [hb, hm]

theorem leads_sample (s : Session α) (worker : Worker) (clients : Nat → Client α) :
    (s.threads worker clients).Leads (s.sample.2.threads worker clients) := by
  have once := s.leads_sense worker clients
  rcases s.sense_of_sample with e | e | e
  · rw [e]
    exact .of_eq rfl
  · rw [e]
    exact once
  · rw [e]
    exact once.trans (s.sense.2.leads_sense worker clients)

theorem controller_sample (s : Session α) : s.sample.2.controller = s.controller := by
  rcases s.sense_of_sample with e | e | e <;> rw [e] <;> rfl

/-- A cycle that has something to do samples, works and steers. -/
theorem tick_of_busy {s : Session α} (h : ¬ s.controller.idle = true) :
    s.tick =
      let worked := s.sample.2.controller.cycle s.sample.1 s.sample.2.now
      let steered := { s.sample.2 with controller := worked.1 }.steer worked.2
      { steered with timing := steered.timing.record (steered.now - s.now) } := by
  have busy : ¬ s.sample.2.controller.idle = true := by rwa [controller_sample]
  simp only [tick, if_neg h, Controller.tick, if_neg busy]

/-- **A cycle is a run**: the thread wakes, reads what it needs, and works. -/
theorem leads_tick (s : Session α) (clients : Nat → Client α) :
    (s.threads .resting clients).Leads (s.tick.threads .resting clients) := by
  by_cases hi : s.controller.idle
  · rw [tick, if_pos hi]
    exact .of_eq rfl
  · rw [tick_of_busy hi]
    have wakes : (s.threads .resting clients).Leads (s.threads .awake clients) := by
      have woken : (s.threads .resting clients).Leads _ := .of_enabled (e := .wake) rfl
      simpa only [Shared.after, threads, hi, Bool.false_eq_true, if_false] using woken
    have works : (s.sample.2.threads .awake clients).Leads _ :=
      .of_enabled (e := .work s.sample.1) rfl
    refine wakes.trans ((s.leads_sample .awake clients).trans ?_)
    have steered := threads_steer
      { s.sample.2 with controller := (s.sample.2.controller.cycle s.sample.1 s.sample.2.now).1 }
      (s.sample.2.controller.cycle s.sample.1 s.sample.2.now).2 .resting clients
    exact works.trans (.of_eq steered.symm)

theorem runDue_of_none {s : Session α} (hc : s.cycle = none) (instant : Nat) :
    s.runDue instant = s := by
  rw [runDue]
  split
  · rfl
  · rename_i pace h
    cases hc.symm.trans h

theorem runDue_of_due {s : Session α} {pace : Pace} (hc : s.cycle = some pace) {instant : Nat}
    (due : pace.last ≤ max instant s.now) :
    s.runDue instant =
      let after := { s with now := max s.now pace.last }.tick
      runDue { after with cycle := some (pace.next s.controller.period after.now) } instant := by
  rw [runDue]
  split
  · rename_i h
    cases hc.symm.trans h
  · rename_i pace' h
    cases hc.symm.trans h
    rw [if_pos due]

theorem runDue_of_later {s : Session α} {pace : Pace} (hc : s.cycle = some pace) {instant : Nat}
    (later : ¬ pace.last ≤ max instant s.now) : s.runDue instant = s := by
  rw [runDue]
  split
  · rfl
  · rename_i pace' h
    cases hc.symm.trans h
    rw [if_neg later]

/-- **The cycles that are due are a run.** -/
theorem leads_runDue (s : Session α) (instant : Nat) (clients : Nat → Client α) :
    (s.shared clients).Leads ((s.runDue instant).shared clients) := by
  -- induction on the cycles that are due, the first of which is run here
  fun_induction runDue s instant with
  | case1 s hc => exact .of_eq rfl
  | case2 s pace hc hdue after ih =>
      refine Leads.trans ?_ ih
      rw [shared_of_some hc, shared_of_some rfl]
      have later := s.leads_later (Nat.le_max_left s.now pace.last) .resting clients
      exact later.trans (leads_tick _ clients)
  | case3 s pace hc hdue => exact .of_eq rfl

theorem leads_advanceTo (s : Session α) (instant : Nat) (clients : Nat → Client α) :
    (s.shared clients).Leads ((s.advanceTo instant).shared clients) :=
  (s.leads_runDue instant clients).trans (leads_later _ (Nat.le_max_left ..) ..)

theorem leads_started (s : Session α) (baseline : Readings) (clients : Nat → Client α) :
    (s.threads .off clients).Leads
      ({ s with
          controller := s.controller.started baseline
          cycle := some (.startingAt s.now) }.shared clients) :=
  .of_enabled (e := .start baseline) rfl

/-- The thread of the cycle reads the sensors, starts, and runs at once. -/
theorem leads_start (s : Session α) (clients : Nat → Client α) :
    (s.shared clients).Leads (s.start.shared clients) := by
  cases hc : s.cycle with
  | some pace =>
      simp only [start, hc]
      exact .of_eq rfl
  | none =>
      simp only [start, hc]
      rw [shared_of_none hc]
      have reads := (s.note (.loopStarted s.controller.period)).leads_sense .off clients
      exact reads.trans ((leads_started _ _ clients).trans (leads_runDue _ _ clients))

/-! ### What clients do -/

/-- **A request is a run** of a client that calls nothing else. -/
theorem leads_request (s : Session α) (r : Controller.Request α) {clients : Nat → Client α}
    {i : Nat} (free : clients i = .free) :
    (s.shared clients).Leads ((s.request r).shared clients) := by
  cases hr : s.controller.motion? r with
  | none =>
      have asks : (s.shared clients).Leads _ := .of_enabled (e := .ask i r)
        (show (clients i).isFree = true by rw [free]; rfl)
      rw [Shared.after_ask_of_none hr] at asks
      refine asks.trans (.of_eq ?_)
      have adjusted : s.controller.request r = s.controller.adjust r := by
        rw [Controller.request, hr]
      rw [request, shared_steer, adjusted]
      rfl
  | some m =>
      have launched : s.controller.request r = s.controller.launch m := by
        rw [Controller.request, hr]
      have unsteered : r.maneuver? = none := by
        cases r <;> first | rfl | cases hr
      rw [request, launched, unsteered]
      exact .of_accepted (s := s.shared clients) free hr

/-- **An action is a run**, if there is a client that calls nothing else. -/
theorem leads_perform (s : Session α) (a : Action α) {clients : Nat → Client α} {i : Nat}
    (free : clients i = .free) : (s.shared clients).Leads ((s.perform a).shared clients) := by
  cases a with
  | start => exact s.leads_start clients
  | request r => exact s.leads_request r free
  | advance d => exact s.leads_advanceTo (s.now + d) clients
  | drive a => exact .of_enabled (e := .act a) trivial
  | scriptOutput slot x => exact .of_enabled (e := .scriptOutput slot x) trivial
  | scriptSettled slot b => exact .of_enabled (e := .scriptSettled slot b) trivial

/-! ### Waits -/

namespace Waiting

variable {clients : Nat → Client α} {j : Nat}

/-- What is planned while a client sleeps is done by another. -/
theorem leads_fire (free : clients j = .free) (w : Waiting α) (wake : Nat)
    (events : List (Nat × Action α)) :
    (w.session.shared clients).Leads ((w.fire wake events).session.shared clients) := by
  induction events generalizing w with
  | nil => exact .of_eq rfl
  | cons event rest ih =>
      obtain ⟨instant, action⟩ := event
      rw [fire]
      split
      · have advances := w.session.leads_advanceTo instant clients
        have performs := (w.session.advanceTo instant).leads_perform action free
        let done := (w.session.advanceTo instant).perform action
        have rests := ih { w with session := done, fired := w.fired.push done }
        exact advances.trans (performs.trans rests)
      · exact .of_eq rfl

theorem leads_giveUp (free : clients j = .free) (w : Waiting α) (instant : Nat) :
    (w.session.shared clients).Leads ((w.giveUp instant).session.shared clients) := by
  have settles : ∀ (s : Session α) (slot : Slot),
      (s.shared clients).Leads ((s.perform (.scriptSettled slot true)).shared clients) :=
    fun s slot => s.leads_perform _ free
  have advances := w.session.leads_advanceTo instant clients
  have stops := (w.session.advanceTo instant).leads_request .stop free
  exact advances.trans (stops.trans ((settles _ .distance).trans
    ((settles _ .turn).trans (settles _ .angle))))

theorem leads_sleep (free : clients j = .free) (w : Waiting α) (wake : Nat) :
    (w.session.shared clients).Leads ((w.sleep wake).session.shared clients) := by
  have fires := w.leads_fire free wake w.events
  rw [sleep]
  cases hl : (w.fire wake w.events).limit with
  | none => exact fires.trans (leads_advanceTo _ wake clients)
  | some instant =>
      by_cases due : instant ≤ wake
      · simp only [if_pos due]
        have gives := (w.fire wake w.events).leads_giveUp free instant
        exact fires.trans (gives.trans (leads_advanceTo _ wake clients))
      · simp only [if_neg due]
        exact fires.trans (leads_advanceTo _ wake clients)

/-- What a waiting client has come to, by the mode that it watches. -/
def client : Option Mode → Client α
  | none => .deciding
  | some mode => .watching mode

/-- **The looks of a client and its sleeps are a run**, if there is another that calls nothing. -/
theorem leads_looks {i : Nat} (other : j ≠ i) (free : clients j = .free) (patience : Nat) :
    ∀ {w w' : Waiting α} {pace : Pace} {watched : Option Mode},
      w.looks patience pace watched = some w' →
        (w.session.shared (Function.update clients i (client watched))).Leads
          (w'.session.shared (Function.update clients i .free)) := by
  -- induction on the looks: each is a step of the client, and a sleep is a run of all the others
  induction patience with
  | zero => intro w w' pace watched h; cases h
  | succ patience ih =>
      intro w w' pace watched h
      cases watched with
      | none =>
          have looks : ((w.session.shared clients).setClient i (client none)).Leads _ :=
            .of_enabled (e := .look i) (by simp [Shared.Enabled, client, Client.isDeciding])
          refine looks.trans (Leads.trans (.of_eq ?_) (ih h))
          rw [shared_note_unless]
          simp only [Shared.after, Shared.setClient, Function.update_idem]
          rfl
      | some mode =>
          have polls := Leads.of_poll (w.session.shared clients) i mode
          rw [looks] at h
          rcases hp : w.session.controller.poll mode w.session.now with ⟨verdict, c⟩
          simp only [shared, threads, hp] at h polls
          refine Leads.trans polls ?_
          cases verdict with
          | finished =>
              cases h
              exact .of_eq rfl
          | superseded =>
              refine Leads.trans (.of_eq ?_) (ih h)
              rw [shared_note_unless]
              rfl
          | pending =>
              have still : Function.update clients i (client (some mode)) j = .free := by
                rw [Function.update_of_ne other, free]
              simp only at h
              split at h
              · exact ih h
              · exact (leads_sleep still _ _).trans (ih h)

end Waiting

/-- **A wait is a run** of a client that calls nothing else, if there is another such client for
what happens in the meantime. -/
theorem leads_wait (s : Session α) (script : Script α) (patience : Nat) {w : Waiting α}
    {clients : Nat → Client α} {i j : Nat} (other : j ≠ i) (waits : clients i = .free)
    (free : clients j = .free) (h : s.wait script patience = some w) :
    (s.shared clients).Leads (w.session.shared clients) := by
  obtain ⟨w', looks, rfl⟩ := Option.map_eq_some_iff.1 h
  have begins : (s.shared clients).Leads _ :=
    .of_enabled (e := .wait i) (show (clients i).isFree = true by rw [waits]; rfl)
  have ends := Waiting.leads_looks other free patience looks
  rw [← waits, Function.update_eq_self] at ends
  exact begins.trans ends

/-! ### Sessions -/

/-- **The sessions that actions and waits come to.** -/
inductive Reached (s₀ : Session α) : Session α → Prop where
  | begun : Reached s₀ s₀
  | acted {s : Session α} (before : Reached s₀ s) (a : Action α) : Reached s₀ (s.perform a)
  /-- One more wait, which came to an end. -/
  | waited {s : Session α} (before : Reached s₀ s) (script : Script α) (patience : Nat)
      {w : Waiting α} (h : s.wait script patience = some w) : Reached s₀ w.session

/-- **Every session is reached by a run.** -/
theorem Reached.leads {s₀ s : Session α} (h : Reached s₀ s) :
    (s₀.shared fun _ => .free).Leads (s.shared fun _ => .free) := by
  induction h with
  | begun => exact .of_eq rfl
  | acted before a ih => exact ih.trans (leads_perform _ a (i := 0) rfl)
  | waited before script patience h ih =>
      exact ih.trans (leads_wait _ script patience Nat.zero_ne_one rfl rfl h)

theorem opened_begin {distance turn angle : Loop α} {gearing : Gearing α} {scales : Scales α}
    {period : Nat} {c : Controller α}
    (created : Controller.create distance turn angle gearing scales period = .ok c)
    (drive : Drive α) (readCosts : List Nat) :
    ((begin c drive readCosts).shared fun _ => .free).Opened where
  created := ⟨distance, turn, angle, gearing, scales, period, created⟩
  worker := rfl
  clients _ := rfl

/-- **The controller of every session follows a course.** -/
theorem Reached.tracks {distance turn angle : Loop α} {gearing : Gearing α} {scales : Scales α}
    {period : Nat} {c : Controller α}
    (created : Controller.create distance turn angle gearing scales period = .ok c)
    {drive : Drive α} {readCosts : List Nat} {s : Session α}
    (reached : Reached (begin c drive readCosts) s) :
    ∃ past, Shared.Tracks c past (s.shared fun _ => .free) := by
  obtain ⟨past, possible, e⟩ := reached.leads
  have tracks := possible.tracks (opened_begin created drive readCosts)
  rw [e] at tracks
  exact ⟨past, tracks⟩

end Session

end Drivetrain
