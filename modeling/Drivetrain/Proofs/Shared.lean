/-
A controller shared by threads: any number of clients, and the thread of the cycle.

The controller is kept behind a lock, so its functions run one at a time, in whatever order the
threads come to them.  A call of a client is several of them: a motion is accepted first and
launched later, and a wait is a look at the mode followed by polls.  Between any two steps of one
thread the others may do anything, and the clock may move.

A run is the list of what happened, the newest first, and everything that is said about a run is
said about its history.

Main definitions:

* `Drivetrain.Shared` — the controller on its drive, the clock, and where every thread stands;
* `Drivetrain.Shared.Event` — one step of one thread, or of the world around them;
* `Drivetrain.Shared.Enabled`, `Drivetrain.Shared.after` — whether a step can be made, and what it
  comes to;
* `Drivetrain.Shared.replay`, `Drivetrain.Shared.Possible` — the state that a history leads to, and
  whether each of its steps could be made when its turn came;
* `Drivetrain.Shared.Opened` — a controller just created, before anybody uses it;
* `Drivetrain.Shared.bench`, `Drivetrain.Shared.scripted` — two of these, on a test bench.

Main results:

* `Drivetrain.Shared.Possible.invariant` — what holds at first and is kept by every step of a run
  holds after the run;
* `Drivetrain.Shared.poll_cases` — what a poll that could be made has seen, and what it does.
-/

import Mathlib.Logic.Function.Basic
import Drivetrain.Proofs.Posture

set_option relaxedAutoImplicit false
set_option autoImplicit false

namespace Drivetrain

/-- What a client of a shared controller has come to. -/
inductive Client (α : Type) where
  | free
  /-- Its motion was accepted, and it has yet to launch it. -/
  | accepted (motion : Controller.Motion α)
  /-- It waits, and has yet to look at the mode. -/
  | deciding
  /-- It waits, and watches a mode. -/
  | watching (mode : Mode)
  deriving Repr

namespace Client

variable {α : Type}

def isFree : Client α → Bool
  | free => true
  | accepted _ | deciding | watching _ => false

def motion? : Client α → Option (Controller.Motion α)
  | accepted m => some m
  | free | deciding | watching _ => none

def isDeciding : Client α → Bool
  | deciding => true
  | free | accepted _ | watching _ => false

def watched? : Client α → Option Mode
  | watching mode => some mode
  | free | accepted _ | deciding => none

def waits (c : Client α) : Bool := c.isDeciding || c.watched?.isSome

end Client

inductive Worker where
  | off
  /-- It sleeps until its next cycle. -/
  | resting
  /-- It found a motion to work on, and is about to take the lock. -/
  | awake
  deriving Repr, DecidableEq

/-- **A controller shared by threads.** -/
structure Shared (α : Type) where
  controller : Controller α
  drive : Drive α
  now : Nat
  worker : Worker
  clients : Nat → Client α

namespace Shared

variable {α : Type}

/-- **One step** of a thread, or of the world around the threads. -/
inductive Event (α : Type) where
  /-- A client asks for something.  A motion is only accepted or ignored; all else is done. -/
  | ask (client : Nat) (request : Controller.Request α)
  | launch (client : Nat)
  | wait (client : Nat)
  | look (client : Nat)
  | poll (client : Nat) (seen : Controller.Verdict)
  | start (baseline : Readings)
  /-- The thread of the cycle looks, without the lock, whether there is something to do. -/
  | wake
  /-- The thread of the cycle does its work, with the readings that it may take. -/
  | work (samples : Controller.Samples)
  | pass (nanoseconds : Nat)
  | act (action : Drive.Action α)
  | scriptOutput (slot : Slot) (output : α)
  | scriptSettled (slot : Slot) (settled : Bool)

/-- The state with one client moved on. -/
def setClient (s : Shared α) (i : Nat) (c : Client α) : Shared α :=
  { s with clients := Function.update s.clients i c }

theorem clients_setClient_of_ne (s : Shared α) {i j : Nat} (h : j ≠ i) (c : Client α) :
    (s.setClient i c).clients j = s.clients j :=
  Function.update_of_ne h ..

@[simp] theorem clients_setClient_self (s : Shared α) (i : Nat) (c : Client α) :
    (s.setClient i c).clients i = c :=
  Function.update_self ..

/-- What holds of each client in two states still does once one has moved on in both. -/
theorem clients_setClient_both {s s' : Shared α} {R : Nat → Client α → Client α → Prop}
    (h : ∀ j, R j (s.clients j) (s'.clients j)) {i : Nat} {c c' : Client α} (moved : R i c c')
    (j : Nat) : R j ((s.setClient i c).clients j) ((s'.setClient i c').clients j) := by
  by_cases hj : j = i
  · subst hj
    rwa [clients_setClient_self, clients_setClient_self]
  · rw [clients_setClient_of_ne s hj, clients_setClient_of_ne s' hj]
    exact h j

variable [Scalar α]

/-- The drive after a maneuver, if there is one. -/
def steer (s : Shared α) (m : Option (Maneuver α)) : Shared α :=
  match m with
  | some m => { s with drive := s.drive.steer s.now m }
  | none => s

/-! ### Steps -/

/-- What a client that watches a mode comes to see now, and the controller after it. -/
def seen (s : Shared α) (watched : Mode) : Controller.Verdict × Controller α :=
  s.controller.poll watched s.now

/-- Whether a step can be made.  What a client sees is not its choice. -/
def Enabled (s : Shared α) : Event α → Prop
  | .ask i _ | .wait i => (s.clients i).isFree
  | .launch i => (s.clients i).motion?.isSome
  | .look i => (s.clients i).isDeciding
  | .poll i verdict => ((s.clients i).watched?.map fun watched => (s.seen watched).1) = some verdict
  | .start _ => s.worker = .off
  | .wake => s.worker = .resting
  | .work _ => s.worker = .awake
  | .pass _ | .act _ | .scriptOutput .. | .scriptSettled .. => True

instance decidableEnabled (s : Shared α) : (e : Event α) → Decidable (s.Enabled e)
  | .ask .. | .wait _ | .launch _ | .look _ => inferInstanceAs (Decidable (_ = true))
  | .poll .. => inferInstanceAs (Decidable (_ = some _))
  | .start _ | .wake | .work _ => inferInstanceAs (Decidable (_ = (_ : Worker)))
  | .pass _ | .act _ | .scriptOutput .. | .scriptSettled .. => .isTrue trivial

/-- A client's request.  The motion it asks for is accepted in one step, though a thread reads the
threshold first and the mirroring of turns second: a client that changes the mirroring between the
two could as well have done it before both, one that changes the threshold, after both. -/
def ask (s : Shared α) (i : Nat) (r : Controller.Request α) : Shared α :=
  match s.controller.motion? r with
  | some m => s.setClient i (.accepted m)
  | none => { s with controller := s.controller.adjust r }.steer r.maneuver?

/-- A motion launched by the client that it was accepted from. -/
def launch (s : Shared α) (i : Nat) : Shared α :=
  match (s.clients i).motion? with
  | some m => { s with controller := s.controller.launch m }.setClient i .free
  | none => s

/-- A poll of the client that watches a mode.  One that ends the motion stops the drive, and the
client waits no longer. -/
def poll (s : Shared α) (i : Nat) : Shared α :=
  match (s.clients i).watched? with
  | some watched =>
      let polled := { s with controller := (s.seen watched).2 }
      match (s.seen watched).1 with
      | .finished => (polled.steer (some .stop)).setClient i .free
      | .superseded => polled.setClient i .deciding
      | .pending => polled
  | none => s

/-- **The state after a step.** -/
def after (s : Shared α) : Event α → Shared α
  | .ask i r => s.ask i r
  | .launch i => s.launch i
  | .wait i => s.setClient i .deciding
  | .look i => s.setClient i (.watching s.controller.mode)
  | .poll i _ => s.poll i
  | .start baseline => { s with controller := s.controller.started baseline, worker := .resting }
  | .wake => { s with worker := if s.controller.idle then .resting else .awake }
  | .work samples =>
      let (controller, maneuver) := s.controller.cycle samples s.now
      { s with controller := controller, worker := .resting }.steer maneuver
  | .pass d => { s with now := s.now + d }
  | .act a => { s with drive := s.drive.perform s.now a }
  | .scriptOutput slot x =>
      { s with controller := s.controller.script slot fun l => { l with output := x } }
  | .scriptSettled slot b =>
      { s with controller := s.controller.script slot fun l => { l with settled := b } }

/-! ### What steps do -/

@[simp] theorem controller_steer (s : Shared α) (m : Option (Maneuver α)) :
    (s.steer m).controller = s.controller := by
  cases m <;> rfl

@[simp] theorem clients_steer (s : Shared α) (m : Option (Maneuver α)) :
    (s.steer m).clients = s.clients := by
  cases m <;> rfl

@[simp] theorem now_steer (s : Shared α) (m : Option (Maneuver α)) : (s.steer m).now = s.now := by
  cases m <;> rfl

@[simp] theorem worker_steer (s : Shared α) (m : Option (Maneuver α)) :
    (s.steer m).worker = s.worker := by
  cases m <;> rfl

theorem after_ask_of_accepted {s : Shared α} {r : Controller.Request α} {m : Controller.Motion α}
    (h : s.controller.motion? r = some m) (i : Nat) :
    s.after (.ask i r) = s.setClient i (.accepted m) := by
  simp only [after, ask, h]

theorem after_ask_of_none {s : Shared α} {r : Controller.Request α}
    (h : s.controller.motion? r = none) (i : Nat) :
    s.after (.ask i r) = { s with controller := s.controller.adjust r }.steer r.maneuver? := by
  simp only [after, ask, h]

theorem launch_cases {s : Shared α} {i : Nat} (h : s.Enabled (.launch i)) :
    ∃ m, (s.clients i).motion? = some m ∧
      s.after (.launch i) =
        { s with controller := s.controller.launch m }.setClient i .free := by
  obtain ⟨m, hm⟩ := Option.isSome_iff_exists.1 h
  refine ⟨m, hm, ?_⟩
  simp only [after, launch, hm]

/-- **What a poll that could be made has seen, and what it does.** -/
theorem poll_cases {s : Shared α} {i : Nat} {verdict : Controller.Verdict}
    (h : s.Enabled (.poll i verdict)) :
    ∃ watched, (s.clients i).watched? = some watched ∧
      ((verdict = .superseded ∧ s.controller.mode ≠ watched ∧
          s.after (.poll i verdict) = s.setClient i .deciding) ∨
        (verdict = .pending ∧ s.controller.mode = watched ∧
          ¬ s.controller.Reports s.now watched ∧
          s.after (.poll i verdict) =
            { s with controller := (s.controller.checkSettled s.now watched).2 }) ∨
        (verdict = .finished ∧ s.controller.mode = watched ∧
          s.controller.Reports s.now watched ∧
          s.after (.poll i verdict) =
            ({ s with
                controller := (s.controller.checkSettled s.now watched).2.finish }.steer
              (some .stop)).setClient i .free)) := by
  obtain ⟨watched, hw, rfl⟩ := Option.map_eq_some_iff.1 h
  refine ⟨watched, hw, ?_⟩
  -- one case for each thing that a poll of the controller comes to
  rcases s.controller.poll_cases watched s.now with ⟨e, hm⟩ | ⟨e, hm, hr⟩ | ⟨e, hm, hr⟩
  · exact .inl ⟨by rw [seen, e], hm, by simp only [after, poll, hw, seen, e]⟩
  · exact .inr (.inl ⟨by rw [seen, e], hm, hr, by simp only [after, poll, hw, seen, e]⟩)
  · exact .inr (.inr ⟨by rw [seen, e], hm, hr, by simp only [after, poll, hw, seen, e]⟩)

/-- A poll only changes what loops remember, unless it ends the motion. -/
theorem resembles_after_poll {s : Shared α} {i : Nat} {verdict : Controller.Verdict}
    (h : s.Enabled (.poll i verdict)) :
    s.controller.Resembles (s.after (.poll i verdict)).controller ∨
      ∃ c, s.controller.Resembles c ∧ (s.after (.poll i verdict)).controller = c.finish := by
  have checked := fun watched => s.controller.checkSettled_resembles s.now watched
  obtain ⟨watched, -, ⟨-, -, e⟩ | ⟨-, -, -, e⟩ | ⟨-, -, -, e⟩⟩ := poll_cases h
  · rw [e]
    exact .inl (.refl _)
  · rw [e]
    exact .inl (checked watched)
  · rw [e]
    exact .inr ⟨_, checked watched, rfl⟩

theorem worker_after_poll {s : Shared α} {i : Nat} {verdict : Controller.Verdict}
    (h : s.Enabled (.poll i verdict)) : (s.after (.poll i verdict)).worker = s.worker := by
  obtain ⟨watched, -, ⟨-, -, e⟩ | ⟨-, -, -, e⟩ | ⟨-, -, -, e⟩⟩ := poll_cases h <;> rw [e] <;> rfl

theorem after_work (s : Shared α) (samples : Controller.Samples) :
    s.after (.work samples) =
      { s with
        controller := (s.controller.cycle samples s.now).1
        worker := .resting }.steer (s.controller.cycle samples s.now).2 :=
  rfl

theorem controller_after_work (s : Shared α) (samples : Controller.Samples) :
    (s.after (.work samples)).controller = (s.controller.cycle samples s.now).1 := by
  rw [after_work, controller_steer]

theorem clients_after_work (s : Shared α) (samples : Controller.Samples) :
    (s.after (.work samples)).clients = s.clients := by
  rw [after_work, clients_steer]

/-- The client whose step an event is. -/
def Event.client? : Event α → Option Nat
  | .ask i _ | .launch i | .wait i | .look i | .poll i _ => some i
  | _ => none

/-- A step of one client leaves the others where they stand. -/
theorem clients_after_of_ne {s : Shared α} {e : Event α} (enabled : s.Enabled e) {j : Nat}
    (hj : e.client? ≠ some j) : (s.after e).clients j = s.clients j := by
  have other : ∀ {t : Shared α} {i : Nat}, some i ≠ some j → ∀ c,
      (t.setClient i c).clients j = t.clients j :=
    fun {t} _ hi => t.clients_setClient_of_ne fun h => hi (congrArg some h.symm)
  cases e with
  | ask i r =>
      cases hr : s.controller.motion? r with
      | some m => rw [after_ask_of_accepted hr, other hj]
      | none => rw [after_ask_of_none hr, clients_steer]
  | launch i =>
      obtain ⟨m, -, e⟩ := launch_cases enabled
      rw [e, other hj]
  | wait i => exact other hj _
  | look i => exact other hj _
  | poll i verdict =>
      obtain ⟨watched, -, ⟨-, -, e⟩ | ⟨-, -, -, e⟩ | ⟨-, -, -, e⟩⟩ := poll_cases enabled
      · rw [e, other hj]
      · rw [e]
      · rw [e, other hj, clients_steer]
  | work samples => rw [clients_after_work]
  | _ => rfl

theorem resembles_after_scriptOutput (s : Shared α) (slot : Slot) (x : α) :
    s.controller.Resembles (s.after (.scriptOutput slot x)).controller := by
  refine s.controller.script_resembles slot ?_
  exact fun l => ⟨rfl, rfl⟩

theorem resembles_after_scriptSettled (s : Shared α) (slot : Slot) (b : Bool) :
    s.controller.Resembles (s.after (.scriptSettled slot b)).controller := by
  refine s.controller.script_resembles slot ?_
  exact fun l => ⟨rfl, rfl⟩

/-! ### Runs -/

/-- **The state that a history leads to.**  The newest event comes first. -/
def replay (s₀ : Shared α) : List (Event α) → Shared α
  | [] => s₀
  | e :: past => (replay s₀ past).after e

/-- Whether each step of a history could be made when its turn came. -/
def Possible (s₀ : Shared α) : List (Event α) → Prop
  | [] => True
  | e :: past => Possible s₀ past ∧ (replay s₀ past).Enabled e

instance decidablePossible (s₀ : Shared α) : (past : List (Event α)) → Decidable (Possible s₀ past)
  | [] => .isTrue trivial
  | _ :: past =>
      have := decidablePossible s₀ past
      inferInstanceAs (Decidable (_ ∧ _))

/-- A controller just created, on any drive, before anybody uses it. -/
structure Opened (s₀ : Shared α) : Prop where
  created : ∃ distance turn angle gearing scales period,
    Controller.create distance turn angle gearing scales period = .ok s₀.controller
  worker : s₀.worker = .off
  clients : ∀ i, s₀.clients i = .free

@[simp] theorem replay_nil (s₀ : Shared α) : replay s₀ [] = s₀ := rfl

@[simp] theorem replay_cons (s₀ : Shared α) (e : Event α) (past : List (Event α)) :
    replay s₀ (e :: past) = (replay s₀ past).after e := rfl

/-- **What holds at first and is kept by every step of a run holds after the run.** -/
theorem Possible.invariant {s₀ : Shared α} {P : List (Event α) → Shared α → Prop}
    (first : P [] s₀)
    (kept : ∀ past e, Possible s₀ past → (replay s₀ past).Enabled e → P past (replay s₀ past) →
      P (e :: past) ((replay s₀ past).after e)) :
    ∀ {past : List (Event α)}, Possible s₀ past → P past (replay s₀ past) := by
  intro past
  -- induction on the history, whose head is the last step
  induction past with
  | nil => exact fun _ => first
  | cons e past ih =>
      rintro ⟨before, enabled⟩
      exact kept past e before enabled (ih before)

/-! ### Runs one after another -/

theorem replay_append (s : Shared α) (later earlier : List (Event α)) :
    replay s (later ++ earlier) = replay (replay s earlier) later := by
  induction later with
  | nil => rfl
  | cons e later ih => rw [List.cons_append, replay_cons, replay_cons, ih]

theorem Possible.append {s : Shared α} {later earlier : List (Event α)}
    (first : Possible s earlier) (second : Possible (replay s earlier) later) :
    Possible s (later ++ earlier) := by
  induction later with
  | nil => exact first
  | cons e later ih =>
      obtain ⟨before, enabled⟩ := second
      refine ⟨ih before, ?_⟩
      rw [← replay_append] at enabled
      exact enabled

/-- **A run that could go on to another is two runs that could be made.** -/
theorem possible_append {s : Shared α} {later earlier : List (Event α)} :
    Possible s (later ++ earlier) ↔ Possible s earlier ∧ Possible (replay s earlier) later := by
  refine ⟨fun h => ?_, fun h => h.1.append h.2⟩
  induction later with
  | nil => exact ⟨h, trivial⟩
  | cons e later ih =>
      obtain ⟨before, enabled⟩ := h
      obtain ⟨first, second⟩ := ih before
      refine ⟨first, second, ?_⟩
      rw [← replay_append]
      exact enabled

theorem clients_replay_of_ne {s : Shared α} {past : List (Event α)} (possible : Possible s past)
    {j : Nat} (hj : ∀ e ∈ past, e.client? ≠ some j) : (replay s past).clients j = s.clients j := by
  induction past with
  | nil => rfl
  | cons e past ih =>
      obtain ⟨before, enabled⟩ := possible
      obtain ⟨he, hj⟩ := List.forall_mem_cons.1 hj
      exact (clients_after_of_ne enabled he).trans (ih before hj)

theorem possible_cons_append {s : Shared α} {e : Event α} {later earlier : List (Event α)} :
    Possible s (e :: later ++ earlier) ↔
      Possible s (later ++ earlier) ∧ (replay (replay s earlier) later).Enabled e := by
  rw [← replay_append]
  exact Iff.rfl

/-! ### A test bench -/

/-- Ten milliseconds are a period. -/
theorem tenMilliseconds_pos : 0 < 10000000 := by decide

/-- A controller of given loops, just created, on two motors of a test bench: encoder degrees for
units, direct gears, a cycle every ten milliseconds. -/
def bench (distance turn angle : Loop Float) : Shared Float where
  controller :=
    { scales := .unit
      gearing := .direct .green
      period := 10000000
      period_pos := tenMilliseconds_pos
      distance := distance
      turn := turn
      angle := angle
      mode := .none
      idle := true
      fresh := false
      baseline := ⟨0, 0⟩
      lastMode := .none
      mirrored := false
      moveThreshold := .zero
      turnThreshold := .zero }
  drive := ⟨.pair (.bench .new) (.bench .new), .builtIn, ⟨200, 12000⟩⟩
  now := 0
  worker := .off
  clients := fun _ => .free

theorem opened_bench (distance turn angle : Loop Float) : (bench distance turn angle).Opened where
  created := ⟨distance, turn, angle, .direct .green, .unit, 10000000, rfl⟩
  worker := rfl
  clients := fun _ => rfl

/-- A bench whose loops follow scripts. -/
def scripted : Shared Float := bench (.scripted .new) (.scripted .new) (.scripted .new)

theorem opened_scripted : scripted.Opened := opened_bench ..

end Shared

end Drivetrain
