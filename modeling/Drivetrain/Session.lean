/-
A session: a controller on its drive, its cycle, and the clock that both live by.

The clock stands still while something is computed.  It moves when it is told to, when a call
blocks, and while the cycle reads a slow sensor.  Whenever it moves to an instant, every cycle due
by then runs first, at its own time.

* `Drivetrain.Session` — controller, drive, clock, cycle and journal;
* `Drivetrain.Session.commission` — a controller set up on its drive, if it could be created;
* `Drivetrain.Session.tick` — one cycle at the present instant;
* `Drivetrain.Session.runDue` — **every cycle that is due**, and those that follow at once because
  a cycle missed its deadline;
* `Drivetrain.Session.perform` — what a client, or a hand on the bench, does without blocking;
* `Drivetrain.Session.wait` — a blocking wait, during which other things happen by a script.
-/

import Drivetrain.Controller.Announce
import Drivetrain.Pace
import Drivetrain.Timing
import Drivetrain.Undertaking

set_option relaxedAutoImplicit false
set_option autoImplicit false

namespace Drivetrain

/-- **A controller on its drive**, its cycle, and the clock that both live by. -/
structure Session (α : Type) where
  controller : Controller α
  drive : Drive α
  now : Nat
  /-- The pace of the cycle, once it runs; its last deadline is when the next cycle is due. -/
  cycle : Option Pace
  /-- How long the cycle's next readings take; those after them take no time. -/
  readCosts : List Nat
  /-- How long the cycles took. -/
  timing : Timing
  journal : Array (Notice α)

namespace Session

variable {α : Type} [Scalar α]

/-- A session at its first instant, on a drive that has been set up. -/
def atRest (controller : Controller α) (drive : Drive α) (readCosts : List Nat) : Session α where
  controller := controller
  drive := drive
  now := 0
  cycle := none
  readCosts := readCosts
  timing := .new controller.period
  journal := #[]

/-- A session that begins: the motors get the cartridge of the controller's gearing, and count in
degrees. -/
def begin (controller : Controller α) (drive : Drive α) (readCosts : List Nat) : Session α :=
  atRest controller (drive.performAll (Drive.settings controller.gearing.gearset)) readCosts

/-- **A controller set up on its drive**, if it could be created. -/
def commission (created : Except (SetupError α) (Controller α)) (drive : Drive α)
    (readCosts : List Nat) : Undertaking α (Session α) := do
  let controller ← Undertaking.demand created
  let drive ← Undertaking.act drive (Drive.settings controller.gearing.gearset)
  return atRest controller drive readCosts

/-- **What is done to set a controller up**: nothing if it could not be created, and else the settings
of its drive. -/
theorem outcome_commission (created : Except (SetupError α) (Controller α)) (d : Drive α)
    (readCosts : List Nat) (deeds : Deeds α) :
    (commission created d readCosts).outcome deeds =
      match created with
      | .ok c => (.ok (begin c d readCosts), deeds.after (Drive.settings c.gearing.gearset))
      | .error e => (.error e, deeds) := by
  rw [commission, Undertaking.outcome_bind, Undertaking.outcome_demand]
  cases created with
  | error e => rfl
  | ok c =>
      dsimp only
      rw [Undertaking.outcome_bind, Undertaking.outcome_act]
      rfl

def isRunning (s : Session α) : Bool := s.cycle.isSome

def note (s : Session α) (n : Notice α) : Session α := { s with journal := s.journal.push n }

/-- The drive after a maneuver, if there is one. -/
def steer (s : Session α) (m : Option (Maneuver α)) : Session α :=
  match m with
  | some m => { s with drive := s.drive.steer s.now m }
  | none => s

/-! ### The cycle -/

/-- The cycle reads both sides, which takes as long as the next reading costs. -/
def sense (s : Session α) : Readings × Session α :=
  let s := { s with now := s.now + s.readCosts.headD 0, readCosts := s.readCosts.tail }
  let (readings, drive) := s.drive.sense s.now
  (readings, { s with drive := drive })

/-- The readings of a cycle that has something to do: a new baseline if it needs one, and the
present if there is a motion to measure. -/
def sample (s : Session α) : Controller.Samples × Session α :=
  let (baseline, s) :=
    if s.controller.needsBaseline then s.sense else (s.controller.baseline, s)
  let (current, s) := if s.controller.mode = .none then (baseline, s) else s.sense
  (⟨baseline, current⟩, s)

/-- **One cycle at the present instant.**  Its duration is recorded if it had something to do. -/
def tick (s : Session α) : Session α :=
  if s.controller.idle then s
  else
    let began := s.now
    let (samples, s) := s.sample
    let (controller, maneuver) := s.controller.tick samples s.now
    let s := { s with controller := controller }.steer maneuver
    { s with timing := s.timing.record (s.now - began) }

theorem readCosts_sense (s : Session α) : s.sense.2.readCosts = s.readCosts.tail := rfl

theorem now_sense (s : Session α) : s.sense.2.now = s.now + s.readCosts.headD 0 := rfl

/-- Sampling uses up read costs, or takes no time. -/
theorem sample_cases (s : Session α) :
    s.sample.2.readCosts.length < s.readCosts.length ∨
      (s.sample.2.readCosts = s.readCosts ∧ s.sample.2.now = s.now) := by
  have once : ∀ s : Session α, s.sense.2.readCosts.length < s.readCosts.length ∨
      (s.sense.2.readCosts = s.readCosts ∧ s.sense.2.now = s.now) := by
    intro s
    rw [readCosts_sense, now_sense]
    cases s.readCosts <;> simp
  unfold sample
  by_cases hb : s.controller.needsBaseline
  · by_cases hm : s.controller.mode = .none
    · have hm' : s.sense.2.controller.mode = .none := hm
      simpa [hb, hm'] using once s
    · have hm' : ¬ s.sense.2.controller.mode = .none := hm
      simp only [hb, hm', if_true, if_false]
      rcases once s with h₁ | ⟨h₁, h₁'⟩ <;> rcases once s.sense.2 with h₂ | ⟨h₂, h₂'⟩
      · exact .inl (by omega)
      · exact .inl (by rw [h₂]; exact h₁)
      · exact .inl (by rw [h₁] at h₂; exact h₂)
      · exact .inr ⟨h₂.trans h₁, h₂'.trans h₁'⟩
  · by_cases hm : s.controller.mode = .none
    · simp [hb, hm]
    · simpa [hb, hm] using once s

theorem readCosts_steer (s : Session α) (m : Option (Maneuver α)) :
    (s.steer m).readCosts = s.readCosts := by
  cases m <;> rfl

theorem now_steer (s : Session α) (m : Option (Maneuver α)) : (s.steer m).now = s.now := by
  cases m <;> rfl

/-- A cycle uses up read costs, or takes no time. -/
theorem tick_cases (s : Session α) :
    s.tick.readCosts.length < s.readCosts.length ∨
      (s.tick.readCosts = s.readCosts ∧ s.tick.now = s.now) := by
  unfold tick
  by_cases hi : s.controller.idle
  · simp [hi]
  · simpa [hi, readCosts_steer, now_steer] using sample_cases s

/-- **Every cycle that is due** by an instant, or by the present if that is later, run at its own
time.  A cycle that ends past the next deadline makes the one after it due at once. -/
def runDue (s : Session α) (instant : Nat) : Session α :=
  match _hc : s.cycle with
  | none => s
  | some pace =>
      if pace.last ≤ max instant s.now then
        let after := { s with now := max s.now pace.last }.tick
        runDue { after with cycle := some (pace.next s.controller.period after.now) } instant
      else s
termination_by
  (s.readCosts.length, max instant s.now + 1 - (s.cycle.map Pace.last).getD 0)
decreasing_by
  rename_i hdue
  have hp := s.controller.period_pos
  have ht := tick_cases { s with now := max s.now pace.last }
  simp only [Prod.lex_def]
  rcases ht with h | ⟨h, h'⟩
  · exact .inl h
  · refine .inr ⟨congrArg List.length h, ?_⟩
    simp_all [Pace.next]
    omega

/-- The clock moved to an instant that may be past already. -/
def advanceTo (s : Session α) (instant : Nat) : Session α :=
  let s := s.runDue instant
  { s with now := max s.now instant }

/-- The cycle started, which reads the sensors once and runs at once.  A cycle that runs is not
started again. -/
def start (s : Session α) : Session α :=
  match s.cycle with
  | some _ => s
  | none =>
      let (baseline, s) := (s.note (.loopStarted s.controller.period)).sense
      runDue
        { s with
          controller := s.controller.started baseline
          cycle := some (.startingAt s.now) }
        s.now

/-- The cycle of a session at rest started, which first reads the sensors of its drive. -/
def launch (s : Session α) : Undertaking α (Session α) := do
  modify fun deeds => { deeds.after [(s.now + s.readCosts.headD 0, .sense)] with running := true }
  return s.start

/-- The cycle stopped, if it runs. -/
def close (s : Session α) : Session α :=
  if s.isRunning then { s.note .loopStopped with cycle := none } else s

/-! ### What is done without blocking -/

/-- What a client, or a hand on the bench, does without blocking. -/
inductive Action (α : Type) where
  | start
  | request (request : Controller.Request α)
  | advance (nanoseconds : Nat)
  /-- The drive is acted on past the controller. -/
  | drive (action : Drive.Action α)
  /-- A scripted loop is given an output. -/
  | scriptOutput (slot : Slot) (output : α)
  /-- A scripted loop is told whether it has settled. -/
  | scriptSettled (slot : Slot) (settled : Bool)

def request (s : Session α) (r : Controller.Request α) : Session α :=
  { s with
    controller := s.controller.request r
    journal := s.journal ++ s.controller.announce r }.steer r.maneuver?

/-- **The session after an action.** -/
def perform (s : Session α) : Action α → Session α
  | .start => s.start
  | .request r => s.request r
  | .advance t => s.advanceTo (s.now + t)
  | .drive a => { s with drive := s.drive.perform s.now a }
  | .scriptOutput slot x =>
      { s with controller := s.controller.script slot fun l => { l with output := x } }
  | .scriptSettled slot b =>
      { s with controller := s.controller.script slot fun l => { l with settled := b } }

end Session

end Drivetrain
