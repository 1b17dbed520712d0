/-
The course of a run: what the last motion, the last stop and the last end have determined.

The course is read off the history alone, without the controller.  The theorem of this module says
that the controller follows it: after any run, mode, idleness, targets and switches are those of the
last motion launched or ended, and of a stop since.  Cycles, looks, ignored requests, mirroring and
thresholds alter none of this.

Main definitions:

* `Drivetrain.Shared.mirrors`, `Drivetrain.Shared.asked` — whether turns are mirrored, and the
  motion that a client last asked for, by the history;
* `Drivetrain.Course`, `Drivetrain.Shared.course` — what a history determines;
* `Drivetrain.Course.Fits` — whether a posture is that of a course.

Main results:

* `Drivetrain.Shared.posture_after` — an event that determines nothing leaves the posture;
* `Drivetrain.Shared.Possible.tracks` — **the invariant of every run**;
* `Drivetrain.Shared.state_follows_course` — the controller follows its course.
-/

import Drivetrain.Proofs.Shared

set_option relaxedAutoImplicit false
set_option autoImplicit false

namespace Drivetrain

variable {α : Type}

/-! ### Courses -/

/-- **What a history determines**: the last motion launched, unless it was ended, and whether a stop
came since. -/
inductive Course (α : Type) where
  | untouched
  | move (distance : Length α) (stopped : Bool)
  /-- A turn in place, mirrored if turns were when it was accepted. -/
  | turn (angle : Angle α) (mirrored stopped : Bool)
  | ended

namespace Course

/-- The course after a motion is launched. -/
def begun : Controller.Motion α → Course α
  | .move x => move x false
  | .turn x mirrored => turn x mirrored false

/-- The course after a stop. -/
def stop : Course α → Course α
  | untouched => untouched
  | move x _ => move x true
  | turn x mirrored _ => turn x mirrored true
  | ended => ended

variable [Scalar α]

/-- **Whether a posture is that of a course**, for a controller with given scales and gears.  The
targets are in motor degrees. -/
def Fits (wiring : Controller α) (p : Controller.Posture α) : Course α → Prop
  | untouched => p.mode = .none
  | move x stopped =>
      p.mode = .distance ∧
        p.distance = ⟨x.meters * wiring.scales.straight * wiring.gearing.ratio, stopped⟩ ∧
        p.angle = ⟨0, stopped⟩ ∧ p.turn.disabled = true
  | turn x mirrored stopped =>
      p.mode = .angle ∧
        p.turn = ⟨x.degrees * wiring.scales.turn * wiring.gearing.ratio *
          (if mirrored then -1 else 1), stopped⟩ ∧
        p.distance.disabled = true ∧ p.angle.disabled = true
  | ended =>
      p.mode = .none ∧ p.distance.disabled = true ∧ p.angle.disabled = true ∧
        p.turn.disabled = true

end Course

namespace Shared

/-! ### Histories -/

/-- Whether turns are mirrored, by the history. -/
def mirrors : List (Event α) → Bool
  | [] => false
  | .ask _ (.mirror b) :: _ => b
  | _ :: past => mirrors past

variable [Scalar α]

/-- The motion that a request asks for, by scales and mirroring, whatever the thresholds. -/
def wanted (wiring : Controller α) (mirrored : Bool) :
    Controller.Request α → Option (Controller.Motion α)
  | .move x => some (.move x)
  | .moveRaw t => some (.move ⟨t / wiring.scales.straight⟩)
  | .turn x => some (.turn x mirrored)
  | .turnRaw t => some (.turn ⟨t / wiring.scales.turn⟩ mirrored)
  | .mirror _ | .stop | .setMoveThreshold _ | .setTurnThreshold _ => none

/-- The motion that a client last asked for, by the history. -/
def asked (wiring : Controller α) (i : Nat) : List (Event α) → Option (Controller.Motion α)
  | [] => none
  | .ask j r :: past => if j = i then wanted wiring (mirrors past) r else asked wiring i past
  | _ :: past => asked wiring i past

/-- **What a history determines.**  A launch begins the motion that its client last asked for. -/
def course (wiring : Controller α) : List (Event α) → Course α
  | [] => .untouched
  | .launch i :: past => ((asked wiring i past).map Course.begun).getD (course wiring past)
  | .poll _ .finished :: _ => .ended
  | .ask _ .stop :: past => (course wiring past).stop
  | _ :: past => course wiring past

/-- Whether an event determines something: a motion launched or ended, or a stop. -/
def Event.decides : Event α → Bool
  | .launch _ | .poll _ .finished | .ask _ .stop => true
  | _ => false

/-! ### Postures of courses -/

/-- A controller set on a motion is in the posture of it. -/
theorem fits_launch {wiring c : Controller α} (h : wiring.Wired c) (m : Controller.Motion α) :
    (Course.begun m).Fits wiring (c.launch m).posture := by
  cases m with
  | move x =>
      have target : c.moveTarget x =
          x.meters * wiring.scales.straight * wiring.gearing.ratio := h.moveTarget x
      simp [Course.begun, Course.Fits, Controller.posture, Controller.launch, Controller.beginMove,
        Loop.setting, target]
  | turn x mirrored =>
      have target : c.turnTarget x mirrored = x.degrees * wiring.scales.turn *
          wiring.gearing.ratio * (if mirrored then -1 else 1) := h.turnTarget x mirrored
      simp [Course.begun, Course.Fits, Controller.posture, Controller.launch, Controller.beginTurn,
        Loop.setting, target]

omit [Scalar α] in
theorem setting_setDisabled {l : Loop α} {setting : Loop.Setting α} (h : l.setting = setting) :
    (l.setDisabled true).setting = ⟨setting.target, true⟩ := by
  subst h
  simp [Loop.setting]

/-- A controller whose loops are switched off is in the posture of its course, stopped. -/
theorem fits_stop {wiring c : Controller α} {course : Course α}
    (h : course.Fits wiring c.posture) : course.stop.Fits wiring c.disableAll.posture := by
  cases course with
  | untouched => exact h
  | move x stopped =>
      -- the targets stay, and the loops are off whether they were before or not
      obtain ⟨mode, distance, angle, -⟩ := h
      exact ⟨mode, setting_setDisabled distance, setting_setDisabled angle,
        Loop.isDisabled_setDisabled ..⟩
  | turn x mirrored stopped =>
      obtain ⟨mode, turn, -, -⟩ := h
      exact ⟨mode, setting_setDisabled turn, Loop.isDisabled_setDisabled ..,
        Loop.isDisabled_setDisabled ..⟩
  | ended =>
      exact ⟨h.1, Loop.isDisabled_setDisabled .., Loop.isDisabled_setDisabled ..,
        Loop.isDisabled_setDisabled ..⟩

theorem fits_finish (wiring c : Controller α) : Course.ended.Fits wiring c.finish.posture :=
  ⟨rfl, Loop.isDisabled_setDisabled .., Loop.isDisabled_setDisabled ..,
    Loop.isDisabled_setDisabled ..⟩

/-! ### What decides nothing -/

omit [Scalar α] in
theorem maneuver?_of_not_decides {i : Nat} {r : Controller.Request α}
    (h : (Event.ask i r).decides = false) : r.maneuver? = none := by
  cases r with
  | stop => simp [Event.decides] at h
  | _ => rfl

/-- **An event that determines nothing leaves the posture.** -/
theorem posture_after {s : Shared α} {e : Event α} (enabled : s.Enabled e)
    (h : e.decides = false) :
    (s.after e).controller.posture = s.controller.posture := by
  cases e with
  | ask i r =>
      cases hm : s.controller.motion? r with
      | some m => rw [after_ask_of_accepted hm]; rfl
      | none =>
          rw [after_ask_of_none hm, controller_steer]
          exact s.controller.posture_adjust (maneuver?_of_not_decides h)
  | launch i => simp [Event.decides] at h
  | poll i verdict =>
      obtain ⟨watched, -, ⟨rfl, -, e⟩ | ⟨rfl, -, -, e⟩ | ⟨rfl, -⟩⟩ := poll_cases enabled
      · rw [e]; rfl
      · rw [e]; exact (s.controller.checkSettled_resembles ..).posture
      · simp [Event.decides] at h
  | work samples => rw [controller_after_work]; exact s.controller.posture_cycle ..
  | scriptOutput slot x => exact (s.resembles_after_scriptOutput slot x).posture
  | scriptSettled slot b => exact (s.resembles_after_scriptSettled slot b).posture
  | _ => rfl

omit [Scalar α] in
theorem course_of_not_decides [Scalar α] (wiring : Controller α) {e : Event α}
    (h : e.decides = false) (past : List (Event α)) :
    course wiring (e :: past) = course wiring past := by
  cases e with
  | ask i r => cases r <;> first | rfl | simp [Event.decides] at h
  | poll i verdict => cases verdict <;> first | rfl | simp [Event.decides] at h
  | launch i => simp [Event.decides] at h
  | _ => rfl

/-! ### The invariant -/

/-- **What every run keeps**: the controller follows the course of its history, and every motion
accepted is the one that its client asked for. -/
structure Tracks (wiring : Controller α) (past : List (Event α)) (s : Shared α) : Prop where
  wired : wiring.Wired s.controller
  /-- Turns are mirrored as the history has it. -/
  mirrored : s.controller.mirrored = mirrors past
  /-- A motion that was accepted is the one that was asked for. -/
  accepted : ∀ i m, (s.clients i).motion? = some m → asked wiring i past = some m
  idle : s.controller.posture.mode = .none ↔ s.controller.posture.idle = true
  fits : (course wiring past).Fits wiring s.controller.posture

theorem wanted_of_motion? {wiring c : Controller α} (h : wiring.Wired c)
    {r : Controller.Request α} {m : Controller.Motion α} (hm : c.motion? r = some m) :
    wanted wiring c.mirrored r = some m := by
  cases r with
  | move x => exact (Option.ite_none_left_eq_some.1 hm).2
  | moveRaw t => rw [wanted, ← h.scales]; exact (Option.ite_none_left_eq_some.1 hm).2
  | turn x => exact (Option.ite_none_left_eq_some.1 hm).2
  | turnRaw t => rw [wanted, ← h.scales]; exact (Option.ite_none_left_eq_some.1 hm).2
  | _ => simp [Controller.motion?] at hm

theorem wired_after {s : Shared α} {e : Event α} (enabled : s.Enabled e) :
    s.controller.Wired (s.after e).controller := by
  cases e with
  | ask i r =>
      cases hm : s.controller.motion? r with
      | some m => rw [after_ask_of_accepted hm]; exact .refl _
      | none => rw [after_ask_of_none hm, controller_steer]; exact s.controller.adjust_wired r
  | launch i =>
      obtain ⟨m, -, e⟩ := launch_cases enabled
      rw [e]
      exact s.controller.launch_wired m
  | poll i verdict =>
      obtain alike | ⟨c, alike, e⟩ := resembles_after_poll enabled
      · exact alike.wired
      · rw [e]
        exact alike.wired.trans c.finish_wired
  | work samples => rw [controller_after_work]; exact s.controller.cycle_wired ..
  | scriptOutput slot x => exact (s.resembles_after_scriptOutput slot x).wired
  | scriptSettled slot b => exact (s.resembles_after_scriptSettled slot b).wired
  | start baseline => exact ⟨rfl, rfl, rfl, fun _ => rfl⟩
  | _ => exact .refl _

theorem wired_replay {s : Shared α} {past : List (Event α)} (possible : Possible s past) :
    s.controller.Wired (replay s past).controller := by
  refine Possible.invariant (P := fun _ t => s.controller.Wired t.controller) (.refl _) ?_ possible
  intro past e _ enabled wired
  exact wired.trans (wired_after enabled)

/-- Only a request to mirror turns, or not to, changes whether they are mirrored. -/
theorem mirrored_after {s : Shared α} {e : Event α} {past : List (Event α)}
    (enabled : s.Enabled e) (h : s.controller.mirrored = mirrors past) :
    (s.after e).controller.mirrored = mirrors (e :: past) := by
  cases e with
  | ask i r =>
      cases hm : s.controller.motion? r with
      | some m =>
          rw [after_ask_of_accepted hm]
          cases r with
          | mirror b => simp [Controller.motion?] at hm
          | _ => exact h
      | none =>
          rw [after_ask_of_none hm, controller_steer]
          cases r with
          | mirror b => rfl
          | _ => exact h
  | launch i =>
      obtain ⟨m, -, e⟩ := launch_cases enabled
      rw [e]
      cases m <;> exact h
  | poll i verdict =>
      obtain alike | ⟨c, alike, e⟩ := resembles_after_poll enabled
      · exact alike.mirrored.trans h
      · rw [e]
        exact alike.mirrored.trans h
  | work samples =>
      rw [controller_after_work]
      exact (s.controller.cycle_resembles ..).mirrored.trans h
  | scriptOutput slot x => exact (s.resembles_after_scriptOutput slot x).mirrored.trans h
  | scriptSettled slot b => exact (s.resembles_after_scriptSettled slot b).mirrored.trans h
  | _ => exact h

omit [Scalar α] in
theorem motion?_setClient {s : Shared α} {i : Nat} {c : Client α} (h : c.motion? = none) {j : Nat}
    {m : Controller.Motion α} (hm : ((s.setClient i c).clients j).motion? = some m) :
    (s.clients j).motion? = some m := by
  by_cases hj : j = i
  · subst hj
    rw [clients_setClient_self, h] at hm
    cases hm
  · rwa [clients_setClient_of_ne s hj] at hm

/-- A motion that stands accepted after an event is the one that its client asked for. -/
theorem accepted_after {wiring : Controller α} {s : Shared α} {e : Event α}
    {past : List (Event α)} (enabled : s.Enabled e) (h : Tracks wiring past s) {j : Nat}
    {m : Controller.Motion α} (hm : ((s.after e).clients j).motion? = some m) :
    asked wiring j (e :: past) = some m := by
  cases e with
  | ask i r =>
      by_cases hj : i = j
      · subst hj
        rw [asked, if_pos rfl, ← h.mirrored]
        cases hr : s.controller.motion? r with
        | some wants =>
            rw [after_ask_of_accepted hr, clients_setClient_self] at hm
            cases hm
            exact wanted_of_motion? h.wired hr
        | none =>
            -- the request was none for a motion, and a client that asks has none accepted
            rw [after_ask_of_none hr, clients_steer] at hm
            cases hc : s.clients i <;> simp_all [Enabled, Client.isFree, Client.motion?]
      · rw [asked, if_neg hj]
        refine h.accepted j m ?_
        cases hr : s.controller.motion? r with
        | some wants =>
            rwa [after_ask_of_accepted hr, clients_setClient_of_ne s (Ne.symm hj)] at hm
        | none => rwa [after_ask_of_none hr, clients_steer] at hm
  | launch i =>
      obtain ⟨launched, -, e⟩ := launch_cases enabled
      rw [e] at hm
      exact h.accepted j m (motion?_setClient rfl hm)
  | poll i verdict =>
      obtain ⟨watched, -, ⟨-, -, e⟩ | ⟨-, -, -, e⟩ | ⟨-, -, -, e⟩⟩ := poll_cases enabled
      · rw [e] at hm; exact h.accepted j m (motion?_setClient rfl hm)
      · rw [e] at hm; exact h.accepted j m hm
      · rw [e] at hm
        have still := motion?_setClient rfl hm
        rw [clients_steer] at still
        exact h.accepted j m still
  | wait i => exact h.accepted j m (motion?_setClient rfl hm)
  | look i => exact h.accepted j m (motion?_setClient rfl hm)
  | work samples => rw [clients_after_work] at hm; exact h.accepted j m hm
  | _ => exact h.accepted j m hm

/-- An event that determines something brings the controller to the posture of its new course. -/
theorem fits_after {wiring : Controller α} {s : Shared α} {e : Event α} {past : List (Event α)}
    (enabled : s.Enabled e) (h : Tracks wiring past s) (he : e.decides = true) :
    (course wiring (e :: past)).Fits wiring (s.after e).controller.posture ∧
      ((s.after e).controller.posture.mode = .none ↔
        (s.after e).controller.posture.idle = true) := by
  cases e with
  | ask i r =>
      cases r with
      | stop => exact ⟨fits_stop h.fits, h.idle⟩
      | _ => simp [Event.decides] at he
  | launch i =>
      obtain ⟨m, hm, e⟩ := launch_cases enabled
      rw [e, course, h.accepted i m hm]
      refine ⟨fits_launch h.wired m, ?_⟩
      cases m <;> exact iff_of_false nofun nofun
  | poll i verdict =>
      cases verdict with
      | finished =>
          obtain ⟨watched, -, ⟨⟨⟩, -⟩ | ⟨⟨⟩, -⟩ | ⟨-, -, -, e⟩⟩ := poll_cases enabled
          rw [e]
          exact ⟨fits_finish wiring _, iff_of_true rfl rfl⟩
      | _ => simp [Event.decides] at he
  | _ => simp [Event.decides] at he

theorem Tracks.step {wiring : Controller α} {s : Shared α} {e : Event α} {past : List (Event α)}
    (h : Tracks wiring past s) (enabled : s.Enabled e) :
    Tracks wiring (e :: past) (s.after e) := by
  have kept : (course wiring (e :: past)).Fits wiring (s.after e).controller.posture ∧
      ((s.after e).controller.posture.mode = .none ↔
        (s.after e).controller.posture.idle = true) := by
    -- an event that determines nothing leaves course and posture alike
    cases he : e.decides with
    | true => exact fits_after enabled h he
    | false =>
        rw [posture_after enabled he, course_of_not_decides wiring he]
        exact ⟨h.fits, h.idle⟩
  exact
    { wired := h.wired.trans (wired_after enabled)
      mirrored := mirrored_after enabled h.mirrored
      accepted := fun i m hm => accepted_after enabled h hm
      idle := kept.2
      fits := kept.1 }

theorem Opened.tracks {s₀ : Shared α} (h : s₀.Opened) : Tracks s₀.controller [] s₀ := by
  obtain ⟨⟨distance, turn, angle, gearing, scales, period, created⟩, -, free⟩ := h
  have atRest := Controller.of_create created
  exact
    { wired := .refl _
      mirrored := atRest.mirrored
      accepted := fun i m hm => by rw [free i] at hm; cases hm
      idle := iff_of_true atRest.mode atRest.idle
      fits := atRest.mode }

/-- **The invariant of every run.** -/
theorem Possible.tracks {s₀ : Shared α} (opened : s₀.Opened) {past : List (Event α)}
    (possible : Possible s₀ past) : Tracks s₀.controller past (replay s₀ past) := by
  refine Possible.invariant (P := Tracks s₀.controller) opened.tracks ?_ possible
  intro past e _ enabled h
  exact h.step enabled

/-! ### The theorem -/

/-- **The controller follows the course of its history.**  After any run its mode is that of
nothing exactly when there is nothing to do, and it is in the posture that the last motion launched
or ended, and a stop since, determine.  No other event touches that posture. -/
theorem state_follows_course {s₀ : Shared α} (opened : s₀.Opened) {past : List (Event α)}
    (possible : Possible s₀ past) :
    ((replay s₀ past).controller.mode = .none ↔ (replay s₀ past).controller.idle = true) ∧
      (course s₀.controller past).Fits s₀.controller (replay s₀ past).controller.posture ∧
      ∀ e, (replay s₀ past).Enabled e → e.decides = false →
        (replay s₀ past).controller.posture = ((replay s₀ past).after e).controller.posture := by
  have tracks := possible.tracks opened
  refine ⟨tracks.idle, tracks.fits, ?_⟩
  intro e enabled he
  exact (posture_after enabled he).symm

/-- A turn accepted while turns were mirrored, launched when they no longer are, and stopped. -/
def stoppedTurn : List (Event Float) :=
  [.ask 1 .stop, .work ⟨⟨0, 0⟩, ⟨5, -5⟩⟩, .wake, .start ⟨0, 0⟩, .launch 0, .ask 1 (.mirror false),
    .ask 0 (.turn ⟨90⟩), .ask 1 (.mirror true)]

/-- It keeps its mirrored target, and stays a turn though its loop is off. -/
theorem state_follows_course_of_stoppedTurn :
    (replay scripted stoppedTurn).controller.posture.mode = .angle ∧
      (replay scripted stoppedTurn).controller.posture.turn =
        ⟨scripted.controller.turnTarget ⟨90⟩ true, true⟩ ∧
      (replay scripted stoppedTurn).controller.posture.turn = ⟨-90, true⟩ := by
  have possible : Possible scripted stoppedTurn := by decide +kernel
  obtain ⟨mode, turn, -⟩ := (state_follows_course opened_scripted possible).2.1
  exact ⟨mode, turn, turn⟩

end Shared

end Drivetrain
