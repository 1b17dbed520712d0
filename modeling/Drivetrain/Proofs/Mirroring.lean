/-
Mirroring: what it is to have turns mirrored, and when that matters.

A mirrored turn is the opposite turn, down to the sign of zero.  Whether turns are mirrored only
matters when one is accepted: from then on a motion carries what it was accepted with, and all that
is done goes on as it would have gone on, until somebody launches what was asked for later.

Main definitions:

* `Drivetrain.Shared.Toggled` — two shared controllers that differ in whether turns are mirrored,
  and in what was accepted since;
* `Drivetrain.Shared.turning` — the clients that ask for a turn in a run.

Main results:

* `Drivetrain.Controller.request_turn_mirrored`, `Drivetrain.Controller.request_turnRaw_mirrored` —
  **a mirrored turn is the opposite turn**;
* `Drivetrain.Shared.Toggled.enabled`, `Drivetrain.Shared.Toggled.maneuver?`,
  `Drivetrain.Shared.Toggled.after` — a step that launches nothing accepted since is the same step;
* `Drivetrain.Shared.toggled_replay` — what was accepted **goes on as it would have gone on**.
-/

import Mathlib
import Drivetrain.Proofs.Commands
import Drivetrain.Proofs.Reflection

set_option relaxedAutoImplicit false
set_option autoImplicit false

namespace Drivetrain

open Controller (Samples Request Motion)
open Machine (Image)

/-! ### Mirrored turns -/

namespace Controller

/-- What is asked for at once, turns mirrored or not. -/
theorem request_turn {α : Type} [Scalar α] (c : Controller α) (b : Bool) (x : Angle α) :
    (c.request (.mirror b)).request (.turn x) =
      if c.ignoresTurn x then c.request (.mirror b)
      else (c.request (.mirror b)).beginTurn (c.turnTarget x b) := by
  have asked : (c.request (.mirror b)).motion? (.turn x) =
      if c.ignoresTurn x then none else some (.turn x b) := rfl
  rw [request.eq_def (c.request _), asked]
  cases c.ignoresTurn x <;> rfl

section Opposite

variable {x x' : Angle Float} (h : x'.degrees.toModel.unpack = x.degrees.toModel.unpack.neg)

include h

/-- **A mirrored turn has the target of the opposite turn**, down to the sign of zero. -/
theorem turnTarget_mirrored (c : Controller Float) :
    c.turnTarget x true = c.turnTarget x' false := by
  have scaled := Machine.unpack_mul_of_neg (Machine.unpack_mul_of_neg h c.scales.turn)
    c.gearing.ratio
  exact (Machine.mul_of_neg scaled 1).symm

theorem ignoresTurn_of_neg (c : Controller Float) : c.ignoresTurn x' = c.ignoresTurn x := by
  have image : Image .negative x.degrees x'.degrees := by
    rw [Image, h]
    exact Machine.mirrors_neg _
  have same : x'.abs.degrees = x.abs.degrees := image.abs_eq
  rw [ignoresTurn, ignoresTurn, same]

/-- A mirrored turn asked for at once is the opposite turn. -/
theorem request_turn_of_neg (c : Controller Float) :
    (c.request (.mirror true)).request (.turn x) =
      ((c.request (.mirror false)).request (.turn x')).request (.mirror true) := by
  have target := turnTarget_mirrored h c
  have ignores := ignoresTurn_of_neg h c
  rw [request_turn, request_turn, ignores, target]
  split <;> rfl

end Opposite

/-- **A mirrored turn is the opposite turn**, not mirrored. -/
theorem request_turn_mirrored (c : Controller Float) (x : Angle Float) :
    (c.request (.mirror true)).request (.turn x) =
      ((c.request (.mirror false)).request (.turn (-x))).request (.mirror true) :=
  request_turn_of_neg (Machine.unpack_neg _) c

/-- The same of a turn in wheel degrees. -/
theorem request_turnRaw_mirrored (c : Controller Float) (t : Float) :
    (c.request (.mirror true)).request (.turnRaw t) =
      ((c.request (.mirror false)).request (.turnRaw (-t))).request (.mirror true) := by
  have opposite : (c.rawAngle (-t)).degrees.toModel.unpack =
      (c.rawAngle t).degrees.toModel.unpack.neg :=
    Machine.unpack_div_of_neg (Machine.unpack_neg t) c.scales.turn
  exact request_turn_of_neg opposite c

/-! ### What the mirroring of turns does not touch -/

section Mirror

variable {α : Type} [Scalar α] (c : Controller α) (b : Bool)

theorem motion?_mirror {r : Request α} (hr : r.turns = false) :
    (c.request (.mirror b)).motion? r = c.motion? r := by
  cases r with
  | turn | turnRaw => cases hr
  | _ => rfl

theorem isSome_motion?_mirror (r : Request α) :
    ((c.request (.mirror b)).motion? r).isSome = (c.motion? r).isSome := by
  have turns : ∀ x, ((c.request (.mirror b)).acceptTurn x).isSome = (c.acceptTurn x).isSome := by
    intro x
    have ignores : (c.request (.mirror b)).ignoresTurn x = c.ignoresTurn x := rfl
    rw [acceptTurn, acceptTurn, ignores]
    cases c.ignoresTurn x <;> rfl
  cases r with
  | turn x => exact turns x
  | turnRaw t => exact turns _
  | _ => rfl

theorem launch_mirror (m : Motion α) :
    (c.request (.mirror b)).launch m = (c.launch m).request (.mirror b) := by
  cases m <;> rfl

theorem adjust_mirror (r : Request α) :
    ∃ b', (c.request (.mirror b)).adjust r = (c.adjust r).request (.mirror b') := by
  cases r with
  | mirror b' => exact ⟨b', rfl⟩
  | _ => exact ⟨b, rfl⟩

theorem cycle_mirror (samples : Samples) (now : Nat) :
    (c.request (.mirror b)).cycle samples now =
      ((c.cycle samples now).1.request (.mirror b), (c.cycle samples now).2) := by
  cases h : c.mode with
  | none =>
      have h' : (c.request (.mirror b)).mode = .none := h
      rw [cycle_of_none h, cycle_of_none h']
      rfl
  | distance =>
      have h' : (c.request (.mirror b)).mode = .distance := h
      rw [cycle_of_distance h, cycle_of_distance h']
      rfl
  | angle =>
      have h' : (c.request (.mirror b)).mode = .angle := h
      rw [cycle_of_angle h, cycle_of_angle h']
      rfl

theorem checkSettled_mirror (now : Nat) (mode : Mode) :
    (c.request (.mirror b)).checkSettled now mode =
      ((c.checkSettled now mode).1, (c.checkSettled now mode).2.request (.mirror b)) := by
  cases mode with
  | none | angle => rfl
  | distance =>
      have loops : (c.request (.mirror b)).distance = c.distance := rfl
      simp only [checkSettled, loops]
      split <;> rfl

theorem poll_mirror (watched : Mode) (now : Nat) :
    (c.request (.mirror b)).poll watched now =
      ((c.poll watched now).1, (c.poll watched now).2.request (.mirror b)) := by
  have mode : (c.request (.mirror b)).mode = c.mode := rfl
  simp only [poll, mode, checkSettled_mirror]
  split
  · rfl
  · split <;> rfl

theorem script_mirror (slot : Slot) (f : ScriptedLoop α → ScriptedLoop α) :
    (c.request (.mirror b)).script slot f = (c.script slot f).request (.mirror b) := by
  cases slot <;> rfl

end Mirror

end Controller

/-! ### The mirroring of turns said to be other than it was -/

/-- A client that has accepted a motion is about to do nothing else. -/
theorem Client.isSome_motion? {α : Type} {c : Client α}
    (h : c.isFree = true ∨ c.isDeciding = true ∨ c.watched?.isSome) : c.motion?.isSome = false := by
  cases c with
  | accepted m => simp [Client.isFree, Client.isDeciding, Client.watched?] at h
  | _ => rfl

namespace Shared

/-- Whether an event asks for a turn. -/
def Event.turns {α : Type} : Event α → Bool
  | .ask _ r => r.turns
  | _ => false

variable {α : Type} [Scalar α]

/-- **Two states that differ in whether turns are mirrored**, and but for that only in the motions
that some late clients have accepted since. -/
structure Toggled (late : Nat → Prop) (s s' : Shared α) : Prop where
  controller : ∃ b, s'.controller = s.controller.request (.mirror b)
  drive : s'.drive = s.drive
  now : s'.now = s.now
  worker : s'.worker = s.worker
  clients : ∀ i, s'.clients i = s.clients i ∨
    late i ∧ (s.clients i).motion?.isSome = true ∧ (s'.clients i).motion?.isSome = true

namespace Toggled

variable {late later : Nat → Prop} {s s' : Shared α}

theorem client (h : s.Toggled late s') {i : Nat}
    (hi : (s.clients i).motion?.isSome = true → ¬ late i) : s'.clients i = s.clients i := by
  rcases h.clients i with same | ⟨after, accepted, -⟩
  · exact same
  · exact absurd after (hi accepted)

/-- A client that stands anywhere but before a launch stands there in both. -/
theorem client_of_other (h : s.Toggled late s') {i : Nat}
    (other : (s.clients i).isFree = true ∨ (s.clients i).isDeciding = true ∨
      (s.clients i).watched?.isSome) : s'.clients i = s.clients i := by
  refine h.client fun accepted => ?_
  rw [Client.isSome_motion? other] at accepted
  cases accepted

theorem mono (h : s.Toggled late s') (le : ∀ i, late i → later i) : s.Toggled later s' :=
  { h with
    clients := fun i =>
      (h.clients i).imp_right fun accepted => ⟨le i accepted.1, accepted.2⟩ }

theorem setClient (h : s.Toggled late s') (i : Nat) {c c' : Client α}
    (same : c' = c ∨ late i ∧ c.motion?.isSome = true ∧ c'.motion?.isSome = true) :
    (s.setClient i c).Toggled late (s'.setClient i c') where
  controller := h.controller
  drive := h.drive
  now := h.now
  worker := h.worker
  clients := clients_setClient_both (R := fun j c c' =>
    c' = c ∨ late j ∧ c.motion?.isSome = true ∧ c'.motion?.isSome = true) h.clients same

theorem set (h : s.Toggled late s') {c c' : Controller α} {w w' : Worker}
    (controllers : ∃ b, c' = c.request (.mirror b)) (workers : w' = w) :
    Toggled late { s with controller := c, worker := w }
      { s' with controller := c', worker := w' } :=
  ⟨controllers, h.drive, h.now, workers, h.clients⟩

theorem steer (h : s.Toggled late s') (m : Option (Maneuver α)) :
    (s.steer m).Toggled late (s'.steer m) := by
  cases m with
  | none => exact h
  | some m =>
      refine ⟨h.controller, ?_, h.now, h.worker, h.clients⟩
      rw [Shared.steer, Shared.steer, h.drive, h.now]

/-- What a client sees is the same. -/
theorem seen (h : s.Toggled late s') (watched : Mode) :
    (s'.seen watched).1 = (s.seen watched).1 ∧
      ∃ b, (s'.seen watched).2 = (s.seen watched).2.request (.mirror b) := by
  obtain ⟨b, controller⟩ := h.controller
  rw [Shared.seen, Shared.seen, controller, h.now, Controller.poll_mirror]
  exact ⟨rfl, b, rfl⟩

/-- **A step that can be made in the one can be made in the other**, unless it launches what was
accepted late. -/
theorem enabled (h : s.Toggled late s') {e : Event α} (enabled : s.Enabled e)
    (early : ∀ i, e = .launch i → ¬ late i) : s'.Enabled e := by
  cases e with
  | ask i r =>
      rw [Enabled, h.client_of_other (.inl enabled)]
      exact enabled
  | wait i =>
      rw [Enabled, h.client_of_other (.inl enabled)]
      exact enabled
  | launch i =>
      rw [Enabled, h.client fun _ => early i rfl]
      exact enabled
  | look i =>
      rw [Enabled, h.client_of_other (.inr (.inl enabled))]
      exact enabled
  | poll i verdict =>
      obtain ⟨watched, hw, -⟩ := Option.map_eq_some_iff.1 enabled
      have seen : ∀ watched, (s'.seen watched).1 = (s.seen watched).1 := fun w => (h.seen w).1
      rw [Enabled, h.client_of_other (.inr (.inr (by rw [hw]; rfl)))]
      simp only [seen]
      exact enabled
  | start | wake | work =>
      rw [Enabled, h.worker]
      exact enabled
  | _ => trivial

/-- **A step asks the same of the chassis** in both. -/
theorem maneuver? (h : s.Toggled late s') (e : Event α) : s'.maneuver? e = s.maneuver? e := by
  cases e with
  | poll i verdict => cases verdict <;> rfl
  | work samples =>
      obtain ⟨b, controller⟩ := h.controller
      rw [Shared.maneuver?, Shared.maneuver?, controller, h.now, Controller.cycle_mirror]
  | _ => rfl

theorem ask (h : s.Toggled late s') (i : Nat) {r : Request α} (turns : r.turns = true → late i) :
    (s.after (.ask i r)).Toggled late (s'.after (.ask i r)) := by
  obtain ⟨b, controller⟩ := h.controller
  have accepted : (s'.controller.motion? r).isSome = (s.controller.motion? r).isSome := by
    rw [controller, Controller.isSome_motion?_mirror]
  cases hr : s.controller.motion? r with
  | none =>
      rw [hr, Option.isSome_none, Option.isSome_eq_false_iff, Option.isNone_iff_eq_none] at accepted
      rw [after_ask_of_none hr, after_ask_of_none accepted]
      refine (h.set ?_ h.worker).steer _
      rw [controller]
      exact s.controller.adjust_mirror b r
  | some m =>
      rw [hr, Option.isSome_some, Option.isSome_iff_exists] at accepted
      obtain ⟨m', hr'⟩ := accepted
      rw [after_ask_of_accepted hr, after_ask_of_accepted hr']
      refine h.setClient i ?_
      cases asked : r.turns with
      | true => exact .inr ⟨turns asked, rfl, rfl⟩
      | false =>
          -- only a turn is accepted otherwise than it was
          rw [controller, s.controller.motion?_mirror b asked, hr] at hr'
          exact .inl (congrArg Client.accepted (Option.some.inj hr').symm)

theorem launch (h : s.Toggled late s') {i : Nat} (enabled : s.Enabled (.launch i))
    (early : ¬ late i) : (s.after (.launch i)).Toggled late (s'.after (.launch i)) := by
  obtain ⟨b, controller⟩ := h.controller
  obtain ⟨m, hm, e⟩ := launch_cases enabled
  obtain ⟨m', hm', e'⟩ := launch_cases (h.enabled enabled fun j hj => by cases hj; exact early)
  rw [h.client fun _ => early, hm] at hm'
  obtain rfl : m = m' := Option.some.inj hm'
  rw [e, e']
  refine (h.set ⟨b, ?_⟩ h.worker).setClient i (.inl rfl)
  rw [controller, Controller.launch_mirror]

theorem poll (h : s.Toggled late s') {i : Nat} {verdict : Controller.Verdict}
    (enabled : s.Enabled (.poll i verdict)) :
    (s.after (.poll i verdict)).Toggled late (s'.after (.poll i verdict)) := by
  obtain ⟨watched, hw, -⟩ := Option.map_eq_some_iff.1 enabled
  have hw' : (s'.clients i).watched? = some watched := by
    rw [h.client_of_other (.inr (.inr (by rw [hw]; rfl)))]
    exact hw
  obtain ⟨sees, controllers⟩ := h.seen watched
  have polled := h.set controllers h.worker
  simp only [after, Shared.poll, hw, hw', sees]
  cases (s.seen watched).1 with
  | superseded => exact polled.setClient i (.inl rfl)
  | pending => exact polled
  | finished => exact (polled.steer _).setClient i (.inl rfl)

/-- **A step that launches nothing accepted late** leaves all else alike. -/
theorem after (h : s.Toggled late s') {e : Event α} (enabled : s.Enabled e)
    (early : ∀ i, e = .launch i → ¬ late i)
    (turns : ∀ i r, e = .ask i r → r.turns = true → late i) :
    (s.after e).Toggled late (s'.after e) := by
  obtain ⟨b, controller⟩ := h.controller
  cases e with
  | ask i r => exact h.ask i (turns i r rfl)
  | launch i => exact h.launch enabled (early i rfl)
  | wait i => exact h.setClient i (.inl rfl)
  | look i => exact h.setClient i (.inl (by rw [controller]; rfl))
  | poll i verdict => exact h.poll enabled
  | start baseline => exact h.set ⟨b, by rw [controller]; rfl⟩ rfl
  | wake => exact h.set h.controller (by rw [controller]; rfl)
  | work samples =>
      have cycled : s'.controller.cycle samples s'.now =
          ((s.controller.cycle samples s.now).1.request (.mirror b),
            (s.controller.cycle samples s.now).2) := by
        rw [controller, h.now, Controller.cycle_mirror]
      rw [after_work, after_work, cycled]
      exact (h.set ⟨b, rfl⟩ rfl).steer _
  | pass d => exact ⟨h.controller, h.drive, congrArg (· + d) h.now, h.worker, h.clients⟩
  | act a =>
      refine ⟨h.controller, ?_, h.now, h.worker, h.clients⟩
      simp only [Shared.after, h.drive, h.now]
  | scriptOutput slot x =>
      exact h.set ⟨b, by rw [controller, Controller.script_mirror]⟩ h.worker
  | scriptSettled slot v =>
      exact h.set ⟨b, by rw [controller, Controller.script_mirror]⟩ h.worker

end Toggled

/-- The clients that ask for a turn in a run. -/
def turning (run : List (Event α)) (i : Nat) : Prop :=
  ∃ e ∈ run, e.client? = some i ∧ e.turns = true

/-- **Nothing but a turn that is yet to be asked for depends on whether turns are mirrored**: as
long as no client launches what it asked for later, the run goes on as it would have gone on. -/
theorem toggled_replay (s : Shared α) (i : Nat) (b : Bool) {run : List (Event α)}
    (possible : Possible s run)
    (early : ∀ j past, .launch j :: past <:+ run → ¬ turning past j) :
    Possible (s.after (.ask i (.mirror b))) run ∧
      (replay s run).Toggled (turning run) (replay (s.after (.ask i (.mirror b))) run) ∧
      commands (s.after (.ask i (.mirror b))) run = commands s run ∧
      returns (s.after (.ask i (.mirror b))) run = returns s run := by
  -- induction on the last step of the run
  induction run with
  | nil => exact ⟨trivial, ⟨⟨b, rfl⟩, rfl, rfl, rfl, fun _ => .inl rfl⟩, rfl, rfl⟩
  | cons e past ih =>
      obtain ⟨before, enabled⟩ := possible
      obtain ⟨possible, toggled, commanded, returned⟩ := ih before fun j rest suffix =>
        early j rest (suffix.trans (List.suffix_cons ..))
      have wider : ∀ j, turning past j → turning (e :: past) j := by
        rintro j ⟨e', asked, turns⟩
        exact ⟨e', List.mem_cons_of_mem _ asked, turns⟩
      have launched : ∀ j, e = .launch j → ¬ turning (e :: past) j := by
        rintro j rfl ⟨e', asked, client, turns⟩
        rcases List.mem_cons.1 asked with rfl | asked
        · cases turns
        · exact early j past List.suffix_rfl ⟨e', asked, client, turns⟩
      have toggled := toggled.mono wider
      have ordered : (replay (s.after (.ask i (.mirror b))) past).orders? e =
          (replay s past).orders? e := by
        rw [orders?, orders?, toggled.maneuver?, toggled.drive]
      refine ⟨⟨possible, toggled.enabled enabled launched⟩, toggled.after enabled launched ?_,
        trace_cons_congr commanded toggled.now ordered,
        trace_cons_congr returned toggled.now rfl⟩
      rintro j r rfl turns
      exact ⟨.ask j r, List.mem_cons_self, rfl, turns⟩

end Shared

end Drivetrain
