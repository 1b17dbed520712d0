/-
Symmetry: whole runs with left and right changed.

Let two controllers of the same make be given the same calls at the same times, let the second read
on each side what the first reads on the other, and let each turn be mirrored for one of them and
not for the other.  Then all that the first does on one side the second does on the other, for ever.

Either may be told whether turns are mirrored at any time in between, since it only matters when a
turn is accepted.

Main definitions:

* `Drivetrain.Shared.Reflected` — two shared controllers of which each does what the other does with
  left and right changed;
* `Drivetrain.Shared.Changed` — **two histories with the sides changed**;
* `Drivetrain.Shared.MadeAlike` — two controllers just created alike.

Main results:

* `Drivetrain.Shared.Reflected.common`, `Drivetrain.Shared.Reflected.poll`,
  `Drivetrain.Shared.Reflected.work` — what a step of both sides keeps;
* `Drivetrain.Shared.Changed.across` — histories with the sides changed **give the orders of the
  other side**, and their waits return together;
* `Drivetrain.Shared.mirrors_runs` — **mirror images of whole runs**.
-/

import Mathlib
import Drivetrain.Proofs.Mirroring

set_option relaxedAutoImplicit false
set_option autoImplicit false

namespace Drivetrain

open Controller (Samples Request Motion)
open Machine (Opposite)

/-! ### The other side -/

namespace Client

variable {α : Type}

/-- What a client has come to, an accepted turn the other way round. -/
def flip : Client α → Client α
  | accepted m => accepted m.flip
  | free => free
  | deciding => deciding
  | watching mode => watching mode

theorem motion?_flip (c : Client α) : c.flip.motion? = c.motion?.map Motion.flip := by
  cases c <;> rfl

theorem watched?_flip (c : Client α) : c.flip.watched? = c.watched? := by
  cases c <;> rfl

end Client

/-- Every wheel is told to stop alike. -/
theorem Maneuver.order?_stop_mirror {α : Type} [Scalar α] (full : Maxima α) (w : Wheel) :
    (Maneuver.stop : Maneuver α).order? full w = Maneuver.stop.order? full w.mirror := rfl

namespace Shared

/-- **Two shared controllers of which each does what the other does with left and right changed.**
What the thread of the cycle is about to do is not said, nor what has become of the motors. -/
structure Reflected (turn angle : Loop.Make Float) (s s' : Shared Float) : Prop where
  controller : s.controller.Reflected turn angle s'.controller
  full : s'.drive.full = s.drive.full
  now : s'.now = s.now
  clients : ∀ i, s'.clients i = (s.clients i).flip

/-- Whether an event is one that nothing but a turn yet to be accepted depends on: turns are to be
mirrored or not, the thread of the cycle looks for work, a hand acts on the drive, or a script
speaks to loops that follow none. -/
def Event.moot {α : Type} : Event α → Bool
  | .ask _ (.mirror _) | .wake | .act _ | .scriptOutput .. | .scriptSettled .. => true
  | _ => false

/-- What an event that is moot leaves alone. -/
theorem after_moot {α : Type} [Scalar α] {s : Shared α} {e : Event α} (enabled : s.Enabled e)
    (real : s.controller.Positional) (he : e.moot = true) :
    (∃ b, (s.after e).controller = { s.controller with mirrored := b }) ∧
      (s.after e).drive.full = s.drive.full ∧ (s.after e).now = s.now ∧
      (s.after e).clients = s.clients := by
  have full := full_after enabled
  cases e with
  | ask i r =>
      cases r with
      | mirror b => exact ⟨⟨b, rfl⟩, rfl, rfl, rfl⟩
      | _ => cases he
  | scriptOutput slot x =>
      refine ⟨⟨s.controller.mirrored, ?_⟩, rfl, rfl, rfl⟩
      rw [after, script_of_positional real]
  | scriptSettled slot b =>
      refine ⟨⟨s.controller.mirrored, ?_⟩, rfl, rfl, rfl⟩
      rw [after, script_of_positional real]
  | wake | act a => exact ⟨⟨s.controller.mirrored, rfl⟩, full, rfl, rfl⟩
  | _ => cases he

namespace Reflected

variable {turn angle : Loop.Make Float} {s s' : Shared Float}

theorem setClient (h : s.Reflected turn angle s') (i : Nat) (c : Client Float) :
    (s.setClient i c).Reflected turn angle (s'.setClient i c.flip) :=
  ⟨h.controller, h.full, h.now,
    clients_setClient_both (R := fun _ c c' => c' = c.flip) h.clients rfl⟩

theorem set (h : s.Reflected turn angle s') {c c' : Controller Float} {w w' : Worker}
    (controllers : c.Reflected turn angle c') :
    Reflected turn angle { s with controller := c, worker := w }
      { s' with controller := c', worker := w' } :=
  ⟨controllers, h.full, h.now, h.clients⟩

theorem steer (h : s.Reflected turn angle s') (m m' : Option (Maneuver Float)) :
    (s.steer m).Reflected turn angle (s'.steer m') := by
  constructor
  · rw [controller_steer, controller_steer]; exact h.controller
  · rw [full_steer, full_steer]; exact h.full
  · rw [now_steer, now_steer]; exact h.now
  · rw [clients_steer, clients_steer]; exact h.clients

theorem left (h : s.Reflected turn angle s') {e : Event Float} (enabled : s.Enabled e)
    (he : e.moot = true) : (s.after e).Reflected turn angle s' := by
  obtain ⟨⟨b, controller⟩, full, now, clients⟩ :=
    after_moot enabled h.controller.positional.1 he
  refine ⟨?_, h.full.trans full.symm, h.now.trans now.symm, by rw [clients]; exact h.clients⟩
  rw [controller]
  exact { h.controller with }

theorem right (h : s.Reflected turn angle s') {e : Event Float} (enabled : s'.Enabled e)
    (he : e.moot = true) : s.Reflected turn angle (s'.after e) := by
  obtain ⟨⟨b, controller⟩, full, now, clients⟩ :=
    after_moot enabled h.controller.positional.2 he
  refine ⟨?_, full.trans h.full, now.trans h.now, by rw [clients]; exact h.clients⟩
  rw [controller]
  exact { h.controller with }

/-- **A request made on both sides**, each turn mirrored on one of them only. -/
theorem ask (h : s.Reflected turn angle s') (i : Nat) {r : Request Float}
    (changed : r.turns = true → s'.controller.mirrored = !s.controller.mirrored) :
    (s.after (.ask i r)).Reflected turn angle (s'.after (.ask i r)) := by
  have accepts := h.controller.motion? r changed
  cases hr : s.controller.motion? r with
  | some m =>
      rw [hr, Option.map_some] at accepts
      rw [after_ask_of_accepted hr, after_ask_of_accepted accepts]
      exact h.setClient i (.accepted m)
  | none =>
      rw [hr, Option.map_none] at accepts
      rw [after_ask_of_none hr, after_ask_of_none accepts]
      exact (h.set h.controller.adjust).steer _ _

theorem launch (h : s.Reflected turn angle s') {i : Nat} (enabled : s.Enabled (.launch i))
    (enabled' : s'.Enabled (.launch i)) :
    (s.after (.launch i)).Reflected turn angle (s'.after (.launch i)) := by
  obtain ⟨m, hm, e⟩ := launch_cases enabled
  obtain ⟨m', hm', e'⟩ := launch_cases enabled'
  rw [h.clients, Client.motion?_flip, hm, Option.map_some] at hm'
  obtain rfl : m.flip = m' := Option.some.inj hm'
  rw [e, e']
  exact (h.set (h.controller.launch m)).setClient i .free

/-- **A call made on both sides**, or time that passes. -/
theorem common (h : s.Reflected turn angle s') {e : Event Float} (enabled : s.Enabled e)
    (enabled' : s'.Enabled e) (he : e.common = true)
    (changed : e.turns = true → s'.controller.mirrored = !s.controller.mirrored) :
    (s.after e).Reflected turn angle (s'.after e) := by
  cases e with
  | ask i r => exact h.ask i changed
  | launch i => exact h.launch enabled enabled'
  | wait i => exact h.setClient i .deciding
  | pass d => exact ⟨h.controller, h.full, congrArg (· + d) h.now, h.clients⟩
  | _ => cases he

theorem look (h : s.Reflected turn angle s') (i : Nat) :
    (s.after (.look i)).Reflected turn angle (s'.after (.look i)) := by
  rw [after, after, h.controller.mode]
  exact h.setClient i (.watching s.controller.mode)

/-- **A poll sees the same on both sides.** -/
theorem poll (h : s.Reflected turn angle s') {i : Nat} {seen seen' : Controller.Verdict}
    (enabled : s.Enabled (.poll i seen)) (enabled' : s'.Enabled (.poll i seen')) :
    seen' = seen ∧ (s.after (.poll i seen)).Reflected turn angle (s'.after (.poll i seen')) := by
  obtain ⟨watched, hw, sees⟩ := poll_cases enabled
  obtain ⟨watched', hw', sees'⟩ := poll_cases enabled'
  rw [h.clients, Client.watched?_flip, hw] at hw'
  obtain rfl : watched = watched' := Option.some.inj hw'
  have reports : s'.controller.Reports s'.now watched ↔ s.controller.Reports s.now watched := by
    rw [h.now]
    exact h.controller.reports s.now watched
  have checked : (s.controller.checkSettled s.now watched).2.Reflected turn angle
      (s'.controller.checkSettled s'.now watched).2 := by
    rw [h.now]
    exact h.controller.checkSettled s.now watched
  rw [h.controller.mode] at sees'
  rcases sees with ⟨rfl, other, e⟩ | ⟨rfl, current, pending, e⟩ | ⟨rfl, current, done, e⟩ <;>
    rcases sees' with ⟨rfl, other', e'⟩ | ⟨rfl, current', pending', e'⟩ | ⟨rfl, current', done', e'⟩
  · rw [e, e']
    exact ⟨rfl, h.setClient i .deciding⟩
  · exact absurd current' other
  · exact absurd current' other
  · exact absurd current other'
  · rw [e, e']
    exact ⟨rfl, h.set checked⟩
  · exact absurd (reports.1 done') pending
  · exact absurd current other'
  · exact absurd (reports.2 done) pending'
  · rw [e, e']
    exact ⟨rfl, ((h.set checked.finish).steer _ _).setClient i .free⟩

theorem start (h : s.Reflected turn angle s') (baseline : Readings) :
    (s.after (.start baseline)).Reflected turn angle (s'.after (.start baseline.swap)) :=
  h.set (h.controller.started baseline)

/-- **A cycle on changed readings** gives the orders of the other side. -/
theorem work (even : turn.Evenhanded) (even' : angle.Evenhanded) (h : s.Reflected turn angle s')
    (samples : Samples) (brief : s.now < 2 ^ 64 * Time.perSecond) :
    (s.after (.work samples)).Reflected turn angle (s'.after (.work samples.swap)) ∧
      s'.orders? (.work samples.swap) =
        (s.orders? (.work samples)).map fun orders => orders ∘ Wheel.mirror := by
  obtain ⟨cycled, asked⟩ : (s.controller.cycle samples s.now).1.Reflected turn angle
        (s'.controller.cycle samples.swap s'.now).1 ∧
      ∀ full : Maxima Float, (s'.controller.cycle samples.swap s'.now).2.map (·.order? full) =
        (s.controller.cycle samples s.now).2.map fun m w => m.order? full w.mirror := by
    rw [h.now]
    exact h.controller.cycle even even' samples brief
  constructor
  · rw [after_work, after_work]
    exact (h.set cycled).steer _ _
  · rw [orders?, orders?, maneuver?, maneuver?, h.full, Option.map_map]
    exact asked s.drive.full

end Reflected

/-! ### Histories with the sides changed -/

/-- **Two histories with the sides changed**: the same calls, polls and cycles at the same times,
the sensors of each side read as the other side's, and turns that are mirrored on one side only when
they are asked for.  Moot events may come on one side alone.  What a poll sees is not said: that it
is the same has to be proved. -/
inductive Changed (s s' : Shared Float) : List (Event Float) → List (Event Float) → Prop
  | nil : Changed s s' [] []
  | left {e : Event Float} {run run' : List (Event Float)} (he : e.moot = true)
      (before : Changed s s' run run') : Changed s s' (e :: run) run'
  | right {e : Event Float} {run run' : List (Event Float)} (he : e.moot = true)
      (before : Changed s s' run run') : Changed s s' run (e :: run')
  | common {e : Event Float} {run run' : List (Event Float)} (he : e.common = true)
      (changed : e.turns = true →
        (replay s' run').controller.mirrored = !(replay s run).controller.mirrored)
      (before : Changed s s' run run') : Changed s s' (e :: run) (e :: run')
  | look (i : Nat) {run run' : List (Event Float)} (before : Changed s s' run run') :
      Changed s s' (.look i :: run) (.look i :: run')
  | poll (i : Nat) {seen seen' : Controller.Verdict} {run run' : List (Event Float)}
      (before : Changed s s' run run') :
      Changed s s' (.poll i seen :: run) (.poll i seen' :: run')
  | start (baseline : Readings) {run run' : List (Event Float)} (before : Changed s s' run run') :
      Changed s s' (.start baseline :: run) (.start baseline.swap :: run')
  | work (samples : Samples) {run run' : List (Event Float)} (before : Changed s s' run run') :
      Changed s s' (.work samples :: run) (.work samples.swap :: run')

/-- **Two runs across from each other**: each order of the one was given to the wheel on the other
side in the other, the same waits have returned, and both go on from states that do the same to
opposite sides. -/
structure Across (turn angle : Loop.Make Float) (s s' : Shared Float)
    (run run' : List (Event Float)) : Prop where
  reflected : (replay s run).Reflected turn angle (replay s' run')
  commands : commands s' run' = (commands s run).map (Prod.map id (· ∘ Wheel.mirror))
  returns : returns s' run' = returns s run

/-- An event that is moot gives no orders and lets no wait return. -/
theorem silent_of_moot {α : Type} [Scalar α] (s : Shared α) {e : Event α} (he : e.moot = true) :
    s.orders? e = none ∧ s.returned? e = none := by
  cases e with
  | ask i r =>
      cases r with
      | mirror b => exact ⟨rfl, rfl⟩
      | _ => cases he
  | wake | act a | scriptOutput slot x | scriptSettled slot b => exact ⟨rfl, rfl⟩
  | _ => cases he

namespace Across

variable {turn angle : Loop.Make Float} {s s' : Shared Float} {run run' : List (Event Float)}

theorem left (h : Across turn angle s s' run run') {e : Event Float}
    (enabled : (replay s run).Enabled e) (he : e.moot = true) :
    Across turn angle s s' (e :: run) run' := by
  obtain ⟨ordered, returned⟩ := silent_of_moot (replay s run) he
  exact
    { reflected := h.reflected.left enabled he
      commands := h.commands.trans (congrArg (List.map _) (trace_cons_of_none ordered).symm)
      returns := h.returns.trans (trace_cons_of_none returned).symm }

theorem right (h : Across turn angle s s' run run') {e : Event Float}
    (enabled : (replay s' run').Enabled e) (he : e.moot = true) :
    Across turn angle s s' run (e :: run') := by
  obtain ⟨ordered, returned⟩ := silent_of_moot (replay s' run') he
  exact
    { reflected := h.reflected.right enabled he
      commands := (trace_cons_of_none ordered).trans h.commands
      returns := (trace_cons_of_none returned).trans h.returns }

theorem both (h : Across turn angle s s' run run') {e e' : Event Float}
    (reflected : (replay s (e :: run)).Reflected turn angle (replay s' (e' :: run')))
    (ordered : (replay s' run').orders? e' =
      ((replay s run).orders? e).map fun orders => orders ∘ Wheel.mirror)
    (returned : (replay s' run').returned? e' = (replay s run).returned? e) :
    Across turn angle s s' (e :: run) (e' :: run') where
  reflected := reflected
  commands := trace_cons_map h.commands h.reflected.now ordered
  returns := trace_cons_congr h.returns h.reflected.now returned

/-- The same maneuver that tells sides from each other no more than a stop does. -/
theorem orders?_of_stop (h : Across turn angle s s' run run') {e e' : Event Float}
    (asked : (replay s' run').maneuver? e' = (replay s run).maneuver? e)
    (stops : ∀ m, (replay s run).maneuver? e = some m → m = .stop) :
    (replay s' run').orders? e' =
      ((replay s run).orders? e).map fun orders => orders ∘ Wheel.mirror := by
  rw [orders?, orders?, asked, h.reflected.full]
  cases hm : (replay s run).maneuver? e with
  | none => simp only [Option.map_none]
  | some m =>
      rw [stops m hm, Option.map_some, Option.map_some]
      exact congrArg some (funext fun w => Maneuver.order?_stop_mirror _ w)

end Across

/-- **Histories with the sides changed keep two controllers across from each other.** -/
theorem Changed.across {turn angle : Loop.Make Float} (even : turn.Evenhanded)
    (even' : angle.Evenhanded) {s s' : Shared Float} (reflected : s.Reflected turn angle s')
    {run run' : List (Event Float)} (changed : Changed s s' run run') (possible : Possible s run)
    (possible' : Possible s' run') (brief : (replay s run).now < 2 ^ 64 * Time.perSecond) :
    Across turn angle s s' run run' := by
  have earlier : ∀ {e : Event Float} {past : List (Event Float)}, Possible s (e :: past) →
      (replay s (e :: past)).now < 2 ^ 64 * Time.perSecond →
      (replay s past).now < 2 ^ 64 * Time.perSecond :=
    fun possible brief => (now_le_after possible.2).trans_lt brief
  -- induction on the last step of the two histories
  induction changed with
  | nil => exact ⟨reflected, rfl, rfl⟩
  | left he _ ih =>
      exact (ih possible.1 possible' (earlier possible brief)).left possible.2 he
  | right he _ ih => exact (ih possible possible'.1 brief).right possible'.2 he
  | @common e _ _ he flipped _ ih =>
      have h := ih possible.1 possible'.1 (earlier possible brief)
      refine h.both (h.reflected.common possible.2 possible'.2 he flipped)
        (h.orders?_of_stop ?_ fun m hm => ?_) rfl
      · cases e <;> first | rfl | cases he
      · cases e with
        | ask i r => cases r <;> first | exact (Option.some.inj hm).symm | cases hm
        | launch | wait | pass => cases hm
        | _ => cases he
  | look i _ ih =>
      have h := ih possible.1 possible'.1 (earlier possible brief)
      exact h.both (h.reflected.look i) rfl rfl
  | @poll i _ verdict _ _ _ ih =>
      have h := ih possible.1 possible'.1 (earlier possible brief)
      obtain ⟨rfl, reflected⟩ := h.reflected.poll possible.2 possible'.2
      refine h.both reflected (h.orders?_of_stop ?_ fun m hm => ?_) ?_
      · cases verdict <;> rfl
      · cases verdict <;> first | exact (Option.some.inj hm).symm | cases hm
      · cases verdict <;> rfl
  | start baseline _ ih =>
      have h := ih possible.1 possible'.1 (earlier possible brief)
      exact h.both (h.reflected.start baseline) rfl rfl
  | work samples _ ih =>
      have h := ih possible.1 possible'.1 (earlier possible brief)
      obtain ⟨reflected, ordered⟩ := h.reflected.work even even' samples (earlier possible brief)
      exact h.both reflected ordered rfl

end Shared

/-! ### Controllers made alike -/

namespace Shared

/-- **Two controllers just created alike**: real loops, those that turn and those that hold the line
such as favor no side, and the same full speed. -/
structure MadeAlike (turn angle : Loop.Make Float) (s s' : Shared Float) : Prop where
  opened : s.Opened
  opened' : s'.Opened
  controller : s'.controller = s.controller
  full : s'.drive.full = s.drive.full
  now : s'.now = s.now
  real : s.controller.distance.settle?.isSome = true
  turns : s.controller.turn = turn.fresh
  holds : s.controller.angle = angle.fresh
  evenTurn : turn.Evenhanded
  evenAngle : angle.Evenhanded

theorem MadeAlike.reflected {turn angle : Loop.Make Float} {s s' : Shared Float}
    (h : MadeAlike turn angle s s') : s.Reflected turn angle s' := by
  obtain ⟨distance, turns, holds, gearing, scales, period, created⟩ := h.opened.created
  have baseline : s.controller.baseline = ⟨0, 0⟩ := by
    obtain ⟨-, positive, initial⟩ := Controller.eq_of_create created
    rw [initial]
  refine ⟨?_, h.full, h.now, fun i => ?_⟩
  · rw [h.controller]
    exact
      { scales := rfl
        gearing := rfl
        period := rfl
        mode := rfl
        idle := rfl
        fresh := rfl
        lastMode := rfl
        baseline := by rw [baseline]; rfl
        moveThreshold := rfl
        turnThreshold := rfl
        distance := rfl
        real := h.real
        turn := by rw [h.turns]; exact turn.reflected_fresh
        angle := by rw [h.holds]; exact angle.reflected_fresh }
  · rw [h.opened.clients, h.opened'.clients]
    rfl

/-! ### The theorem -/

/-- **Mirror images of whole runs.**  Let two controllers be made alike, with no gain on what is
gathered and nothing added in the loops that turn and that hold the line, and let their histories
have the sides changed.  Then at any instant of sixty-four bits of seconds they are in the same
mode, their loops of the distance are in the same state, errors and outputs of the others are
opposite, each order of the one was given to the wheel on the other side in the other, and the same
waits have returned at the same times.

In particular a mirrored turn is the opposite turn, and saying whether turns are mirrored never
touches a turn already accepted: until somebody launches what was asked for later, everything goes
on as it would have gone on. -/
theorem mirrors_runs :
    (∀ {turn angle : Loop.Make Float} {s₀ s₀' : Shared Float}, MadeAlike turn angle s₀ s₀' →
      ∀ {run run' : List (Event Float)}, Changed s₀ s₀' run run' → Possible s₀ run →
      Possible s₀' run' → (replay s₀ run).now < 2 ^ 64 * Time.perSecond →
      let c := (replay s₀ run).controller
      let c' := (replay s₀' run').controller
      c'.mode = c.mode ∧ c'.distance = c.distance ∧
        (Opposite c.turn.error c'.turn.error ∧ Opposite c.turn.output c'.turn.output) ∧
        (Opposite c.angle.error c'.angle.error ∧ Opposite c.angle.output c'.angle.output) ∧
        commands s₀' run' = (commands s₀ run).map (Prod.map id (· ∘ Wheel.mirror)) ∧
        returns s₀' run' = returns s₀ run) ∧
    (∀ (c : Controller Float) (x : Angle Float),
      (c.request (.mirror true)).request (.turn x) =
        ((c.request (.mirror false)).request (.turn (-x))).request (.mirror true)) ∧
    (∀ (c : Controller Float) (t : Float),
      (c.request (.mirror true)).request (.turnRaw t) =
        ((c.request (.mirror false)).request (.turnRaw (-t))).request (.mirror true)) ∧
    ∀ (s : Shared Float) (i : Nat) (b : Bool) {run : List (Event Float)}, Possible s run →
      (∀ j past, .launch j :: past <:+ run → ¬ turning past j) →
      let s' := s.after (.ask i (.mirror b))
      Possible s' run ∧
        (∃ b', (replay s' run).controller = (replay s run).controller.request (.mirror b')) ∧
        (replay s' run).drive = (replay s run).drive ∧
        commands s' run = commands s run ∧ returns s' run = returns s run := by
  refine ⟨?_, Controller.request_turn_mirrored, Controller.request_turnRaw_mirrored, ?_⟩
  · intro turn angle s₀ s₀' alike run run' changed possible possible' brief
    have across := changed.across alike.evenTurn alike.evenAngle alike.reflected possible possible'
      brief
    have reflected := across.reflected.controller
    exact ⟨reflected.mode, reflected.distance, reflected.turn.opposite, reflected.angle.opposite,
      across.commands, across.returns⟩
  · intro s i b run possible early
    obtain ⟨possible', toggled, commanded, returned⟩ := toggled_replay s i b possible early
    exact ⟨possible', toggled.controller, toggled.drive, commanded, returned⟩

/-- A make of loops that answer to the error and to how fast the reading moves. -/
def damped : Loop.Make Float := ⟨⟨0.01, 0, 0.00001, 0⟩, 10000000, .unit, .unit, ⟨50, 100000, 50⟩⟩

theorem evenhanded_damped : damped.Evenhanded :=
  Loop.Make.evenhanded_new (by decide +kernel) (by decide +kernel) _ (by decide)

def balancedBench : Shared Float := bench damped.fresh damped.fresh damped.fresh

theorem madeAlike_balancedBench : MadeAlike damped damped balancedBench balancedBench where
  opened := opened_bench ..
  opened' := opened_bench ..
  controller := rfl
  full := rfl
  now := rfl
  real := rfl
  turns := rfl
  holds := rfl
  evenTurn := evenhanded_damped
  evenAngle := evenhanded_damped

/-- A turn accepted. -/
def turnAsked : List (Event Float) := [.ask 0 (.turn ⟨100⟩), .start ⟨0, 0⟩]

/-- That turn launched and followed until it has settled. -/
def turned : List (Event Float) :=
  [.poll 0 .finished, .pass 50000000, .poll 0 .pending, .work ⟨⟨0, 0⟩, ⟨60, -50⟩⟩, .wake,
    .pass 10000000, .look 0, .wait 0, .work ⟨⟨0, 0⟩, ⟨3, -4⟩⟩, .wake, .launch 0]

/-- The same turn, mirrored.  Turns are no longer mirrored once it is accepted. -/
def turnedBack : List (Event Float) :=
  [.poll 0 .finished, .pass 50000000, .poll 0 .pending, .work ⟨⟨0, 0⟩, ⟨-50, 60⟩⟩, .wake,
    .pass 10000000, .look 0, .wait 0, .work ⟨⟨0, 0⟩, ⟨-4, 3⟩⟩, .wake, .launch 0,
    .ask 1 (.mirror false), .ask 0 (.turn ⟨100⟩), .start ⟨0, 0⟩, .ask 1 (.mirror true)]

theorem changed_turned :
    Changed balancedBench balancedBench (turned ++ turnAsked) turnedBack := by
  have accepted : Changed balancedBench balancedBench turnAsked
      [.ask 1 (.mirror false), .ask 0 (.turn ⟨100⟩), .start ⟨0, 0⟩, .ask 1 (.mirror true)] :=
    .right rfl (.common rfl (fun _ => by decide +kernel) (.start ⟨0, 0⟩ (.right rfl .nil)))
  -- every other call is one that has nothing to do with turns
  have call : ∀ {e : Event Float} {run run' : List (Event Float)}, e.common = true →
      e.turns = false → Changed balancedBench balancedBench run run' →
      Changed balancedBench balancedBench (e :: run) (e :: run') := by
    intro e run run' common other
    exact .common common fun turns => by rw [other] at turns; cases turns
  have launched := call (e := .launch 0) rfl rfl accepted
  have woken := Changed.left (e := .wake) rfl (.right (e := .wake) rfl launched)
  have waited := call (e := .wait 0) rfl rfl (.work ⟨⟨0, 0⟩, ⟨3, -4⟩⟩ woken)
  have passed := call (e := .pass 10000000) rfl rfl (.look 0 waited)
  have again := Changed.left (e := .wake) rfl (.right (e := .wake) rfl passed)
  exact .poll 0 (call (e := .pass 50000000) rfl rfl (.poll 0 (.work ⟨⟨0, 0⟩, ⟨60, -50⟩⟩ again)))

/-- The turn the other way round, and the turn as it was accepted while turns are mirrored. -/
theorem mirrors_runs_of_turned :
    (commands balancedBench turnedBack).map (fun c => (c.1, c.2 .left)) =
        [(60000000, some (.velocity 0)), (10000000, some (.velocity 40)),
          (0, some (.velocity (-186)))] ∧
      returns balancedBench turnedBack = [(60000000, 0)] ∧
      (commands ((replay balancedBench turnAsked).after (.ask 1 (.mirror true))) turned).map
          (fun c => (c.1, c.2 .left)) =
        [(60000000, some (.velocity 0)), (10000000, some (.velocity (-40))),
          (0, some (.velocity 186))] := by
  obtain ⟨-, -, -, -, commanded, returned⟩ := mirrors_runs.1 madeAlike_balancedBench changed_turned
    (by decide +kernel) (by decide +kernel) (by decide +kernel)
  have unasked : ∀ e ∈ turned, e.turns = false := by decide
  have possible : Possible (replay balancedBench turnAsked) turned := by decide +kernel
  have early : ∀ j past, .launch j :: past <:+ turned → ¬ turning past j := by
    rintro j past suffix ⟨e, asked, -, turns⟩
    rw [unasked e (suffix.subset (List.mem_cons_of_mem _ asked))] at turns
    cases turns
  obtain ⟨-, -, -, toggled, -⟩ :=
    mirrors_runs.2.2.2 (replay balancedBench turnAsked) 1 true possible early
  refine ⟨?_, ?_, ?_⟩
  · rw [commanded]
    decide +kernel
  · rw [returned]
    decide +kernel
  · rw [toggled]
    decide +kernel

end Shared

end Drivetrain
