/-
Which requests for motions are ignored, and what becomes of the others.

A request for a motion is ignored if its amount is below the threshold of its kind, both without
their signs.  The threshold is the one that was set last, whatever has happened since.  A request
that is ignored leaves everything as it is, and one that is not leaves its client with the motion
that it asked for, to be launched whatever happens in between.

What is asked for in wheel degrees becomes a length or an angle by a division by the scale, and the
target of the motion by a product with it.  Over exact numbers the scale cancels, so that the
threshold is compared in wheel degrees and the target does not depend on the scale.

Main definitions:

* `Drivetrain.Controller.Motion.mode`, `Drivetrain.Controller.threshold` — the kind of a motion, and
  the threshold of a kind;
* `Drivetrain.Shared.thresholdIn` — the threshold that a history set last;
* `Drivetrain.Shared.Ignores` — **whether a request leaves everything as it is**;
* `Drivetrain.Shared.Begins` — **what the client of a request launches**, whatever happens before;
* `Drivetrain.Shared.Answers` — how a request for a motion is answered.

Main results:

* `Drivetrain.Shared.ask_of_wanted` — a request for a motion is ignored, or accepted, and nothing
  else happens;
* `Drivetrain.Shared.threshold_replay` — the threshold of every run is the one set last;
* `Drivetrain.Shared.ignored_iff_below` — a request is ignored **exactly if it is below the
  threshold**, also in wheel degrees.
-/

import Drivetrain.Proofs.Tolerance
import Drivetrain.Proofs.Construction

set_option relaxedAutoImplicit false
set_option autoImplicit false

namespace Drivetrain

variable {α : Type}

/-! ### Kinds of motions -/

namespace Controller

/-- The kind of a motion. -/
def Motion.mode : Motion α → Mode
  | .move _ => .distance
  | .turn .. => .angle

/-- The threshold that a request sets for motions of a kind, as it was given. -/
def Request.threshold? : Request α → Mode → Option α
  | .setMoveThreshold x, .distance => some x.meters
  | .setTurnThreshold x, .angle => some x.degrees
  | _, _ => none

variable [Scalar α]

/-- **The threshold that motions of a kind have to reach.** -/
def threshold (c : Controller α) : Mode → α
  | .distance => c.moveThreshold.meters
  | .angle => c.turnThreshold.degrees
  | .none => 0

theorem acceptMove_eq (c : Controller α) (x : Length α) :
    c.acceptMove x =
      if Scalar.abs x.meters < c.threshold .distance then none else some (.move x) :=
  if_congr decide_eq_true_iff rfl rfl

theorem acceptTurn_eq (c : Controller α) (x : Angle α) :
    c.acceptTurn x =
      if Scalar.abs x.degrees < c.threshold .angle then none else some (.turn x c.mirrored) :=
  if_congr decide_eq_true_iff rfl rfl

/-- A request for a motion is accepted unless its amount is below the threshold. -/
theorem motion?_of_wanted {wiring c : Controller α} (wired : wiring.Wired c) {r : Request α}
    {m : Motion α} (wants : Shared.wanted wiring c.mirrored r = some m) :
    c.motion? r = if Scalar.abs m.amount < c.threshold m.mode then none else some m := by
  cases r with
  | move x => cases wants; exact c.acceptMove_eq x
  | moveRaw ticks => cases wants; rw [← wired.scales]; exact c.acceptMove_eq _
  | turn x => cases wants; exact c.acceptTurn_eq x
  | turnRaw ticks => cases wants; rw [← wired.scales]; exact c.acceptTurn_eq _
  | _ => cases wants

/-- A controller that was created has scales and gears that it can work with. -/
theorem workable_of_create {distance turn angle : Loop α} {gearing : Gearing α} {scales : Scales α}
    {period : Nat} {c : Controller α}
    (h : create distance turn angle gearing scales period = .ok c) :
    Workable c.gearing c.scales c.period := by
  obtain ⟨-, positive, rfl⟩ := eq_of_create h
  refine lack?_demands_eq_none_iff.1 ?_
  rcases create_cases distance turn angle gearing scales period with ⟨c, met, -⟩ | ⟨e, -, refused⟩
  · exact met
  · rw [h] at refused
    cases refused

end Controller

namespace Shared

open Controller (Request Motion)

/-! ### The threshold set last -/

/-- The threshold that an event sets for motions of a kind, as it was given. -/
def Event.threshold? : Event α → Mode → Option α
  | .ask _ r, mode => r.threshold? mode
  | _, _ => none

/-- **The threshold that a history set last** for motions of a kind, as it was given.  Before any
was set it is zero. -/
def thresholdIn [Scalar α] (mode : Mode) (past : List (Event α)) : α :=
  (past.findSome? (·.threshold? mode)).getD 0

/-- What sets a threshold changes a setting. -/
theorem threshold?_of_not_sets {e : Event α} (he : e.sets = false) (mode : Mode) :
    e.threshold? mode = none := by
  cases e with
  | ask i r =>
      cases r with
      | mirror | setMoveThreshold | setTurnThreshold => cases he
      | _ => rfl
  | _ => rfl

variable [Scalar α]

/-- Only a request for a threshold changes one, and it sets the one that it asks for. -/
theorem threshold_after {s : Shared α} {e : Event α} (enabled : s.Enabled e) (mode : Mode) :
    (s.after e).controller.threshold mode =
      ((e.threshold? mode).map Scalar.abs).getD (s.controller.threshold mode) := by
  cases he : e.sets with
  | false =>
      have same := configured_after enabled he
      rw [threshold?_of_not_sets he]
      cases mode with
      | distance => exact (congrArg Length.meters same.moveThreshold).symm
      | angle => exact (congrArg Angle.degrees same.turnThreshold).symm
      | none => rfl
  | true =>
      cases e with
      | ask i r =>
          cases r with
          | mirror | setMoveThreshold | setTurnThreshold => cases mode <;> rfl
          | _ => cases he
      | _ => cases he

/-- **The threshold of every run is the one set last**, without its sign. -/
theorem threshold_replay {s₀ : Shared α} (opened : s₀.Opened)
    (zero : Scalar.abs (0 : α) = 0) {past : List (Event α)} (possible : Possible s₀ past)
    (mode : Mode) :
    (replay s₀ past).controller.threshold mode = Scalar.abs (thresholdIn mode past) := by
  refine Possible.invariant
    (P := fun past s => s.controller.threshold mode = Scalar.abs (thresholdIn mode past)) ?_ ?_
    possible
  · obtain ⟨⟨distance, turn, angle, gearing, scales, period, created⟩, -, -⟩ := opened
    obtain ⟨-, positive, e⟩ := Controller.eq_of_create created
    rw [e]
    cases mode <;> exact zero.symm
  · intro past e _ enabled h
    rw [threshold_after enabled, h, thresholdIn, thresholdIn, List.findSome?_cons]
    cases e.threshold? mode <;> rfl

/-! ### What becomes of a request -/

/-- **Whether a request leaves everything as it is**: the loops, the flags, the baseline, the
motors, the clients and the clock. -/
def Ignores (s : Shared α) (i : Nat) (r : Request α) : Prop := s.after (.ask i r) = s

/-- **What the client of a request launches**: whatever the others do in between, the launch leaves
them as they are and makes of the controller what is given here. -/
def Begins (s : Shared α) (i : Nat) (r : Request α)
    (launched : Controller α → Controller α) : Prop :=
  ∀ between, Possible (s.after (.ask i r)) between → (∀ e ∈ between, e.client? ≠ some i) →
    let t := replay (s.after (.ask i r)) between
    t.Enabled (.launch i) ∧
      t.after (.launch i) = { t with controller := launched t.controller }.setClient i .free

/-- **How a request for a motion is answered**: it is ignored exactly if it is below, and else its
client launches what is given here. -/
structure Answers (s : Shared α) (i : Nat) (r : Request α) (below : Prop)
    (launched : Controller α → Controller α) : Prop where
  ignored : s.Ignores i r ↔ below
  begins : ¬ below → s.Begins i r launched

section Requests

variable {wiring : Controller α} {s : Shared α} {i : Nat} {r : Request α} {m : Motion α}

/-- **A request for a motion is ignored, or accepted**, and nothing else happens. -/
theorem ask_of_wanted (wired : wiring.Wired s.controller)
    (wants : wanted wiring s.controller.mirrored r = some m) :
    s.after (.ask i r) =
      if Scalar.abs m.amount < s.controller.threshold m.mode then s
      else s.setClient i (.accepted m) := by
  have asked := Controller.motion?_of_wanted wired wants
  split
  · rename_i below
    rw [if_pos below] at asked
    rw [after_ask_of_none asked]
    cases r with
    | move | moveRaw | turn | turnRaw => rfl
    | _ => cases wants
  · rename_i reached
    rw [if_neg reached] at asked
    exact after_ask_of_accepted asked i

omit [Scalar α] in
/-- A client with a motion accepted is not where it was. -/
theorem setClient_accepted_ne (free : (s.clients i).isFree = true) :
    s.setClient i (.accepted m) ≠ s := by
  intro same
  have accepted : (s.setClient i (.accepted m)).clients i = .accepted m := clients_setClient_self ..
  rw [same] at accepted
  rw [accepted] at free
  cases free

/-- **A motion that was accepted is launched**, whatever happens before. -/
theorem begins_of_accepted (accepted : s.after (.ask i r) = s.setClient i (.accepted m)) :
    s.Begins i r (·.launch m) := by
  intro between possible others t
  have waiting : t.clients i = .accepted m := by
    rw [clients_replay_of_ne possible others, accepted, clients_setClient_self]
  have ready : t.Enabled (.launch i) := by
    rw [Enabled, waiting]
    rfl
  obtain ⟨m', hm, launched⟩ := launch_cases ready
  rw [waiting] at hm
  cases hm
  exact ⟨ready, launched⟩

/-- **A request for a motion is answered by the threshold of its kind.** -/
theorem answers_of_wanted (wired : wiring.Wired s.controller) (free : (s.clients i).isFree = true)
    (wants : wanted wiring s.controller.mirrored r = some m) :
    s.Answers i r (Scalar.abs m.amount < s.controller.threshold m.mode) (·.launch m) := by
  have asked := ask_of_wanted (i := i) wired wants
  constructor
  · rw [Ignores, asked]
    split
    · rename_i below
      exact iff_of_true rfl below
    · rename_i reached
      exact iff_of_false (setClient_accepted_ne free) reached
  · intro reached
    rw [if_neg reached] at asked
    exact begins_of_accepted asked

/-- What is launched matters for controllers of the same scales and gears only. -/
theorem Answers.congr {below below' : Prop} {launched launched' : Controller α → Controller α}
    (h : s.Answers i r below launched) (free : (s.clients i).isFree = true)
    (level : below ↔ below') (same : ∀ c, s.controller.Wired c → launched c = launched' c) :
    s.Answers i r below' launched' := by
  refine ⟨h.ignored.trans level, fun reached => ?_⟩
  intro between possible others t
  have wired : s.controller.Wired t.controller :=
    (wired_after (e := .ask i r) free).trans (wired_replay possible)
  obtain ⟨ready, launches⟩ := h.begins (reached ∘ level.1) between possible others
  exact ⟨ready, by rw [launches, same _ wired]⟩

end Requests

end Shared

/-! ### Wheel degrees -/

namespace Controller

variable {c : Controller ℝ} {ticks : ℝ}

theorem abs_div_lt_iff {scale threshold : ℝ} (positive : 0 < scale) :
    |ticks / scale| < threshold ↔ |ticks| < threshold * scale := by
  rw [abs_div, abs_of_pos positive, div_lt_iff₀ positive]

/-- **The scale cancels** in the target of a move given in wheel degrees. -/
theorem launch_rawLength (straight : c.scales.straight ≠ 0) (ticks : ℝ) :
    c.launch (.move ⟨ticks / c.scales.straight⟩) = c.beginMove (ticks * c.gearing.ratio) := by
  rw [launch, moveTarget, div_mul_cancel₀ ticks straight]

theorem launch_rawAngle (turn : c.scales.turn ≠ 0) (ticks : ℝ) (mirrored : Bool) :
    c.launch (.turn ⟨ticks / c.scales.turn⟩ mirrored) =
      c.beginTurn (ticks * c.gearing.ratio * (if mirrored then -1 else 1)) := by
  rw [launch, turnTarget, div_mul_cancel₀ ticks turn, turnSign]

end Controller

/-! ### The theorem -/

namespace Shared

open Controller (Request Motion)

variable [Scalar α]

/-- A controller just created has scales and gears that it can work with. -/
theorem Opened.workable {s₀ : Shared α} (opened : s₀.Opened) :
    Controller.Workable s₀.controller.gearing s₀.controller.scales s₀.controller.period := by
  obtain ⟨⟨distance, turn, angle, gearing, scales, period, created⟩, -, -⟩ := opened
  exact Controller.workable_of_create created

theorem abs_zero_float : Scalar.abs (0 : Float) = 0 := by decide +kernel

/-- What is not a number is not below anything, and nothing is below it. -/
theorem not_lt_of_isNaN {x y : Float} (h : x.isNaN = true ∨ y.isNaN = true) :
    ¬ Scalar.abs x < Scalar.abs y := by
  intro below
  have hx := Machine.isNaN_of_le_left (Machine.le_of_lt below)
  have hy := Machine.isNaN_of_le (Machine.le_of_lt below)
  rw [show Scalar.abs x = Float.abs x from rfl, Machine.isNaN_abs_eq] at hx
  rw [show Scalar.abs y = Float.abs y from rfl, Machine.isNaN_abs_eq] at hy
  rcases h with h | h
  · rw [h] at hx
    cases hx
  · rw [h] at hy
    cases hy

/-- **The answer of every run**: the threshold set last decides. -/
theorem answers_replay {s₀ : Shared α} (opened : s₀.Opened) (zero : Scalar.abs (0 : α) = 0)
    {past : List (Event α)} (possible : Possible s₀ past) {i : Nat} {r : Request α} {m : Motion α}
    (free : ((replay s₀ past).clients i).isFree = true)
    (wants : wanted s₀.controller (mirrors past) r = some m) :
    (replay s₀ past).Answers i r (Scalar.abs m.amount < Scalar.abs (thresholdIn m.mode past))
      (·.launch m) := by
  have tracks := possible.tracks opened
  rw [← threshold_replay opened zero possible]
  rw [← tracks.mirrored] at wants
  exact answers_of_wanted tracks.wired free wants

/-- **A request is ignored exactly if it is below the threshold** of its kind that was set last, in
magnitude, and leaves everything as it is; else its client launches the motion that it asked for.
An amount or a threshold that is not a number makes no request to be ignored.

Over exact numbers a request in wheel degrees is ignored exactly if these are below the threshold
times the scale, and else its client launches a motion toward the motor degrees that they come to,
whatever the scale. -/
theorem ignored_iff_below :
    (∀ {s₀ : Shared Float} {past : List (Event Float)}, s₀.Opened → Possible s₀ past →
      ∀ (i : Nat) (r : Request Float) (m : Motion Float),
        ((replay s₀ past).clients i).isFree = true →
        wanted s₀.controller (mirrors past) r = some m →
          (replay s₀ past).Answers i r
              (Scalar.abs m.amount < Scalar.abs (thresholdIn m.mode past)) (·.launch m) ∧
            (m.amount.isNaN = true ∨ (thresholdIn m.mode past).isNaN = true →
              ¬ (replay s₀ past).Ignores i r)) ∧
      ∀ {s₀ : Shared ℝ} {past : List (Event ℝ)}, s₀.Opened → Possible s₀ past →
        ∀ (i : Nat) (ticks : ℝ), ((replay s₀ past).clients i).isFree = true →
          let target := ticks * s₀.controller.gearing.ratio
          (replay s₀ past).Answers i (.moveRaw ticks)
              (|ticks| < |thresholdIn .distance past| * s₀.controller.scales.straight)
              (·.beginMove target) ∧
            (replay s₀ past).Answers i (.turnRaw ticks)
              (|ticks| < |thresholdIn .angle past| * s₀.controller.scales.turn)
              (·.beginTurn (target * (if mirrors past then -1 else 1))) := by
  constructor
  · intro s₀ past opened possible i r m free wants
    have answers := answers_replay opened abs_zero_float possible free wants
    exact ⟨answers, fun nan => mt answers.ignored.1 (not_lt_of_isNaN nan)⟩
  · intro s₀ past opened possible i ticks free target
    have workable := opened.workable
    have wired := wired_replay possible
    constructor
    · refine (answers_replay opened abs_zero possible free rfl).congr free
        (Controller.abs_div_lt_iff workable.straight.2) fun c same => ?_
      have same := wired.trans same
      rw [← same.scales, Controller.launch_rawLength, same.gearing]
      rw [same.scales]
      exact workable.straight.2.ne'
    · refine (answers_replay opened abs_zero possible free rfl).congr free
        (Controller.abs_div_lt_iff workable.turn.2) fun c same => ?_
      have same := wired.trans same
      rw [← same.scales, Controller.launch_rawAngle, same.gearing]
      rw [same.scales]
      exact workable.turn.2.ne'

/-- A bench in the middle of a turn, with a threshold for moves that was given with a sign. -/
def turningBack : List (Event Float) :=
  [.work ⟨⟨0, 0⟩, ⟨5, -5⟩⟩, .wake, .start ⟨0, 0⟩, .launch 1, .ask 1 (.turn ⟨90⟩),
    .ask 1 (.setMoveThreshold ⟨-2⟩)]

/-- Turns mirrored, with a threshold. -/
def wary : List (Event ℝ) := [.ask 1 (.setTurnThreshold ⟨-1⟩), .ask 1 (.mirror true)]

/-- On the bench a short move is ignored, and one that is not a number is not; on wheels whose scale
is two, one wheel degree is ignored, and two are launched, mirrored. -/
theorem ignored_iff_below_of_wary :
    ((replay scripted turningBack).Ignores 0 (.move ⟨-1.5⟩) ∧
        ¬ (replay scripted turningBack).Ignores 0 (.move ⟨0 / 0⟩)) ∧
      (replay surveyed wary).Ignores 0 (.turnRaw (-1)) ∧
        (replay surveyed wary).Begins 0 (.turnRaw 2) (·.beginTurn (-2)) := by
  have possible : Possible scripted turningBack := by decide +kernel
  have possible' : Possible surveyed wary := ⟨⟨trivial, rfl⟩, rfl⟩
  have bench := fun x => ignored_iff_below.1 opened_scripted possible 0 (.move ⟨x⟩) _ rfl rfl
  have wheels := fun ticks => ignored_iff_below.2 opened_surveyed possible' 0 ticks rfl
  have scale : surveyed.controller.scales.turn = 2 := by
    show (2 : ℝ) / 1 = 2
    norm_num
  have threshold : (thresholdIn .angle wary : ℝ) = -1 := rfl
  have mirrored : mirrors wary = true := rfl
  have ratio : surveyed.controller.gearing.ratio = 1 := rfl
  refine ⟨⟨(bench _).1.ignored.2 (by decide +kernel), (bench _).2 (.inl (by decide +kernel))⟩,
    ?_, ?_⟩
  · refine (wheels (-1)).2.ignored.2 ?_
    rw [threshold, scale]
    norm_num
  · have begun := (wheels 2).2.begins ?_
    · rw [mirrored, if_pos rfl, ratio] at begun
      norm_num at begun
      exact begun
    · rw [threshold, scale]
      norm_num

end Shared

end Drivetrain
