/-
The baseline of a motion: where its travel is measured from.

Every motion is measured from the readings that its own first cycle takes, in whatever state it was
launched: out of rest, out of another motion of the same or the other mode, after a stop, before the
thread of the cycle was started, or right after a motion that no cycle has seen.  Two signs make a
cycle take new readings, a flag and a change of mode; the invariant below says that together they
are set exactly until that first cycle.

Main definitions:

* `Drivetrain.Shared.origin` — the readings that a motion is measured from, by the history;
* `Drivetrain.Shared.Measures` — what every run keeps of its baseline;
* `Drivetrain.Shared.StepsFrom` — whether a cycle steps the loops of its mode, once each, with the
  exact travel since a baseline.

Main results:

* `Drivetrain.Shared.Possible.measures` — **the invariant of every run**;
* `Drivetrain.Shared.value?_mean`, `Drivetrain.Shared.value?_lead` — the readings of the loops
  are exact;
* `Drivetrain.Shared.cycle_measures_from_origin` — every cycle measures from its motion's own start.
-/

import Drivetrain.Proofs.Ending
import Drivetrain.Proofs.Machine

set_option relaxedAutoImplicit false
set_option autoImplicit false

namespace Drivetrain.Shared

open Controller (Samples)
open Machine (value?)
open Scalar (ofInt)

variable {α : Type}

/-! ### The origin of a motion -/

/-- **The readings that a motion is measured from**, by the history: those that the first cycle
since the last launch was given first. -/
def origin : List (Event α) → Option Readings
  | [] => none
  | .launch _ :: _ => none
  | .work samples :: past => some ((origin past).getD samples.baseline)
  | _ :: past => origin past

/-- **What every run keeps of its baseline.**  Until the first cycle of a motion the flag is up;
from then on it is down, the mode is that of the last cycle, and the baseline is the origin. -/
structure Measures (past : List (Event α)) (s : Shared α) : Prop where
  /-- Before the thread of the cycle was started no cycle has run. -/
  off : s.worker = .off → origin past = none
  /-- A motion that no cycle has seen has its flag up. -/
  fresh : s.controller.mode ≠ .none → origin past = none → s.controller.fresh = true
  /-- A motion that a cycle has seen is measured from its origin. -/
  taken : s.controller.mode ≠ .none → ∀ b, origin past = some b →
    s.controller.fresh = false ∧ s.controller.lastMode = s.controller.mode ∧
      s.controller.baseline = b

/-- Within a motion the first cycle takes a new baseline, and no other does. -/
theorem Measures.needsBaseline {past : List (Event α)} {s : Shared α} (h : Measures past s)
    (hm : s.controller.mode ≠ .none) :
    s.controller.needsBaseline = (origin past).isNone := by
  rw [Controller.needsBaseline]
  cases ho : origin past with
  | none => simp [h.fresh hm ho]
  | some b =>
      obtain ⟨fresh, lastMode, -⟩ := h.taken hm b ho
      simp [fresh, lastMode]

/-- An event that leaves the signs and the baseline, and starts no thread over, keeps the
invariant. -/
theorem Measures.of_eq {past past' : List (Event α)} {s s' : Shared α} (h : Measures past s)
    (origins : origin past' = origin past) (worker : s'.worker = .off → s.worker = .off)
    (mode : s'.controller.mode = s.controller.mode)
    (fresh : s'.controller.fresh = s.controller.fresh)
    (lastMode : s'.controller.lastMode = s.controller.lastMode)
    (baseline : s'.controller.baseline = s.controller.baseline) : Measures past' s' where
  off hw := origins.trans (h.off (worker hw))
  fresh hm ho := by
    rw [mode] at hm
    rw [fresh]
    exact h.fresh hm (origins.symm.trans ho)
  taken hm b ho := by
    rw [mode] at hm
    rw [fresh, lastMode, mode, baseline]
    exact h.taken hm b (origins.symm.trans ho)

theorem Measures.of_resembles {past past' : List (Event α)} {s s' : Shared α} (h : Measures past s)
    (origins : origin past' = origin past) (worker : s'.worker = .off → s.worker = .off)
    (alike : s.controller.Resembles s'.controller) : Measures past' s' :=
  h.of_eq origins worker alike.mode alike.fresh alike.lastMode alike.baseline

theorem Measures.baseline_moved {past : List (Event α)} {s : Shared α} (h : Measures past s)
    (hm : s.controller.mode ≠ .none) (samples : Samples) :
    (s.controller.rebased samples.baseline).baseline = (origin past).getD samples.baseline := by
  rw [Controller.rebased, h.needsBaseline hm]
  cases ho : origin past with
  | none => rfl
  | some b => exact (h.taken hm b ho).2.2

variable [Scalar α]

theorem Measures.step {past : List (Event α)} {s : Shared α} {e : Event α} (h : Measures past s)
    (enabled : s.Enabled e) : Measures (e :: past) (s.after e) := by
  cases e with
  | ask i r =>
      cases hr : s.controller.motion? r with
      | some m => rw [after_ask_of_accepted hr]; exact h.of_eq rfl id rfl rfl rfl rfl
      | none =>
          rw [after_ask_of_none hr]
          refine h.of_eq rfl ?_ ?_ ?_ ?_ ?_
          · rw [worker_steer]; exact id
          all_goals rw [controller_steer]; cases r <;> rfl
  | launch i =>
      -- a launch puts the flag up, and its motion has no origin yet
      obtain ⟨m, -, e⟩ := launch_cases enabled
      rw [e]
      exact
        { off := fun _ => rfl
          fresh := fun _ _ => by cases m <;> rfl
          taken := nofun }
  | poll i verdict =>
      have worker := worker_after_poll enabled
      obtain alike | ⟨c, -, e⟩ := resembles_after_poll enabled
      · exact h.of_resembles rfl (fun off => worker.symm.trans off) alike
      · -- the motion is over, so nothing is said of its baseline
        refine ⟨fun off => h.off (worker.symm.trans off), ?_, ?_⟩
        all_goals
          rw [e]
          intro moving
          exact absurd rfl moving
  | start baseline =>
      -- no cycle has run before the thread was started
      have unseen : origin past = none := h.off enabled
      exact
        { off := nofun
          fresh := fun moving _ => h.fresh moving unseen
          taken := fun _ b taken => by cases unseen.symm.trans taken }
  | wake =>
      refine h.of_eq rfl ?_ rfl rfl rfl rfl
      intro off
      simp only [after] at off
      split at off <;> cases off
  | work samples =>
      -- a cycle takes the flag down, and its baseline is the origin from now on
      have alike := s.controller.cycle_resembles samples s.now
      refine ⟨fun off => ?_, fun _ unseen => ?_, fun moving b taken => ?_⟩
      · simp only [after, worker_steer] at off
        cases off
      · cases unseen
      · rw [controller_after_work] at moving ⊢
        rw [alike.mode] at moving
        cases taken
        exact ⟨alike.fresh, alike.lastMode.trans alike.mode.symm,
          alike.baseline.trans (h.baseline_moved moving samples)⟩
  | scriptOutput slot x => exact h.of_resembles rfl id (s.resembles_after_scriptOutput slot x)
  | scriptSettled slot b => exact h.of_resembles rfl id (s.resembles_after_scriptSettled slot b)
  | _ => exact h.of_eq rfl id rfl rfl rfl rfl

/-- **The invariant of every run.** -/
theorem Possible.measures {s₀ : Shared α} (opened : s₀.Opened) {past : List (Event α)}
    (possible : Possible s₀ past) : Measures past (replay s₀ past) := by
  refine Possible.invariant (P := Measures) ?_ ?_ possible
  · obtain ⟨⟨distance, turn, angle, gearing, scales, period, created⟩, -, -⟩ := opened
    have atRest := Controller.of_create created
    exact
      { off := fun _ => rfl
        fresh := fun moving => absurd atRest.mode moving
        taken := nofun }
  · intro past e _ enabled h
    exact h.step enabled

/-- The travel that a cycle finds, by the history. -/
def movedBy (past : List (Event α)) (samples : Samples) : Sides α :=
  Controller.travel ((origin past).getD samples.baseline) samples.current

/-- Within a motion every cycle finds the travel since the origin. -/
theorem moved_eq_movedBy {s₀ : Shared α} (opened : s₀.Opened) {past : List (Event α)}
    (possible : Possible s₀ past) (moving : (replay s₀ past).controller.mode ≠ .none)
    (samples : Samples) : (replay s₀ past).controller.moved samples = movedBy past samples := by
  rw [Controller.moved, (possible.measures opened).baseline_moved moving, movedBy]

/-! ### Exact readings -/

/-- The travel of a side, in whole units: the difference of two readings, which wraps as they do. -/
def travelled (baseline current : Int32) : ℤ := (current - baseline).toInt

/-- Whether the travel of a side is its true one, wherever that fits in thirty-two bits. -/
def TrueTravel (baseline current : Readings) (side : Side) : Prop :=
  ∀ d : ℤ, d = (current.on side).toInt - (baseline.on side).toInt → -2 ^ 31 ≤ d → d < 2 ^ 31 →
    travelled (baseline.on side) (current.on side) = d

theorem trueTravel (baseline current : Readings) (side : Side) :
    TrueTravel baseline current side := by
  rintro d rfl low high
  rw [travelled, Int32.toInt_sub]
  exact Int.bmod_eq_of_le (by omega) (by omega)

theorem natAbs_travelled (baseline current : Int32) :
    (travelled baseline current).natAbs ≤ 2 ^ 31 := by
  have low := (current - baseline).le_toInt
  have high := (current - baseline).toInt_lt
  rw [travelled]
  omega

/-- **The mean of two travels is exact.** -/
theorem value?_mean {l r : ℤ} (hl : l.natAbs ≤ 2 ^ 31) (hr : r.natAbs ≤ 2 ^ 31) :
    value? ((ofInt l + ofInt r) / ofInt 2) = some (((l : ℚ) + r) / 2) := by
  have left : value? (Float.ofInt l) = some (l : ℚ) := Machine.value?_ofInt (by omega)
  have right : value? (Float.ofInt r) = some (r : ℚ) := Machine.value?_ofInt (by omega)
  have two : value? (Float.ofInt 2) = some ((2 : ℤ) : ℚ) := Machine.value?_ofInt (by decide)
  have whole : Machine.Representable ((l : ℚ) + r) := by
    have held := Machine.representable_int (show (l + r).natAbs < 2 ^ 53 by omega)
    rwa [Int.cast_add] at held
  have half : Machine.Representable (((l : ℚ) + r) / (2 : ℤ)) :=
    ⟨l + r, -1, by omega, by decide, by decide, by push_cast; ring⟩
  exact Machine.value?_div (Machine.value?_add left right whole) two (by decide) half

/-- **The difference of two travels is exact.** -/
theorem value?_lead {l r : ℤ} (hl : l.natAbs ≤ 2 ^ 31) (hr : r.natAbs ≤ 2 ^ 31) :
    value? (ofInt l - ofInt r) = some ((l : ℚ) - r) := by
  have left : value? (Float.ofInt l) = some (l : ℚ) := Machine.value?_ofInt (by omega)
  have right : value? (Float.ofInt r) = some (r : ℚ) := Machine.value?_ofInt (by omega)
  have held := Machine.representable_int (show (l - r).natAbs < 2 ^ 53 by omega)
  rw [Int.cast_sub] at held
  exact Machine.value?_sub left right held

/-! ### The theorem -/

/-- The mean travel of both sides, in exact numbers. -/
def meanTravel (baseline current : Readings) : ℚ :=
  ((travelled baseline.left current.left : ℚ) + travelled baseline.right current.right) / 2

/-- How much further the left side has travelled than the right, in exact numbers. -/
def leadTravel (baseline current : Readings) : ℚ :=
  (travelled baseline.left current.left : ℚ) - travelled baseline.right current.right

/-- **Whether a cycle steps the loops of its mode**, once each and no other, with the exact travel
since a baseline. -/
structure StepsFrom (baseline current : Readings) (now : Nat) (c c' : Controller Float) : Prop where
  /-- Out of a motion no loop is stepped. -/
  none : c.mode = .none →
    c'.distance = c.distance ∧ c'.angle = c.angle ∧ c'.turn = c.turn
  /-- A move steps the distance loop on the mean and the angle loop on the lead. -/
  distance : c.mode = .distance →
    ∃ mean lead : Float, value? mean = some (meanTravel baseline current) ∧
      value? lead = some (leadTravel baseline current) ∧
      c'.distance = (c.distance.step mean now).1 ∧ c'.angle = (c.angle.step lead now).1 ∧
      c'.turn = c.turn
  /-- A turn steps the turn loop on the lead. -/
  angle : c.mode = .angle →
    ∃ lead : Float, value? lead = some (leadTravel baseline current) ∧
      c'.turn = (c.turn.step lead now).1 ∧ c'.distance = c.distance ∧ c'.angle = c.angle

theorem stepsFrom_cycle {c : Controller Float} {baseline : Readings} {samples : Samples}
    (taken : c.mode ≠ .none → (c.rebased samples.baseline).baseline = baseline) (now : Nat) :
    StepsFrom baseline samples.current now c (c.cycle samples now).1 := by
  have hl := natAbs_travelled baseline.left samples.current.left
  have hr := natAbs_travelled baseline.right samples.current.right
  constructor
  · intro hm
    rw [Controller.cycle_of_none hm]
    exact ⟨rfl, rfl, rfl⟩
  · intro hm
    rw [hm] at taken
    rw [Controller.cycle_of_distance hm, Controller.moved, taken (by decide)]
    exact ⟨_, _, value?_mean hl hr, value?_lead hl hr, rfl, rfl, rfl⟩
  · intro hm
    rw [hm] at taken
    rw [Controller.cycle_of_angle hm, Controller.moved, taken (by decide)]
    exact ⟨_, value?_lead hl hr, rfl, rfl, rfl⟩

/-- **Every cycle measures from its motion's own start.**  Once the first cycle of a motion has run,
the baseline is what that cycle read first, for as long as the motion lasts.  Every cycle steps the
loops of its mode once each with the exact travel since there, which is the true one wherever it
fits in thirty-two bits, and of the cycles within a motion the first one alone takes a baseline. -/
theorem cycle_measures_from_origin {s₀ : Shared Float} (opened : s₀.Opened)
    {past : List (Event Float)} (possible : Possible s₀ past) :
    ((replay s₀ past).controller.mode ≠ .none → ∀ b, origin past = some b →
        (replay s₀ past).controller.baseline = b) ∧
      ∀ samples, (replay s₀ past).Enabled (.work samples) →
        StepsFrom ((origin past).getD samples.baseline) samples.current (replay s₀ past).now
            (replay s₀ past).controller (replay s₀ (.work samples :: past)).controller ∧
          ((replay s₀ past).controller.mode ≠ .none →
            (replay s₀ past).controller.needsBaseline = (origin past).isNone) ∧
          ∀ side, TrueTravel ((origin past).getD samples.baseline) samples.current side := by
  have measures := possible.measures opened
  refine ⟨fun moving b taken => (measures.taken moving b taken).2.2, ?_⟩
  intro samples _
  refine ⟨?_, measures.needsBaseline, trueTravel _ _⟩
  rw [replay_cons, controller_after_work]
  exact stepsFrom_cycle (fun moving => measures.baseline_moved moving samples) _

/-- A move launched over a turn that no cycle has seen, and then a first cycle. -/
def relaunched : List (Event Float) :=
  [.wake, .work ⟨⟨100, 2147483647⟩, ⟨100, 2147483647⟩⟩, .wake, .start ⟨0, 0⟩, .launch 0,
    .ask 0 (.move ⟨1⟩), .launch 0, .ask 0 (.turn ⟨90⟩)]

/-- The second cycle measures from the readings of the first, though one side has passed the largest
reading that there is. -/
theorem cycle_measures_from_origin_of_relaunched :
    travelled 2147483647 (-2147483645) = 4 ∧
      StepsFrom ⟨100, 2147483647⟩ ⟨103, -2147483645⟩ (replay scripted relaunched).now
        (replay scripted relaunched).controller
        (replay scripted (.work ⟨⟨103, 2147483647⟩, ⟨103, -2147483645⟩⟩ :: relaunched)).controller := by
  have possible : Possible scripted relaunched := by decide +kernel
  have start : origin relaunched = some ⟨100, 2147483647⟩ := rfl
  have measured := (cycle_measures_from_origin opened_scripted possible).2
    ⟨⟨103, 2147483647⟩, ⟨103, -2147483645⟩⟩ (by decide +kernel)
  rw [start, Option.getD_some] at measured
  exact ⟨by decide, measured.1⟩

end Drivetrain.Shared
