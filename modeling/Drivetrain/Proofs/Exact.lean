/-
Exact numbers.

Every formula of the library is written over an interface of number operations, and the real numbers
have these operations too.  What is said of a formula over the reals is said of the formula itself,
without rounding and with the true half circumference.

Main definitions:

* `Drivetrain.instScalarReal` — the real numbers as numbers that a controller computes with;
* `Drivetrain.Shared.ideal`, `Drivetrain.Shared.setOut` — a controller over exact numbers, just
  created, and the first steps of a motion on it.

Main results:

* `Drivetrain.Scalar.truncate_of_nonneg`, `Drivetrain.Scalar.truncate_of_nonpos` — dropping the
  fraction rounds down above zero and up below it;
* `Drivetrain.Time.toSeconds_real`, `Drivetrain.Range.clamp_real` — seconds and clamping over the
  reals;
* `Drivetrain.Shared.replay_setOut`, `Drivetrain.Shared.possible_setOut` — a controller just created
  **sets out** on any motion that it accepts.
-/

import Mathlib.Analysis.Real.Pi.Bounds
import Drivetrain.Proofs.Course

set_option relaxedAutoImplicit false
set_option autoImplicit false

namespace Drivetrain

/-- **Exact numbers**: all of them are finite, and each is a number. -/
noncomputable instance instScalarReal : Scalar ℝ where
  toZero := inferInstance
  toOne := inferInstance
  toAdd := inferInstance
  toSub := inferInstance
  toMul := inferInstance
  toDiv := inferInstance
  toNeg := inferInstance
  toLT := inferInstance
  toLE := inferInstance
  beq x y := decide (x = y)
  decidableLT := inferInstance
  decidableLE := inferInstance
  ofInt n := n
  ofDecimal m e := m / 10 ^ e
  pi := Real.pi
  abs x := |x|
  isNegative x := decide (x < 0)
  isNaN _ := false
  isFinite _ := true
  truncate x := if x < 0 then ⌈x⌉ else ⌊x⌋

/-! ### Operations -/

namespace Scalar

@[simp] theorem ofInt_real (n : ℤ) : (ofInt n : ℝ) = n := rfl

@[simp] theorem pi_real : (pi : ℝ) = Real.pi := rfl

@[simp] theorem abs_real (x : ℝ) : Scalar.abs x = |x| := rfl

@[simp] theorem isNaN_real (x : ℝ) : isNaN x = false := rfl

@[simp] theorem isFinite_real (x : ℝ) : isFinite x = true := rfl

theorem larger_real (x y : ℝ) : larger x y = max x y := by
  rcases lt_or_ge x y with h | h
  · rw [larger, if_pos h, max_eq_right h.le]
  · rw [larger, if_neg (not_lt.2 h), isNaN_real, if_neg Bool.false_ne_true, max_eq_left h]

theorem truncate_of_nonneg {x : ℝ} (h : 0 ≤ x) : truncate x = ⌊x⌋ := if_neg (not_lt.2 h)

theorem truncate_of_nonpos {x : ℝ} (h : x ≤ 0) : truncate x = ⌈x⌉ := by
  rcases h.lt_or_eq with h | rfl
  · exact if_pos h
  · rw [truncate_of_nonneg le_rfl, Int.floor_zero, Int.ceil_zero]

end Scalar

/-- A duration in seconds, its parts put together again. -/
theorem Time.toSeconds_real (n : ℕ) : (Time.toSeconds n : ℝ) = n / 1000000000 := by
  have parts : ((n / perSecond : ℕ) : ℝ) * 1000000000 + ((n % perSecond : ℕ) : ℝ) = n := by
    have whole : n / perSecond * 1000000000 + n % perSecond = n := by
      unfold perSecond
      omega
    exact_mod_cast whole
  have second : ((perSecond : ℤ) : ℝ) = 1000000000 := by norm_num [perSecond]
  simp only [toSeconds, Scalar.ofInt_real, Int.cast_natCast] at second ⊢
  rw [second, ← parts]
  field_simp

theorem Time.toSeconds_nonneg (n : ℕ) : (0 : ℝ) ≤ Time.toSeconds n := by
  rw [toSeconds_real]
  positivity

@[simp] theorem Time.toSeconds_zero : (Time.toSeconds 0 : ℝ) = 0 := by
  rw [toSeconds_real, Nat.cast_zero, zero_div]

namespace Range

theorem clamp_real {r : Range ℝ} (ordered : r.lo ≤ r.hi) (x : ℝ) :
    r.clamp x = max r.lo (min r.hi x) := by
  rcases lt_or_ge x r.lo with below | above
  · rw [clamp, if_pos below, min_eq_right (below.le.trans ordered), max_eq_left below.le]
  · rw [clamp, if_neg (not_lt.2 above)]
    rcases lt_or_ge r.hi x with past | within
    · rw [if_pos past, min_eq_left past.le, max_eq_right ordered]
    · rw [if_neg (not_lt.2 within), min_eq_right within, max_eq_right above]

end Range

/-! ### A controller over exact numbers -/

namespace Controller

variable {c : Controller ℝ}

/-- Without a threshold every move is accepted. -/
theorem motion?_move (threshold : c.moveThreshold = .zero) (x : Length ℝ) :
    c.motion? (.move x) = some (.move x) := by
  have heeded : ¬ |x.meters| < 0 := (abs_nonneg _).not_gt
  simp [motion?, acceptMove, ignoresMove, threshold, Length.zero, Length.abs, heeded]

/-- Without a threshold every turn is accepted. -/
theorem motion?_turn (threshold : c.turnThreshold = .zero) (a : Angle ℝ) :
    c.motion? (.turn a) = some (.turn a c.mirrored) := by
  have heeded : ¬ |a.degrees| < 0 := (abs_nonneg _).not_gt
  simp [motion?, acceptTurn, ignoresTurn, threshold, Angle.zero, Angle.abs, heeded]

end Controller

namespace Shared

/-- Full voltage, in millivolts. -/
noncomputable def battery : ℝ := 12000

/-- A controller over exact numbers, just created, before anybody uses it. -/
noncomputable def ideal (distance turn angle : Loop ℝ) (gearing : Gearing ℝ) (scales : Scales ℝ)
    (period : {n : ℕ // 0 < n}) (drive : Drive ℝ) : Shared ℝ where
  controller :=
    { scales := scales
      gearing := gearing
      period := period.1
      period_pos := period.2
      distance := distance
      turn := turn
      angle := angle
      mode := .none
      idle := true
      fresh := false
      baseline := ⟨0, 0⟩
      lastMode := .none
      mirrored := false
      moveThreshold := .zero
      turnThreshold := .zero }
  drive := drive
  now := 0
  worker := .off
  clients := fun _ => .free

theorem opened_ideal {gearing : Gearing ℝ} {scales : Scales ℝ} (ratio : gearing.ratio ≠ 0)
    (straight : 0 < scales.straight) (turning : 0 < scales.turn) (distance turn angle : Loop ℝ)
    (period : {n : ℕ // 0 < n}) (drive : Drive ℝ) :
    (ideal distance turn angle gearing scales period drive).Opened where
  created := by
    refine ⟨distance, turn, angle, gearing, scales, period.1, ?_⟩
    have usable : Controller.refusal? gearing scales = none := by
      have present : (gearing.ratio == 0) = false := decide_eq_false ratio
      have valid : scales.isValid = true := by
        simp [Scales.isValid, straight, turning]
      simp [Controller.refusal?, present, valid]
    rw [Controller.create, usable]
    exact dif_pos period.2
  worker := rfl
  clients := fun _ => rfl

variable {α : Type} [Scalar α]

/-- A motion asked for and launched, and the thread of the cycle started and awake. -/
def setOut (r : Controller.Request α) (baseline : Readings) : List (Event α) :=
  [.wake, .start baseline, .launch 0, .ask 0 r]

/-- A controller that set out on a motion is about to run the first cycle of it. -/
theorem replay_setOut {s : Shared α} (opened : s.Opened) {r : Controller.Request α}
    {m : Controller.Motion α} (accepts : s.controller.motion? r = some m) (baseline : Readings) :
    replay s (setOut r baseline) =
      { s with controller := (s.controller.launch m).started baseline, worker := .awake } := by
  have free := opened.clients 0
  have asked := after_ask_of_accepted accepts 0
  have launched : (s.after (.ask 0 r)).after (.launch 0) =
      { s with controller := s.controller.launch m } := by
    rw [asked, after, launch, clients_setClient_self]
    simp only [setClient, Client.motion?, Function.update_idem, ← free, Function.update_eq_self]
  simp only [setOut, replay_cons, replay_nil, launched]
  -- the motion has left the controller with something to do
  cases m <;> rfl

/-- A controller just created can set out on any motion that it accepts, and then its first cycle
can run. -/
theorem possible_setOut {s : Shared α} (opened : s.Opened) {r : Controller.Request α}
    {m : Controller.Motion α} (accepts : s.controller.motion? r = some m) (baseline : Readings)
    (samples : Controller.Samples) : Possible s (.work samples :: setOut r baseline) := by
  have free := opened.clients 0
  have off := opened.worker
  have asked := after_ask_of_accepted accepts 0
  have ready : (s.after (.ask 0 r)).Enabled (.launch 0) := by
    rw [asked, Enabled, clients_setClient_self]
    rfl
  obtain ⟨m', hm, launched⟩ := launch_cases ready
  refine ⟨⟨⟨⟨⟨trivial, ?_⟩, ready⟩, ?_⟩, rfl⟩, ?_⟩
  · show (s.clients 0).isFree = true
    rw [free]
    rfl
  · show ((s.after (.ask 0 r)).after (.launch 0)).worker = .off
    rw [launched, asked]
    exact off
  · rw [Enabled, replay_setOut opened accepts]

end Shared

end Drivetrain
