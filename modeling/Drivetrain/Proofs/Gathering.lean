/-
What a loop gathers, and the bounds it keeps.

A loop adds up what its errors call for over time.  It holds the sum inside its limits at every
step and drops it when the error changes its sign, so the sum is not of all errors but of those
since the sign last changed, each held inside the limits of its own time.  Everything else that is
done to a loop, between the steps and while it is switched off, leaves the sum alone.

What is gathered is read off the history of a loop, which says for every step what gain, limits,
target and time it had.  Only the order of numbers matters for this, so it is said of any numbers
that are in order, and infinite limits are among them.

Main definitions:

* `Drivetrain.Scalar.Ordered`, `Drivetrain.instScalarEReal` — **numbers in order**, none of which is
  not a number, and the exact numbers with infinities among them;
* `Drivetrain.Pid.Operation`, `Drivetrain.Pid.replay` — what can be done to a loop, and the loop
  after a history, which is listed with the newest operation first;
* `Drivetrain.Pid.samples` — the errors that a history has since its last reset;
* `Drivetrain.Pid.sinceCrossing`, `Drivetrain.Pid.gathered` — those of them since the sign last
  changed, and what is gathered from them.

Main results:

* `Drivetrain.Pid.gathered_cons` — one more error is added to what is gathered, or to nothing;
* `Drivetrain.Pid.configured_replay`, `Drivetrain.Pid.recalls_replay` — a loop has the settings of
  its history, and **recalls its history**;
* `Drivetrain.Pid.gathers_since_crossing` — the limits are always in order, a step is always within
  them, and its integral is **what was gathered since the sign last changed**.
-/

import Mathlib.Data.EReal.Inv
import Drivetrain.Proofs.Exact
import Drivetrain.Proofs.Reflection

set_option relaxedAutoImplicit false
set_option autoImplicit false

namespace Drivetrain

/-! ### Numbers in order -/

/-- **Numbers in order**: each is a number, any two of them compare, and what is less than zero is
what carries a minus sign. -/
class Scalar.Ordered (α : Type) [Scalar α] : Prop where
  isNaN_eq : ∀ x : α, Scalar.isNaN x = false
  isNegative_eq : ∀ x : α, Scalar.isNegative x = decide (x < 0)
  le_refl : ∀ x : α, x ≤ x
  le_of_lt : ∀ {x y : α}, x < y → x ≤ y
  le_of_not_lt : ∀ {x y : α}, ¬ x < y → y ≤ x
  neg_one_le_one : (-1 : α) ≤ 1

instance : Scalar.Ordered ℝ where
  isNaN_eq _ := rfl
  isNegative_eq _ := rfl
  le_refl _ := le_rfl
  le_of_lt := LT.lt.le
  le_of_not_lt := le_of_not_gt
  neg_one_le_one := by norm_num

/-- **Exact numbers with infinities.** -/
noncomputable instance instScalarEReal : Scalar EReal where
  toZero := inferInstance
  toOne := inferInstance
  toAdd := inferInstance
  toSub := inferInstance
  toMul := inferInstance
  toDiv := inferInstance
  toNeg := inferInstance
  toLT := inferInstance
  toLE := inferInstance
  beq x y := decide (x = y)
  decidableLT := inferInstance
  decidableLE := inferInstance
  ofInt n := (Scalar.ofInt n : ℝ)
  ofDecimal m e := (Scalar.ofDecimal m e : ℝ)
  pi := (Scalar.pi : ℝ)
  abs x := max x (-x)
  isNegative x := decide (x < 0)
  isNaN _ := false
  isFinite x := decide (x ≠ ⊤ ∧ x ≠ ⊥)
  truncate x := Scalar.truncate x.toReal

instance : Scalar.Ordered EReal where
  isNaN_eq _ := rfl
  isNegative_eq _ := rfl
  le_refl _ := le_rfl
  le_of_lt := LT.lt.le
  le_of_not_lt := le_of_not_gt
  neg_one_le_one := by
    have real : (((-1 : ℝ)) : EReal) ≤ ((1 : ℝ) : EReal) := EReal.coe_le_coe_iff.2 (by norm_num)
    rw [EReal.coe_neg, EReal.coe_one] at real
    exact real

variable {α : Type} [Scalar α]

namespace Range

/-- What lies between the bounds of a range. -/
structure Holds (r : Range α) (x : α) : Prop where
  lo : r.lo ≤ x
  hi : x ≤ r.hi

variable [Scalar.Ordered α]

theorem holds_clamp {r : Range α} (ordered : r.lo ≤ r.hi) (x : α) : r.Holds (r.clamp x) := by
  rw [clamp]
  split
  · exact ⟨Scalar.Ordered.le_refl _, ordered⟩
  · rename_i above
    split
    · exact ⟨ordered, Scalar.Ordered.le_refl _⟩
    · rename_i below
      exact ⟨Scalar.Ordered.le_of_not_lt above, Scalar.Ordered.le_of_not_lt below⟩

end Range

namespace Pid

/-- Two limits make a range in whichever order they are given. -/
theorem limitsOf_ordered [Scalar.Ordered α] (max min : α) :
    (limitsOf max min).lo ≤ (limitsOf max min).hi := by
  rw [limitsOf]
  split
  · rename_i less
    exact Scalar.Ordered.le_of_lt less
  · rename_i least
    exact Scalar.Ordered.le_of_not_lt least

/-! ### Histories -/

/-- **What can be done to a loop.** -/
inductive Operation (α : Type) where
  | setTarget (target : α)
  | step (reading : α) (now : Nat)
  | check (now : Nat)
  | reset
  | setDisabled (disabled : Bool)
  | setGains (gains : Gains α)
  | setLimits (max min : α)

/-- The loop after an operation. -/
def after (p : Pid α) : Operation α → Pid α
  | .setTarget target => p.setTarget target
  | .step reading now => (p.step reading now).1
  | .check now => (p.checkSettled now).2
  | .reset => p.reset
  | .setDisabled disabled => p.setDisabled disabled
  | .setGains gains => p.setGains gains
  | .setLimits max min => (p.setLimits max min).1

/-- **The loop after a history**, the newest operation of which is its head. -/
def replay (p : Pid α) : List (Operation α) → Pid α
  | [] => p
  | o :: past => (p.replay past).after o

theorem after_step_of_disabled {p : Pid α} (off : p.disabled = true) (reading : α) (now : Nat) :
    p.after (.step reading now) = { p with output := 0 } := by
  rw [after, step_of_disabled off]

/-- **New limits are stored**, and the output is brought inside them if they are in order. -/
theorem setLimits_eq (p : Pid α) (max min : α) :
    p.setLimits max min =
      if (limitsOf max min).lo ≤ (limitsOf max min).hi then
        ({ p with
            outputLimits := limitsOf max min
            integralLimits := limitsOf max min
            output := (limitsOf max min).clamp p.output }, true)
      else
        ({ p with outputLimits := limitsOf max min, integralLimits := limitsOf max min }, false) := by
  by_cases ordered : (limitsOf max min).lo ≤ (limitsOf max min).hi
  · simp only [setLimits, Range.clamp?, ordered, if_true]
  · simp only [setLimits, Range.clamp?, ordered, if_false]

/-- A check leaves all but the settling alone. -/
theorem after_check (p : Pid α) (now : Nat) :
    p.after (.check now) = { p with settling := (p.checkSettled now).2.settling } := by
  rw [after, checkSettled]
  split <;> rfl

/-! ### What a history tells -/

/-- The target that a history set last. -/
def targetIn : List (Operation α) → α
  | [] => 0
  | .setTarget target :: _ => target
  | _ :: past => targetIn past

omit [Scalar α] in
/-- Whether a history left a loop switched on. -/
def isOn : List (Operation α) → Bool
  | [] => true
  | .setDisabled disabled :: _ => !disabled
  | _ :: past => isOn past

/-- The limits that a history set last. -/
def limitsIn : List (Operation α) → Range α
  | [] => .unit
  | .setLimits max min :: _ => limitsOf max min
  | _ :: past => limitsIn past

omit [Scalar α] in
/-- The gains that a history set last, on a loop that had gains before. -/
def gainsIn (gains : Gains α) : List (Operation α) → Gains α
  | [] => gains
  | .setGains new :: _ => new
  | _ :: past => gainsIn gains past

omit [Scalar α] in
/-- When a loop that is switched on was last stepped since its last reset. -/
def steppedIn : List (Operation α) → Option Nat
  | [] => none
  | .reset :: _ => none
  | .step _ now :: past => if isOn past then some now else steppedIn past
  | _ :: past => steppedIn past

/-- **A loop that has the settings of a history.** -/
structure Configured (gains : Gains α) (past : List (Operation α)) (p : Pid α) : Prop where
  tuned : p.gains = gainsIn gains past
  target : p.target = targetIn past
  disabled : p.disabled = !isOn past
  outputLimits : p.outputLimits = limitsIn past
  integralLimits : p.integralLimits = limitsIn past

namespace Configured

variable {gains : Gains α} {past : List (Operation α)} {p : Pid α}

/-- A step writes no setting, whether it completes or not. -/
theorem step (h : Configured gains past p) (reading : α) (now : Nat) :
    Configured gains past (p.step reading now).1 := by
  unfold Pid.step
  split
  · exact { h with }
  · dsimp only
    split
    · exact { h with }
    · split <;> exact { h with }

/-- **A loop has the settings of one more operation**, whether it completes or not. -/
theorem after (h : Configured gains past p) (o : Operation α) :
    Configured gains (o :: past) (p.after o) := by
  cases o with
  | setTarget target => exact { h with target := rfl }
  | step reading now => exact { h.step reading now with }
  | check now =>
      rw [after_check]
      exact { h with }
  | reset => exact { h with }
  | setDisabled disabled => exact { h with disabled := (Bool.not_not disabled).symm }
  | setGains new => exact { h with tuned := rfl }
  | setLimits max min =>
      rw [Pid.after, setLimits_eq]
      split <;> exact { h with outputLimits := rfl, integralLimits := rfl }

end Configured

theorem configured_replay (gains : Gains α) (settle : SettleSettings α) (sampleTime : Nat)
    (past : List (Operation α)) :
    Configured gains past ((Pid.new gains settle sampleTime).replay past) := by
  induction past with
  | nil => exact ⟨rfl, rfl, rfl, rfl, rfl⟩
  | cons o past ih => exact ih.after o

/-- **An error of a step, and what is made of it**: the gain and the limits of its time, and the
seconds that it stands for. -/
structure Sample (α : Type) where
  ki : α
  limits : Range α
  error : α
  seconds : α

/-- The seconds that a step after a history stands for. -/
def secondsIn (sampleTime : Nat) (past : List (Operation α)) (now : Nat) : α :=
  match steppedIn past with
  | some before => Time.toSeconds (now - before)
  | none => Time.toSeconds sampleTime

/-- **The errors since the last reset**, the newest first; those of a loop that is switched off do
not count. -/
def samples (gains : Gains α) (sampleTime : Nat) : List (Operation α) → List (Sample α)
  | [] => []
  | .reset :: _ => []
  | .step reading now :: past =>
      if isOn past then
        ⟨(gainsIn gains past).ki, limitsIn past, targetIn past - reading,
          secondsIn sampleTime past now⟩ :: samples gains sampleTime past
      else samples gains sampleTime past
  | _ :: past => samples gains sampleTime past

/-! ### What is gathered -/

/-- The newest of several errors with those before it of the same sign; zero counts as positive. -/
def sinceCrossing : List (Sample α) → List (Sample α)
  | [] => []
  | newest :: earlier =>
      newest :: earlier.takeWhile fun s => decide (s.error < 0) == decide (newest.error < 0)

/-- What is added to what is gathered, held inside the limits. -/
def Sample.gather (s : Sample α) (x : α) : α := s.limits.clamp (x + s.ki * s.error * s.seconds)

/-- **What is gathered since the sign last changed**, of several errors, from zero. -/
def gathered (errors : List (Sample α)) : α := (sinceCrossing errors).foldr Sample.gather 0

/-- The newest of several errors. -/
def newestError (errors : List (Sample α)) : α := (errors.head?.map Sample.error).getD 0

/-- **One more error** is added to what is gathered, unless it is of another sign. -/
theorem gathered_cons (s : Sample α) (earlier : List (Sample α)) :
    gathered (s :: earlier) =
      s.gather (if decide (s.error < 0) == decide (newestError earlier < 0) then gathered earlier
        else 0) := by
  cases earlier with
  | nil => simp [gathered, sinceCrossing]
  | cons h t =>
      have newest : newestError (h :: t) = h.error := rfl
      rw [newest]
      cases same : decide (s.error < 0) == decide (h.error < 0) with
      | true =>
          have sign : decide (h.error < 0) = decide (s.error < 0) := (beq_iff_eq.1 same).symm
          simp only [gathered, sinceCrossing, List.takeWhile_cons, sign, beq_self_eq_true, if_true,
            List.foldr_cons]
      | false =>
          have sign : (decide (h.error < 0) == decide (s.error < 0)) = false := by
            rw [Bool.beq_comm]
            exact same
          simp only [gathered, sinceCrossing, List.takeWhile_cons, sign, Bool.false_eq_true, if_false,
            List.foldr_cons, List.foldr_nil]

/-! ### What a loop recalls -/

/-- **A loop that recalls its history.** -/
structure Recalls (gains : Gains α) (sampleTime : Nat) (past : List (Operation α)) (p : Pid α) :
    Prop extends Configured gains past p where
  lastError : p.lastError = newestError (samples gains sampleTime past)
  integral : p.integral = gathered (samples gains sampleTime past)
  steppedAt : p.steppedAt = steppedIn past
  sampled : p.sampleTime = sampleTime
  ordered : (limitsIn past).lo ≤ (limitsIn past).hi

namespace Recalls

variable {gains : Gains α} {sampleTime : Nat} {past : List (Operation α)} {p : Pid α}

theorem elapsed (h : Recalls gains sampleTime past p) (now : Nat) :
    p.elapsed now = secondsIn sampleTime past now := by
  cases stepped : steppedIn past with
  | none => simp only [Pid.elapsed, secondsIn, h.steppedAt, stepped, h.sampled]
  | some before => simp only [Pid.elapsed, secondsIn, h.steppedAt, stepped]

variable [Scalar.Ordered α]

/-- The sign of an error decides whether it is added to what was gathered. -/
theorem sameSign_lastError (h : Recalls gains sampleTime past p) (error : α) :
    Scalar.sameSign error p.lastError =
      (decide (error < 0) == decide (newestError (samples gains sampleTime past) < 0)) := by
  rw [Scalar.sameSign, Scalar.Ordered.isNaN_eq, Scalar.Ordered.isNaN_eq,
    Scalar.Ordered.isNegative_eq, Scalar.Ordered.isNegative_eq, h.lastError]
  rfl

/-- A step of a loop that is switched on: its error is one more sample. -/
theorem step_on (h : Recalls gains sampleTime past p) (on : isOn past = true) (reading : α)
    (now : Nat) :
    p.step reading now =
      let integral := gathered (samples gains sampleTime (.step reading now :: past))
      let error := targetIn past - reading
      let output := (limitsIn past).clamp
        (p.drive error integral (p.slope reading (secondsIn sampleTime past now)))
      ({ p with
          error := error
          lastError := error
          lastReading := some reading
          integral := integral
          output := output
          steppedAt := some now },
        some output) := by
  rw [step_of_ordered (by rw [h.disabled, on]; rfl) (by rw [h.integralLimits]; exact h.ordered)
    (by rw [h.outputLimits]; exact h.ordered)]
  have error : p.target - reading = targetIn past - reading := by rw [h.target]
  have more : p.integralLimits.clamp
      (p.gather (targetIn past - reading) (secondsIn sampleTime past now)) =
        gathered (samples gains sampleTime (.step reading now :: past)) := by
    rw [samples, if_pos on, gathered_cons, gather, h.sameSign_lastError, h.integral, h.tuned,
      h.integralLimits]
    rfl
  simp only [error, h.elapsed, more, h.outputLimits]

/-- **A loop recalls one more operation.** -/
theorem after (h : Recalls gains sampleTime past p) (o : Operation α) :
    Recalls gains sampleTime (o :: past) (p.after o) := by
  have configured := h.toConfigured.after o
  cases o with
  | setTarget _ | setDisabled _ | setGains _ => exact { configured, h with }
  | reset => exact { configured, h with lastError := rfl, integral := rfl, steppedAt := rfl }
  | check now =>
      rw [after_check] at configured ⊢
      exact { configured, h with }
  | setLimits max min =>
      have ordered := limitsOf_ordered max min
      have kept : p.after (.setLimits max min) =
          { p with
            outputLimits := limitsOf max min
            integralLimits := limitsOf max min
            output := (limitsOf max min).clamp p.output } := by
        rw [Pid.after, setLimits_eq, if_pos ordered]
      rw [kept] at configured ⊢
      exact { configured, h with ordered := ordered }
  | step reading now =>
      cases on : isOn past with
      | true =>
          rw [Pid.after, h.step_on on] at configured ⊢
          exact
            { configured, h with
              lastError := by rw [samples, if_pos on]; rfl
              integral := rfl
              steppedAt := by rw [steppedIn, if_pos on] }
      | false =>
          have off : ¬ isOn past = true := ne_true_of_eq_false on
          rw [after_step_of_disabled (by rw [h.disabled, on]; rfl)] at configured ⊢
          exact
            { configured, h with
              lastError := by rw [samples, if_neg off]; exact h.lastError
              integral := by rw [samples, if_neg off]; exact h.integral
              steppedAt := by rw [steppedIn, if_neg off]; exact h.steppedAt }

end Recalls

variable [Scalar.Ordered α] (gains : Gains α) (settle : SettleSettings α) (sampleTime : Nat)

/-- **A new loop recalls whatever is done to it.** -/
theorem recalls_replay (past : List (Operation α)) :
    Recalls gains sampleTime past ((Pid.new gains settle sampleTime).replay past) := by
  induction past with
  | nil =>
      exact
        { configured_replay gains settle sampleTime [] with
          lastError := rfl
          integral := rfl
          steppedAt := rfl
          sampled := rfl
          ordered := Scalar.Ordered.neg_one_le_one }
  | cons o past ih => exact ih.after o

/-- **Bounds and what is gathered**, of a new loop after any history.

Its limits are those that were set last, in whichever order they were given, and are in order, and
new ones can always be set.  A step of a loop that is switched off gives zero and changes nothing but
the output.  A step of one that is switched on gives an output, and output and integral are within
the limits; the integral is what was gathered, from zero, of the errors since the last reset, as far
back as their sign is that of this one. -/
theorem gathers_since_crossing (past : List (Operation α)) :
    let p := (Pid.new gains settle sampleTime).replay past
    ((p.outputLimits = limitsIn past ∧ p.integralLimits = limitsIn past) ∧
        p.outputLimits.lo ≤ p.outputLimits.hi ∧ ∀ max min, (p.setLimits max min).2 = true) ∧
      ∀ reading now,
        if p.disabled then p.step reading now = ({ p with output := 0 }, some 0)
        else
          ∃ p' output, p.step reading now = (p', some output) ∧ p'.output = output ∧
            p.outputLimits.Holds output ∧ p.integralLimits.Holds p'.integral ∧
              p'.integral = gathered (samples gains sampleTime (.step reading now :: past)) := by
  intro p
  have h : Recalls gains sampleTime past p := recalls_replay gains settle sampleTime past
  refine ⟨⟨⟨h.outputLimits, h.integralLimits⟩, by rw [h.outputLimits]; exact h.ordered, ?_⟩, ?_⟩
  · intro max min
    simp only [setLimits, Range.clamp?, limitsOf_ordered, if_true]
  intro reading now
  split
  · rename_i off
    exact step_of_disabled off reading now
  · rename_i switch
    have on : isOn past = true := by simpa [h.disabled] using switch
    refine ⟨_, _, h.step_on on reading now, rfl, ?_, ?_, rfl⟩
    · rw [h.outputLimits]
      exact Range.holds_clamp h.ordered _
    · rw [h.integralLimits, samples, if_pos on, gathered_cons]
      exact Range.holds_clamp h.ordered _

/-- A target that was overshot and then not reached, and wider limits at last. -/
noncomputable def overshot : List (Operation ℝ) :=
  [.setLimits (-5) 5, .step 0 Time.perSecond, .step 4 0, .setTarget 3]

theorem gathers_since_crossing_of_overshot :
    ∃ p' output,
      ((Pid.new ⟨0, 2, 0, 0⟩ .standard Time.perSecond).replay overshot).step 2 (2 * Time.perSecond) =
          (p', some output) ∧
        p'.integral = 3 := by
  obtain ⟨-, steps⟩ :=
    gathers_since_crossing ⟨0, 2, 0, 0⟩ .standard Time.perSecond overshot
  have on := (recalls_replay ⟨0, 2, 0, 0⟩ .standard Time.perSecond overshot).disabled
  have stepped := steps 2 (2 * Time.perSecond)
  rw [if_neg (ne_true_of_eq_false on)] at stepped
  obtain ⟨p', output, step, -, -, -, integral⟩ := stepped
  refine ⟨p', output, step, integral.trans ?_⟩
  norm_num [overshot, samples, isOn, gainsIn, limitsIn, targetIn, secondsIn, steppedIn, gathered,
    sinceCrossing, Sample.gather, Range.clamp, limitsOf, Range.unit, Time.toSeconds_real,
    Time.perSecond]

end Pid

end Drivetrain
