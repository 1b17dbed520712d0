/-
Refusals: which calls on a loop do not complete, and what they leave behind.

A loop clamps at every step that it works at and at every change of its limits, and clamping refuses
bounds that are out of order.  Limits are put in order before they are stored, so among numbers none
are refused, infinite ones included; but what is not a number has no order.  Nothing else that a loop
is told matters here: targets, readings and gains may be anything.

Limits that are refused are stored all the same, and nothing else is changed.  From then on every
step of the loop is refused, unless it is switched off, until other limits are set.

Main definitions:

* `Drivetrain.Pid.Completes` — whether an operation on a loop completes;
* `Drivetrain.Pid.Unrefused` — the histories every operation of which completed;
* `Drivetrain.Range.Comparable` — bounds that are numbers.

Main results:

* `Drivetrain.Pid.ordered_limitsOf_iff` — two limits are put in order exactly when both are numbers;
* `Drivetrain.Pid.isSome_step_iff`, `Drivetrain.Pid.completes_setLimits_iff` — when a step and a
  change of limits complete;
* `Drivetrain.Pid.refused_only_by_isNaN` — every call completes exactly when no limit that was given
  is not a number; what a refused one leaves;
* `Drivetrain.Pid.stores_what_it_refuses` — limits are refused, and stored.
-/

import Drivetrain.Proofs.Gathering
import Drivetrain.Proofs.Magnitude

set_option relaxedAutoImplicit false
set_option autoImplicit false

namespace Drivetrain

/-- Bounds that are numbers. -/
structure Range.Comparable (r : Range Float) : Prop where
  lo : r.lo.isNaN = false
  hi : r.hi.isNaN = false

namespace Pid

section

variable {α : Type} [Scalar α]

/-- **Whether an operation on a loop completes.**  Only a step and a change of limits clamp; nothing
in the other operations can be refused. -/
def Completes (p : Pid α) : Operation α → Prop
  | .step reading now => (p.step reading now).2.isSome = true
  | .setLimits max min => (p.setLimits max min).2 = true
  | _ => True

/-- **Every operation of a history completes** on the loop that it comes to. -/
def Unrefused (p : Pid α) : List (Operation α) → Prop
  | [] => True
  | o :: past => Completes (p.replay past) o ∧ Unrefused p past

/-- **A step completes** where both limits are in order; one that is switched off does not look at
them. -/
theorem isSome_step_iff (p : Pid α) (reading : α) (now : Nat) :
    (p.step reading now).2.isSome = true ↔
      p.disabled = true ∨ p.integralLimits.lo ≤ p.integralLimits.hi ∧
        p.outputLimits.lo ≤ p.outputLimits.hi := by
  cases off : p.disabled with
  | true => simp [step_of_disabled off]
  | false =>
      by_cases gathers : p.integralLimits.lo ≤ p.integralLimits.hi
      · by_cases drives : p.outputLimits.lo ≤ p.outputLimits.hi
        · simp [step_of_ordered off gathers drives, gathers, drives]
        · simp [step, off, Range.clamp?, gathers, drives]
      · simp [step, off, Range.clamp?, gathers]

end

/-! ### Limits that are numbers -/

/-- **Two limits are put in order exactly when both are numbers**, infinite ones included. -/
theorem ordered_limitsOf_iff (max min : Float) :
    (limitsOf max min).lo ≤ (limitsOf max min).hi ↔ max.isNaN = false ∧ min.isNaN = false := by
  rw [limitsOf]
  split
  · rename_i less
    have le := Machine.le_of_lt less
    exact iff_of_true le ⟨Machine.isNaN_of_le_left le, Machine.isNaN_of_le le⟩
  · rename_i least
    exact ⟨fun le => ⟨Machine.isNaN_of_le le, Machine.isNaN_of_le_left le⟩,
      fun numbers => (Machine.not_lt numbers.1 numbers.2).1 least⟩

theorem comparable_limitsOf_iff (max min : Float) :
    (limitsOf max min).Comparable ↔ max.isNaN = false ∧ min.isNaN = false := by
  rw [limitsOf]
  split
  · exact ⟨fun h => ⟨h.lo, h.hi⟩, fun h => ⟨h.1, h.2⟩⟩
  · exact ⟨fun h => ⟨h.hi, h.lo⟩, fun h => ⟨h.2, h.1⟩⟩

/-- **The limits of a history are in order exactly when they are numbers.** -/
theorem ordered_limitsIn_iff (past : List (Operation Float)) :
    (limitsIn past).lo ≤ (limitsIn past).hi ↔ (limitsIn past).Comparable := by
  induction past with
  | nil => exact iff_of_true Machine.balanced_unit.ordered ⟨rfl, rfl⟩
  | cons o past ih =>
      cases o with
      | setLimits max min =>
          exact (ordered_limitsOf_iff max min).trans (comparable_limitsOf_iff max min).symm
      | _ => exact ih

/-- **A change of limits completes exactly when both are numbers.** -/
theorem completes_setLimits_iff (p : Pid Float) (max min : Float) :
    (p.setLimits max min).2 = true ↔ max.isNaN = false ∧ min.isNaN = false := by
  rw [setLimits_eq, ← ordered_limitsOf_iff]
  split
  · rename_i ordered
    exact iff_of_true rfl ordered
  · rename_i refused
    exact iff_of_false Bool.false_ne_true refused

/-! ### Histories -/

variable (gains : Gains Float) (settle : SettleSettings Float) (sampleTime : ℕ)

theorem completes_step_iff (past : List (Operation Float)) (reading : Float) (now : ℕ) :
    (((Pid.new gains settle sampleTime).replay past).step reading now).2.isSome = true ↔
      isOn past = false ∨ (limitsIn past).Comparable := by
  have h := configured_replay gains settle sampleTime past
  rw [isSome_step_iff, h.disabled, h.integralLimits, h.outputLimits, and_self,
    ordered_limitsIn_iff, Bool.not_eq_true']

/-- Whether an operation gives limits that are numbers, if it gives any. -/
def Operation.NumberLimits : Operation Float → Prop
  | .setLimits max min => max.isNaN = false ∧ min.isNaN = false
  | _ => True

theorem comparable_limitsIn {past : List (Operation Float)} (numbers : ∀ o ∈ past, o.NumberLimits) :
    (limitsIn past).Comparable := by
  induction past with
  | nil => exact ⟨rfl, rfl⟩
  | cons o past ih =>
      obtain ⟨newest, earlier⟩ := List.forall_mem_cons.1 numbers
      cases o with
      | setLimits max min => exact (comparable_limitsOf_iff max min).2 newest
      | _ => exact ih earlier

/-- **Every call of a history completes exactly when no limit that it gives is not a number.** -/
theorem unrefused_iff (past : List (Operation Float)) :
    Unrefused (Pid.new gains settle sampleTime) past ↔ ∀ o ∈ past, o.NumberLimits := by
  induction past with
  | nil => simp [Unrefused]
  | cons o past ih =>
      rw [Unrefused, ih, List.forall_mem_cons]
      refine and_congr_left fun numbers => ?_
      cases o with
      | setLimits max min => exact completes_setLimits_iff _ max min
      | step reading now =>
          exact iff_of_true ((completes_step_iff gains settle sampleTime past reading now).2
            (.inr (comparable_limitsIn numbers))) trivial
      | _ => exact Iff.rfl

/-- **Only limits that are not numbers are refused.**  Every call of a history completes exactly when
it gives no such limits.  After any history new ones are taken if they are numbers; otherwise they
are refused, and stored, and all else is left as it was.  A step completes if the loop is switched
off or the limits that were set last are numbers, whatever else it was told. -/
theorem refused_only_by_isNaN (past : List (Operation Float)) :
    let p := (Pid.new gains settle sampleTime).replay past
    (Unrefused (Pid.new gains settle sampleTime) past ↔ ∀ o ∈ past, o.NumberLimits) ∧
      (∀ max min,
        if max.isNaN = false ∧ min.isNaN = false then (p.setLimits max min).2 = true
        else p.setLimits max min =
          ({ p with outputLimits := limitsOf max min, integralLimits := limitsOf max min },
            false)) ∧
      ∀ reading now, (p.step reading now).2.isSome = true ↔
        p.disabled = true ∨ (limitsIn past).Comparable := by
  intro p
  have configured := configured_replay gains settle sampleTime past
  refine ⟨unrefused_iff gains settle sampleTime past, fun max min => ?_, fun reading now => ?_⟩
  · rw [setLimits_eq]
    simp only [ordered_limitsOf_iff]
    split <;> rfl
  · rw [completes_step_iff, configured.disabled, Bool.not_eq_true']

/-- A loop that is told what is not a number in all places but its limits, which are infinite. -/
def astray : List (Operation Float) :=
  [.check 4, .step 1 3, .step (0 / 0) 2, .setTarget (0 / 0), .setGains ⟨1 / 0, 0 / 0, 0, 0 / 0⟩,
    .setLimits (-1 / 0) (1 / 0)]

theorem refused_only_by_isNaN_of_astray :
    let p : Pid Float := Pid.new ⟨1, 0, 0, 0⟩ .standard (Time.perSecond / 100)
    Unrefused p astray ∧ ((p.replay astray).step (1 / 0) 5).2.isSome = true := by
  obtain ⟨unrefused, -, steps⟩ :=
    refused_only_by_isNaN ⟨1, 0, 0, 0⟩ .standard (Time.perSecond / 100) astray
  refine ⟨unrefused.2 ?_, (steps _ _).2 (.inr ⟨by decide +kernel, by decide +kernel⟩)⟩
  simp only [astray, List.forall_mem_cons]
  exact ⟨trivial, trivial, trivial, trivial, trivial, ⟨by decide +kernel, by decide +kernel⟩, nofun⟩

/-- **Limits are refused, and stored**: the loop that would have given full output for its error gives
none. -/
theorem stores_what_it_refuses :
    let p : Pid Float := (Pid.new ⟨1, 0, 0, 0⟩ .standard (Time.perSecond / 100)).setTarget 1
    let refused := p.setLimits (0 / 0) 1
    refused.2 = false ∧ (p.outputLimits.hi == 1) = true ∧
      refused.1.outputLimits.hi.isNaN = true ∧ (refused.1.step 0 0).2.isNone = true ∧
      (p.step 0 0).2.any (· == 1) = true := by
  decide +kernel

end Pid

end Drivetrain
