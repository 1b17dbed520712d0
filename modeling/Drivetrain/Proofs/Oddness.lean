/-
Oddness: two loops on opposite sides.

Give one loop the targets and the readings of another with their signs changed.  Their errors are
opposite at every step, and so is all that they compute of them, but for one thing.  What a loop
gathered is dropped when its error changes its sign, and an error of zero has a sign of its own,
which is a plus on either side: reached from above it leaves the sign of the error, reached from
below it changes it.  On a step that comes to zero one loop may therefore keep what it gathered
while the other drops it, and from then on they part.

Main definitions:

* `Drivetrain.Pid.Operation.opposite`, `Drivetrain.Pid.Operation.Drives` — an operation on the
  other side, and the operations that drive a loop to targets;
* `Drivetrain.Pid.Mirrored`, `Drivetrain.Pid.Matched` — two loops on opposite sides, and two that
  gathered and gave the opposite too;
* `Drivetrain.Pid.Parts`, `Drivetrain.Pid.Together` — **a step on which two loops part**, and
  histories without one;
* `Drivetrain.Pid.Misses` — histories on which the target itself is never read.

Main results:

* `Drivetrain.Pid.Mirrored.after`, `Drivetrain.Pid.Matched.after` — what an operation keeps of two
  loops on opposite sides;
* `Drivetrain.Pid.Mirrored.parts_at_zero` — loops part **only at an error of zero**;
* `Drivetrain.Pid.Unparted.parts_apart` — loops that part have no longer gathered the opposite;
* `Drivetrain.Pid.odd_iff_together` — errors are always opposite, and what is gathered and given is
  **as long as no step parts the loops**, and no longer.
-/

import Drivetrain.Proofs.Gathering

set_option relaxedAutoImplicit false
set_option autoImplicit false

namespace Drivetrain

open Machine (Image Opposite Balanced Within value?)

namespace Pid

/-! ### The other side -/

/-- An operation on the other side: target and reading change their signs. -/
def Operation.opposite : Operation Float → Operation Float
  | .setTarget target => .setTarget (-target)
  | .step reading now => .step (-reading) now
  | o => o

/-- **The operations that drive a loop** to finite targets by finite readings; gains and limits
stay. -/
def Operation.Drives : Operation Float → Prop
  | .setTarget target => target.isFinite = true
  | .step reading _ => reading.isFinite = true
  | .setGains _ => False
  | .setLimits _ _ => False
  | _ => True

/-- An operation at an instant with no more than sixty-four bits of seconds. -/
def Operation.Brief : Operation Float → Prop
  | .step _ now => now < 2 ^ 64 * Time.perSecond
  | _ => True

/-- **Two loops on opposite sides**: all that no step can part is the same, or the opposite. -/
structure Mirrored (p p' : Pid Float) : Prop where
  gains : p'.gains = p.gains
  unbiased : (p.gains.kbias == 0) = true
  sampleTime : p'.sampleTime = p.sampleTime
  disabled : p'.disabled = p.disabled
  steppedAt : p'.steppedAt = p.steppedAt
  outputLimits : p'.outputLimits = p.outputLimits
  integralLimits : p'.integralLimits = p.integralLimits
  outputs : Balanced p.outputLimits
  integrals : Balanced p.integralLimits
  target : Image .negative p.target p'.target
  finite : p.target.isFinite = true
  error : Image .negative p.error p'.error
  lastError : Image .negative p.lastError p'.lastError
  number : p.lastError.isNaN = false
  lastReading : Option.Rel (Image .negative) p.lastReading p'.lastReading

/-- **Two loops that gathered and gave the opposite.** -/
structure Matched (p p' : Pid Float) : Prop where
  integral : Image .negative p.integral p'.integral
  output : Image .negative p.output p'.output

/-- Whether a loop keeps on a reading what it gathered, as the sign of its error stays. -/
def keeps (p : Pid Float) (reading : Float) : Bool :=
  Scalar.sameSign (p.target - reading) p.lastError

/-- **A step on which two loops part**: one keeps what it gathered, and the other drops it. -/
def Parts (p p' : Pid Float) : Operation Float → Prop
  | .step reading _ =>
      p.disabled = false ∧ p.keeps reading ≠ p'.keeps (-reading) ∧ (p.integral == 0) = false
  | _ => False

theorem Parts.exists_step {p p' : Pid Float} {o : Operation Float} (h : Parts p p' o) :
    ∃ x now, o = .step x now := by
  cases o with
  | step x now => exact ⟨x, now, rfl⟩
  | _ => exact h.elim

/-- **Histories on which a loop and that on the other side never part.** -/
def Together (p : Pid Float) : List (Operation Float) → Prop
  | [] => True
  | o :: past => Together p past ∧ ¬ Parts (p.replay past) (p.replay (past.map .opposite)) o

/-- **Histories on which a loop that is switched on never reads its target itself.** -/
def Misses (p : Pid Float) : List (Operation Float) → Prop
  | [] => True
  | o :: past =>
      Misses p past ∧ ∀ reading now, o = .step reading now → (p.replay past).disabled = false →
        ((p.replay past).target - reading == 0) = false

/-! ### A step -/

/-- What a loop keeps on a reading of what it gathered. -/
def kept (p : Pid Float) (reading : Float) : Float := if p.keeps reading then p.integral else 0

/-- What a loop has gathered after a step. -/
def nextIntegral (p : Pid Float) (reading : Float) (now : Nat) : Float :=
  p.integralLimits.clamp
    (p.kept reading + p.gains.ki * (p.target - reading) * p.elapsed now)

/-- What a loop gives at a step. -/
def nextOutput (p : Pid Float) (reading : Float) (now : Nat) : Float :=
  p.outputLimits.clamp (p.drive (p.target - reading) (p.nextIntegral reading now)
    (p.slope reading (p.elapsed now)))

theorem isFinite_zero : (0.0 : Float).isFinite = true := by decide +kernel

theorem isNaN_zero : (0.0 : Float).isNaN = false := (Machine.holds_of_value? value?_zero).isNaN

theorem value?_kept_of_zero {p : Pid Float} (zero : value? p.integral = some 0) (reading : Float) :
    value? (p.kept reading) = some 0 := by
  rw [kept]
  split
  · exact zero
  · exact value?_zero

namespace Mirrored

variable {p p' : Pid Float}

theorem symm (h : p.Mirrored p') : p'.Mirrored p where
  gains := h.gains.symm
  unbiased := by rw [h.gains]; exact h.unbiased
  sampleTime := h.sampleTime.symm
  disabled := h.disabled.symm
  steppedAt := h.steppedAt.symm
  outputLimits := h.outputLimits.symm
  integralLimits := h.integralLimits.symm
  outputs := by rw [h.outputLimits]; exact h.outputs
  integrals := by rw [h.integralLimits]; exact h.integrals
  target := h.target.symm
  finite := h.target.isFinite_eq.trans h.finite
  error := h.error.symm
  lastError := h.lastError.symm
  number := h.lastError.isNaN_eq.trans h.number
  lastReading := by
    have last := h.lastReading
    generalize p.lastReading = r at last
    generalize p'.lastReading = r' at last
    cases last with
    | none => exact .none
    | some hr => exact .some hr.symm

theorem elapsed_eq (h : p.Mirrored p') (now : Nat) : (p'.elapsed now : Float) = p.elapsed now := by
  rw [elapsed, elapsed, h.steppedAt, h.sampleTime]

theorem isNaN_error (h : p.Mirrored p') {x : Float} (finite : x.isFinite = true) :
    (p.target - x).isNaN = false := by
  obtain ⟨a, ha⟩ := Machine.exists_value? finite
  obtain ⟨t, ht⟩ := Machine.exists_value? h.finite
  rw [Machine.isNaN_sub ha]
  exact (Machine.holds_of_value? ht).isNaN

/-- What was gathered is kept if the error carries the sign of the last one. -/
theorem keeps_eq (h : p.Mirrored p') {x : Float} (finite : x.isFinite = true) :
    p.keeps x = (Scalar.isNegative (p.target - x) == Scalar.isNegative p.lastError) := by
  have error : Scalar.isNaN (p.target - x) = false := h.isNaN_error finite
  have last : Scalar.isNaN p.lastError = false := h.number
  rw [keeps, Scalar.sameSign, error, last]
  rfl

/-- Two loops keep alike what they gathered if their errors carry one sign exactly where their last
errors do. -/
theorem keeps_eq_iff (h : p.Mirrored p') {x : Float} (finite : x.isFinite = true) :
    p.keeps x = p'.keeps (-x) ↔
      (Scalar.isNegative (p'.target - -x) = Scalar.isNegative (p.target - x) ↔
        Scalar.isNegative p'.lastError = Scalar.isNegative p.lastError) := by
  rw [h.keeps_eq finite, h.symm.keeps_eq ((Image.neg_self x).isFinite_eq.trans finite)]
  cases Scalar.isNegative (p.target - x) <;> cases Scalar.isNegative p.lastError <;>
    cases Scalar.isNegative (p'.target - -x) <;> cases Scalar.isNegative p'.lastError <;> decide

theorem after_step_of_on (h : p.Mirrored p') (on : p.disabled = false) (x : Float) (now : Nat) :
    p.after (.step x now) =
      { p with
        error := p.target - x
        lastError := p.target - x
        lastReading := some x
        integral := p.nextIntegral x now
        output := p.nextOutput x now
        steppedAt := some now } := by
  rw [Pid.after, step_of_ordered on h.integrals.ordered h.outputs.ordered]
  rfl

/-- **Loops on opposite sides stay there.** -/
theorem after (h : p.Mirrored p') {o : Operation Float} (drives : o.Drives) :
    (p.after o).Mirrored (p'.after o.opposite) := by
  cases o with
  | setTarget t => exact { h with target := .neg_self t, finite := drives }
  | check now =>
      show (p.after (.check now)).Mirrored (p'.after (.check now))
      rw [after_check, after_check]
      exact { h with }
  | reset =>
      exact
        { h with
          error := image_zero
          lastError := image_zero
          number := isNaN_zero
          lastReading := .none
          steppedAt := rfl }
  | setDisabled b => exact { h with disabled := rfl }
  | setGains g => exact drives.elim
  | setLimits max min => exact drives.elim
  | step x now =>
      show (p.after (.step x now)).Mirrored (p'.after (.step (-x) now))
      cases on : p.disabled with
      | true =>
          rw [after_step_of_disabled on, after_step_of_disabled (h.disabled.trans on)]
          exact { h with }
      | false =>
          rw [h.after_step_of_on on, h.symm.after_step_of_on (h.disabled.trans on)]
          have error := h.target.sub (.neg_self x)
          exact
            { h with
              error := error
              lastError := error
              number := h.isNaN_error drives
              lastReading := .some (.neg_self x)
              steppedAt := rfl }

/-- **Loops part only at an error of zero**, the last one or that of the step. -/
theorem parts_at_zero (h : p.Mirrored p') {x : Float} (finite : x.isFinite = true) {now : Nat}
    (parts : Parts p p' (.step x now)) :
    value? (p.target - x) = some 0 ∨ value? p.lastError = some 0 := by
  by_contra nonzero
  rw [not_or] at nonzero
  refine parts.2.1 ((h.keeps_eq_iff finite).2 (iff_of_false ?_ ?_))
  · exact mt ((h.target.sub (.neg_self x)).value?_of_isNegative_eq (h.isNaN_error finite)) nonzero.1
  · exact mt (h.lastError.value?_of_isNegative_eq h.number) nonzero.2

/-- A last error of zero is that of a loop that gathered nothing, unless a step reads the target. -/
theorem zero_after (h : p.Mirrored p') {o : Operation Float} (drives : o.Drives)
    (nothing : value? p.lastError = some 0 → value? p.integral = some 0)
    (misses : ∀ x now, o = .step x now → p.disabled = false → (p.target - x == 0) = false)
    (zero : value? (p.after o).lastError = some 0) : value? (p.after o).integral = some 0 := by
  cases o with
  | setTarget t => exact nothing zero
  | check now =>
      rw [after_check] at zero ⊢
      exact nothing zero
  | reset => exact value?_zero
  | setDisabled b => exact nothing zero
  | setGains g => exact drives.elim
  | setLimits max min => exact drives.elim
  | step x now =>
      cases on : p.disabled with
      | true =>
          rw [after_step_of_disabled on] at zero ⊢
          exact nothing zero
      | false =>
          rw [h.after_step_of_on on] at zero
          exact absurd zero (Machine.value?_ne_zero_of_beq (misses x now rfl on))

end Mirrored

/-! ### Loops that do not part -/

namespace Matched

variable {p p' : Pid Float}

/-- Loops that a step does not part keep the opposite of what they gathered. -/
theorem kept (h : p.Matched p') {x : Float} {now : Nat} (on : p.disabled = false)
    (joined : ¬ Parts p p' (.step x now)) : Image .negative (p.kept x) (p'.kept (-x)) := by
  by_cases zero : value? p.integral = some 0
  · have zero' := h.integral.value?_eq zero
    rw [neg_zero] at zero'
    exact .of_zero (value?_kept_of_zero zero x) (value?_kept_of_zero zero' (-x))
  · have same : p.keeps x = p'.keeps (-x) := by
      by_contra differ
      exact joined ⟨on, differ, eq_false_of_ne_true (mt Machine.beq_zero_iff.1 zero)⟩
    rw [Pid.kept, Pid.kept, ← same]
    split
    · exact h.integral
    · exact image_zero

/-- **Loops that an operation does not part stay matched.** -/
theorem after (h : p.Matched p') (mirrored : p.Mirrored p') {o : Operation Float}
    (drives : o.Drives) (joined : ¬ Parts p p' o) : (p.after o).Matched (p'.after o.opposite) := by
  cases o with
  | setTarget t => exact { h with }
  | check now =>
      show (p.after (.check now)).Matched (p'.after (.check now))
      rw [after_check, after_check]
      exact { h with }
  | reset => exact ⟨image_zero, image_zero⟩
  | setDisabled b => exact { h with }
  | setGains g => exact drives.elim
  | setLimits max min => exact drives.elim
  | step x now =>
      show (p.after (.step x now)).Matched (p'.after (.step (-x) now))
      cases on : p.disabled with
      | true =>
          rw [after_step_of_disabled on, after_step_of_disabled (mirrored.disabled.trans on)]
          exact { h with output := image_zero }
      | false =>
          rw [mirrored.after_step_of_on on,
            mirrored.symm.after_step_of_on (mirrored.disabled.trans on)]
          have error := mirrored.target.sub (.neg_self x)
          have gained : Image .negative (p.gains.ki * (p.target - x))
              (p.gains.ki * (p'.target - -x)) := (Image.refl _).mul error
          have integral : Image .negative (p.nextIntegral x now) (p'.nextIntegral (-x) now) := by
            rw [nextIntegral, nextIntegral, mirrored.integralLimits, mirrored.gains,
              mirrored.elapsed_eq]
            exact mirrored.integrals.clamp ((h.kept on joined).add (gained.mul (.refl _)))
          have output : Image .negative (p.nextOutput x now) (p'.nextOutput (-x) now) := by
            rw [nextOutput, nextOutput, mirrored.outputLimits, mirrored.elapsed_eq]
            exact mirrored.outputs.clamp (drive_of_opposite mirrored.gains mirrored.unbiased error
              integral (slope_of_opposite mirrored.lastReading (.neg_self x) _))
          exact ⟨integral, output⟩

end Matched

/-! ### Loops that part -/

/-- **Two loops that did not part so far**: an error that was zero on both sides found nothing
gathered, and what was gathered lies within the limits. -/
structure Unparted (p p' : Pid Float) : Prop where
  zero : Scalar.isNegative p'.lastError = Scalar.isNegative p.lastError →
    value? p.integral = some 0
  within : Within p.integralLimits p.integral
  within' : Within p'.integralLimits p'.integral
  ki : p.gains.ki.isFinite = true
  /-- As every duration, it has no more than sixty-four bits of seconds. -/
  sampled : p.sampleTime < 2 ^ 64 * Time.perSecond

/-- What an error of zero makes of what is kept: nothing, or the same within the limits. -/
theorem nextIntegral_of_zero {p : Pid Float} (balanced : Balanced p.integralLimits)
    (within : Within p.integralLimits p.integral) (ki : p.gains.ki.isFinite = true)
    (sampled : p.sampleTime < 2 ^ 64 * Time.perSecond) {x : Float} {now : Nat}
    (brief : now < 2 ^ 64 * Time.perSecond) (zero : value? (p.target - x) = some 0) :
    Image .positive (p.kept x) (p.nextIntegral x now) := by
  obtain ⟨k, hk⟩ := Machine.exists_value? ki
  obtain ⟨d, hd⟩ := exists_value?_elapsed sampled brief
  have gained := Machine.value?_zero_mul (Machine.value?_mul_zero hk zero) hd
  have same := Machine.image_add_zero (p.kept x) gained
  have kept : Within p.integralLimits (p.kept x) := by
    rw [kept]
    split
    · exact within
    · exact balanced.within_zero
  rw [nextIntegral, (kept.image same).clamp_eq]
  exact same

namespace Unparted

variable {p p' : Pid Float}

/-- Of two loops that part, the errors of the step carry one sign, and so are zero. -/
theorem zero_of_parts (u : p.Unparted p') (h : p.Mirrored p') {x : Float}
    (finite : x.isFinite = true) {now : Nat} (parts : Parts p p' (.step x now)) :
    value? (p.target - x) = some 0 := by
  obtain ⟨-, differ, gathered⟩ := parts
  have last := mt u.zero (Machine.value?_ne_zero_of_beq gathered)
  have same : Scalar.isNegative (p'.target - -x) = Scalar.isNegative (p.target - x) := by
    by_contra away
    exact differ ((h.keeps_eq_iff finite).2 (iff_of_false away last))
  exact (h.target.sub (.neg_self x)).value?_of_isNegative_eq (h.isNaN_error finite) same

/-- **Loops that part have no longer gathered the opposite.** -/
theorem parts_apart (u : p.Unparted p') (h : p.Mirrored p') (m : p.Matched p') {x : Float}
    (finite : x.isFinite = true) {now : Nat} (brief : now < 2 ^ 64 * Time.perSecond)
    (parts : Parts p p' (.step x now)) :
    ¬ Image .negative (p.after (.step x now)).integral (p'.after (.step (-x) now)).integral := by
  have zero := u.zero_of_parts h finite parts
  obtain ⟨on, differ, gathered⟩ := parts
  rw [h.after_step_of_on on, h.symm.after_step_of_on (h.disabled.trans on)]
  have next := nextIntegral_of_zero h.integrals u.within u.ki u.sampled brief zero
  have zero' := (h.target.sub (.neg_self x)).value?_eq zero
  rw [neg_zero] at zero'
  have next' : Image .positive (p'.kept (-x)) (p'.nextIntegral (-x) now) :=
    nextIntegral_of_zero h.symm.integrals u.within' (by rw [h.gains]; exact u.ki)
      (by rw [h.sampleTime]; exact u.sampled) brief zero'
  intro opposite
  -- what is kept on the one side would be the opposite of what is kept on the other
  have kept : Image .negative (p.kept x) (p'.kept (-x)) := (next.trans opposite).trans next'.symm
  have nonzero := Machine.value?_ne_zero_of_beq gathered
  rw [Pid.kept, Pid.kept] at kept
  cases keep : p.keeps x with
  | true =>
      have drop : p'.keeps (-x) = false := by simpa [keep] using differ.symm
      rw [if_pos keep, if_neg (ne_true_of_eq_false drop)] at kept
      exact nonzero (by simpa using kept.symm.value?_eq value?_zero)
  | false =>
      have keep' : p'.keeps (-x) = true := by simpa [keep] using differ.symm
      rw [if_neg (ne_true_of_eq_false keep), if_pos keep'] at kept
      have zero := kept.value?_eq value?_zero
      exact nonzero (by simpa using m.integral.symm.value?_eq zero)

/-- **Loops that an operation does not part are unparted still.** -/
theorem after (u : p.Unparted p') (h : p.Mirrored p') {o : Operation Float}
    (drives : o.Drives) (brief : o.Brief) (joined : ¬ Parts p p' o) :
    (p.after o).Unparted (p'.after o.opposite) := by
  cases o with
  | setTarget t => exact { u with }
  | check now =>
      show (p.after (.check now)).Unparted (p'.after (.check now))
      rw [after_check, after_check]
      exact { u with }
  | reset =>
      exact
        { u with
          zero := fun _ => value?_zero
          within := h.integrals.within_zero
          within' := h.symm.integrals.within_zero }
  | setDisabled b => exact { u with }
  | setGains g => exact drives.elim
  | setLimits max min => exact drives.elim
  | step x now =>
      show (p.after (.step x now)).Unparted (p'.after (.step (-x) now))
      cases on : p.disabled with
      | true =>
          rw [after_step_of_disabled on, after_step_of_disabled (h.disabled.trans on)]
          exact { u with }
      | false =>
          rw [h.after_step_of_on on, h.symm.after_step_of_on (h.disabled.trans on)]
          refine
            { u with
              zero := fun same => ?_
              within := h.integrals.within_clamp _
              within' := h.symm.integrals.within_clamp _ }
          have error := (h.target.sub (.neg_self x)).value?_of_isNegative_eq
            (h.isNaN_error drives) same
          have kept : value? (p.kept x) = some 0 := by
            by_cases zero : value? p.integral = some 0
            · exact value?_kept_of_zero zero x
            · refine absurd ⟨on, ?_, eq_false_of_ne_true (mt Machine.beq_zero_iff.1 zero)⟩ joined
              exact fun alike => mt u.zero zero (((h.keeps_eq_iff drives).1 alike).1 same)
          have next := nextIntegral_of_zero h.integrals u.within u.ki u.sampled brief error
          have opposite : Image .negative (p.kept x) (p.kept x) := .of_zero kept kept
          simpa using (opposite.trans next).value?_eq kept

end Unparted

/-! ### Histories -/

section Histories

variable {p : Pid Float} {past : List (Operation Float)}

/-- Histories on which loops never part have none on which they do. -/
theorem together_of_suffix (h : Together p past) {earlier : List (Operation Float)}
    (before : earlier <:+ past) : Together p earlier := by
  induction past with
  | nil => rw [List.suffix_nil.1 before]; exact h
  | cons o past ih =>
      rcases List.suffix_cons_iff.1 before with rfl | before
      · exact h
      · exact ih h.1 before

variable (same : p.Mirrored p)

include same

theorem mirrored_replay (drives : ∀ o ∈ past, o.Drives) :
    (p.replay past).Mirrored (p.replay (past.map .opposite)) := by
  induction past with
  | nil => exact same
  | cons o past ih =>
      rw [List.forall_mem_cons] at drives
      exact (ih drives.2).after drives.1

theorem matched_replay (start : p.Matched p) (drives : ∀ o ∈ past, o.Drives)
    (together : Together p past) :
    (p.replay past).Matched (p.replay (past.map .opposite)) := by
  induction past with
  | nil => exact start
  | cons o past ih =>
      rw [List.forall_mem_cons] at drives
      exact (ih drives.2 together.1).after (mirrored_replay same drives.2) drives.1 together.2

/-- **Loops that never read their target itself never part.** -/
theorem together_of_misses (nothing : value? p.lastError = some 0 → value? p.integral = some 0)
    (drives : ∀ o ∈ past, o.Drives) (misses : Misses p past) :
    Together p past ∧ (value? (p.replay past).lastError = some 0 →
      value? (p.replay past).integral = some 0) := by
  induction past with
  | nil => exact ⟨trivial, nothing⟩
  | cons o past ih =>
      rw [List.forall_mem_cons] at drives
      obtain ⟨together, nothing⟩ := ih drives.2 misses.1
      have mirrored := mirrored_replay same drives.2
      refine ⟨⟨together, ?_⟩, mirrored.zero_after drives.1 nothing misses.2⟩
      intro parts
      obtain ⟨x, now, rfl⟩ := parts.exists_step
      rcases mirrored.parts_at_zero drives.1 parts with error | last
      · exact Machine.value?_ne_zero_of_beq (misses.2 x now rfl parts.1) error
      · exact Machine.value?_ne_zero_of_beq parts.2.2 (nothing last)

/-- **Loops that gather the opposite all along never part.** -/
theorem together_of_integral (start : p.Matched p) (fresh : p.Unparted p)
    (drives : ∀ o ∈ past, o.Drives) (brief : ∀ o ∈ past, o.Brief)
    (opposite : ∀ earlier, earlier <:+ past → Opposite (p.replay earlier).integral
      (p.replay (earlier.map .opposite)).integral) :
    Together p past ∧ (p.replay past).Unparted (p.replay (past.map .opposite)) := by
  induction past with
  | nil => exact ⟨trivial, fresh⟩
  | cons o past ih =>
      rw [List.forall_mem_cons] at drives brief
      obtain ⟨together, unparted⟩ := ih drives.2 brief.2 fun earlier before =>
        opposite earlier (before.trans (List.suffix_cons o past))
      have mirrored := mirrored_replay same drives.2
      have matched := matched_replay same start drives.2 together
      have joined : ¬ Parts (p.replay past) (p.replay (past.map .opposite)) o := by
        intro parts
        obtain ⟨x, now, rfl⟩ := parts.exists_step
        have still := opposite (.step x now :: past) List.suffix_rfl
        exact unparted.parts_apart mirrored matched drives.1 brief.1 parts
          (Machine.image_negative_iff.2 still)
      exact ⟨⟨together, joined⟩, unparted.after mirrored drives.1 brief.1 joined⟩

end Histories

/-- A loop with limits that go as far to one side as to the other, before its first step. -/
def poised (gains : Gains Float) (settle : SettleSettings Float) (sampleTime : Nat)
    (max min : Float) : Pid Float :=
  ((Pid.new gains settle sampleTime).setLimits max min).1

section Start

variable {gains : Gains Float} {settle : SettleSettings Float} {sampleTime : Nat} {max min : Float}

/-- Limits of one magnitude make a range that goes as far to one side as to the other. -/
theorem balanced_limitsOf (symmetric : (min == -max) = true) : Balanced (limitsOf max min) := by
  have opposite : Image .negative max min := Machine.image_negative_iff.2 (.inr symmetric)
  have number : min.isNaN = false := Machine.isNaN_of_beq symmetric
  have number' : max.isNaN = false := opposite.isNaN_eq.symm.trans number
  rw [limitsOf]
  split
  · rename_i less
    exact ⟨symmetric, Machine.le_of_lt less⟩
  · rename_i least
    refine ⟨?_, (Machine.not_lt number' number).1 least⟩
    exact (Machine.image_negative_iff.1 opposite.symm).resolve_left
      fun none => ne_true_of_eq_false number none.1

theorem poised_eq (symmetric : (min == -max) = true) :
    poised gains settle sampleTime max min =
      { Pid.new gains settle sampleTime with
        outputLimits := limitsOf max min
        integralLimits := limitsOf max min
        output := (limitsOf max min).clamp 0 } := by
  simp only [poised, setLimits, Range.clamp?, (balanced_limitsOf symmetric).ordered, if_true]
  rfl

/-- A loop before its first step is on the other side of itself. -/
theorem mirrored_poised (unbiased : (gains.kbias == 0) = true)
    (symmetric : (min == -max) = true) :
    (poised gains settle sampleTime max min).Mirrored (poised gains settle sampleTime max min) := by
  have balanced := balanced_limitsOf symmetric
  rw [poised_eq symmetric]
  exact
    { gains := rfl
      unbiased := unbiased
      sampleTime := rfl
      disabled := rfl
      steppedAt := rfl
      outputLimits := rfl
      integralLimits := rfl
      outputs := balanced
      integrals := balanced
      target := image_zero
      finite := isFinite_zero
      error := image_zero
      lastError := image_zero
      number := isNaN_zero
      lastReading := .none }

theorem matched_poised (symmetric : (min == -max) = true) :
    (poised gains settle sampleTime max min).Matched (poised gains settle sampleTime max min) := by
  have zero := (balanced_limitsOf symmetric).value?_clamp value?_zero
  rw [poised_eq symmetric]
  exact ⟨image_zero, .of_zero zero zero⟩

theorem nothing_poised (symmetric : (min == -max) = true) :
    value? (poised gains settle sampleTime max min).lastError = some 0 →
      value? (poised gains settle sampleTime max min).integral = some 0 := by
  rw [poised_eq symmetric]
  exact fun _ => value?_zero

theorem unparted_poised (symmetric : (min == -max) = true) (ki : gains.ki.isFinite = true)
    (sampled : sampleTime < 2 ^ 64 * Time.perSecond) :
    (poised gains settle sampleTime max min).Unparted (poised gains settle sampleTime max min) := by
  have within := (balanced_limitsOf symmetric).within_zero
  rw [poised_eq symmetric]
  exact
    { zero := fun _ => value?_zero
      within := within
      within' := within
      ki := ki
      sampled := sampled }

/-- **When a loop is odd.**  Take a loop without an output that is always added, with limits that
go as far to one side as to the other, and drive it and another of its kind by any history on
opposite sides.

Their errors are opposite.  What they gathered and what they give is opposite too if no step parted
them, as none does that comes neither from nor to an error of zero; so if they never read the target
itself, it is.  And if a step does part them, they have not gathered the opposite all along, unless
the gain on what is gathered is not finite. -/
theorem odd_iff_together (settle : SettleSettings Float) (unbiased : (gains.kbias == 0) = true)
    (symmetric : (min == -max) = true) {past : List (Operation Float)}
    (drives : ∀ o ∈ past, o.Drives) :
    let start := poised gains settle sampleTime max min
    let p := start.replay past
    let p' := start.replay (past.map .opposite)
    Opposite p.error p'.error ∧
      (Together start past → Opposite p.integral p'.integral ∧ Opposite p.output p'.output) ∧
        ((∀ x now, x.isFinite = true → Parts p p' (.step x now) →
            (p.target - x == 0) = true ∨ (p.lastError == 0) = true) ∧
          (Misses start past → Together start past)) ∧
          (gains.ki.isFinite = true → sampleTime < 2 ^ 64 * Time.perSecond →
            (∀ o ∈ past, o.Brief) →
              (Together start past ↔ ∀ earlier, earlier <:+ past →
                Opposite (start.replay earlier).integral
                  (start.replay (earlier.map .opposite)).integral)) := by
  intro start p p'
  have same : start.Mirrored start := mirrored_poised unbiased symmetric
  have matched : start.Matched start := matched_poised symmetric
  have mirrored : p.Mirrored p' := mirrored_replay same drives
  refine ⟨Machine.image_negative_iff.1 mirrored.error, ?_, ⟨?_, ?_⟩, ?_⟩
  · intro together
    have h : p.Matched p' := matched_replay same matched drives together
    exact ⟨Machine.image_negative_iff.1 h.integral, Machine.image_negative_iff.1 h.output⟩
  · intro x now finite parts
    rw [Machine.beq_zero_iff, Machine.beq_zero_iff]
    exact mirrored.parts_at_zero finite parts
  · exact fun misses => (together_of_misses same (nothing_poised symmetric) drives misses).1
  · intro ki sampled brief
    constructor
    · intro together earlier before
      have h := matched_replay same matched (fun o mem => drives o (before.subset mem))
        (together_of_suffix together before)
      exact Machine.image_negative_iff.1 h.integral
    · intro opposite
      exact (together_of_integral same matched (unparted_poised symmetric ki sampled) drives brief
        opposite).1

end Start

/-- A target that is overshot. -/
def overshooting : List (Operation Float) :=
  [.step 3 (Time.ofMilliseconds 20), .step 0 (Time.ofMilliseconds 10), .setTarget 1]

/-- A target that is reached, and exactly. -/
def landing : List (Operation Float) :=
  [.step 1 (Time.ofMilliseconds 20), .step 0 (Time.ofMilliseconds 10), .setTarget 1]

theorem drives_overshooting : ∀ o ∈ overshooting, o.Drives := by
  simp only [overshooting, List.forall_mem_cons, Operation.Drives]
  exact ⟨by decide +kernel, by decide +kernel, by decide +kernel, List.forall_mem_nil _⟩

theorem drives_landing : ∀ o ∈ landing, o.Drives := by
  simp only [landing, List.forall_mem_cons, Operation.Drives]
  exact ⟨by decide +kernel, by decide +kernel, by decide +kernel, List.forall_mem_nil _⟩

/-- A loop with a gain on what is gathered, and limits of one. -/
def gatherer : Pid Float := poised ⟨0, 1, 0, 0⟩ .standard (Time.ofMilliseconds 10) 1 (-1)

theorem odd_iff_together_of_overshooting :
    Together gatherer overshooting ∧
      Opposite (gatherer.replay overshooting).output
        (gatherer.replay (overshooting.map .opposite)).output := by
  have together : Together gatherer overshooting :=
    ⟨⟨⟨trivial, fun parts => parts⟩, fun parts => absurd parts.2.2 (by decide +kernel)⟩,
      fun parts => parts.2.1 (by decide +kernel)⟩
  exact ⟨together, ((odd_iff_together .standard (by decide +kernel) (by decide +kernel)
    drives_overshooting).2.1 together).2⟩

/-- **A loop that lands on its target is not odd**: it keeps what it gathered, and on the other side
it drops it. -/
theorem not_odd_of_landing :
    (∀ o ∈ landing, o.Drives) ∧
      Opposite (gatherer.replay landing).error (gatherer.replay (landing.map .opposite)).error ∧
        ¬ Opposite (gatherer.replay landing).output
          (gatherer.replay (landing.map .opposite)).output := by
  refine ⟨drives_landing, ?_, ?_⟩
  · exact .inr (by decide +kernel)
  · rintro (⟨none, -⟩ | same)
    · exact absurd none (by decide +kernel)
    · exact absurd same (by decide +kernel)

end Pid

end Drivetrain
