/-
Reflection: a controller in a mirror.

Take two controllers of the same make, and let the second read on the left what the first reads on
the right.  A turn that the first makes one way the second makes the other, a straight move they
make alike, and every order to a wheel of the first is the order to the wheel on the other side of
the second.

Nothing in a loop may tell one side from the other for that: no gain on what is gathered, since
what is gathered is dropped when the error changes its sign and zero has a sign of its own, no
output that is always added, and limits that go as far to one side as to the other.  Everything
else is a matter of arithmetic that treats both signs alike.

Main definitions:

* `Drivetrain.Wheel.mirror` — the wheel on the other side;
* `Drivetrain.Loop.Make.Evenhanded` — a make of loops that favors no side;
* `Drivetrain.Pid.Reflected`, `Drivetrain.Loop.Reflected`, `Drivetrain.Controller.Reflected` — two
  loops, or two controllers, that do the same to opposite sides.

Main results:

* `Drivetrain.Maneuver.order?_vector_of_opposite`, `Drivetrain.Maneuver.order?_rotate_of_opposite` —
  the opposite yaw, or speed, gives the orders of the other side;
* `Drivetrain.Pid.Reflected.step`, `Drivetrain.Pid.Reflected.checkSettled` — **a step and a check**
  keep two loops reflected;
* `Drivetrain.Controller.Reflected.motion?`, `Drivetrain.Controller.Reflected.launch`,
  `Drivetrain.Controller.Reflected.cycle`, `Drivetrain.Controller.Reflected.checkSettled` — what
  each function of a controller keeps of two that are reflected.
-/

import Mathlib
import Drivetrain.Proofs.Forgetting
import Drivetrain.Proofs.Limits
import Drivetrain.Proofs.Opposites
import Drivetrain.Proofs.Overflow

set_option relaxedAutoImplicit false
set_option autoImplicit false

namespace Drivetrain

open Machine (Image Opposite Balanced value? balanced_unit)

/-! ### Mixing -/

/-- The place on the other side of the chassis. -/
def Wheel.mirror : Wheel → Wheel
  | left => right
  | right => left
  | topLeft => topRight
  | topRight => topLeft
  | bottomRight => bottomLeft
  | bottomLeft => bottomRight

namespace Mixing

theorem command_eq {x y : Float} (h : Image .positive x y) (maximum : Float) :
    command y maximum = command x maximum :=
  congrArg Int16.ofIntClamp (h.mul (.refl maximum)).truncate_eq

/-- **The opposite yaw changes the sides.** -/
theorem vector_of_opposite (f : Float) {y y' : Float} (h : Image .negative y y') :
    Image .positive (vector f y).right (vector f y').left ∧
      Image .positive (vector f y).left (vector f y').right := by
  have yaw : Image .negative (clampUnit y) (clampUnit y') := balanced_unit.clamp h
  have same := Image.refl (clampUnit f)
  have left : Image .positive (clampUnit f - clampUnit y) (clampUnit f + clampUnit y') :=
    same.add_opposite yaw
  have right : Image .positive (clampUnit f + clampUnit y) (clampUnit f - clampUnit y') :=
    same.sub_opposite yaw
  have magnitude : Scalar.larger (Float.abs (clampUnit f + clampUnit y'))
        (Float.abs (clampUnit f - clampUnit y')) =
      Scalar.larger (Float.abs (clampUnit f + clampUnit y))
        (Float.abs (clampUnit f - clampUnit y)) := by
    rw [left.abs_eq, right.abs_eq, Machine.larger_abs_comm]
  simp only [vector, Scalar.abs, magnitude]
  split
  · exact ⟨left.div _, right.div _⟩
  · exact ⟨left, right⟩

end Mixing

namespace Maneuver

theorem order?_vector_of_opposite (full : Maxima Float) (f : Float) {y y' : Float}
    (h : Image .negative y y') (w : Wheel) :
    (vector f y').order? full w = (vector f y).order? full w.mirror := by
  obtain ⟨left, right⟩ := Mixing.vector_of_opposite f h
  have left := Mixing.command_eq left full.velocity
  have right := Mixing.command_eq right full.velocity
  cases w <;>
    simp only [order?, Maxima.velocityOrder, Wheel.mirror, Wheel.side, Sides.on, left, right]

theorem order?_rotate_of_opposite (full : Maxima Float) {x x' : Float} (h : Image .negative x x')
    (w : Wheel) : (rotate x').order? full w = (rotate x).order? full w.mirror := by
  have speed : Image .negative (Mixing.clampUnit x) (Mixing.clampUnit x') := balanced_unit.clamp h
  have left := Mixing.command_eq ((Image.neg_self _).symm.trans speed) full.velocity
  have right := Mixing.command_eq (speed.trans (.neg_self _)) full.velocity
  cases w <;>
    simp only [order?, Maxima.velocityOrder, Wheel.mirror, Wheel.side, Sides.on, left, right]

end Maneuver

/-! ### Loops -/

theorem image_zero : Image .negative (0.0 : Float) 0.0 := .of_zero value?_zero value?_zero

/-- **A make that favors no side**: nothing gathered, nothing added, and limits that go as far to
one side as to the other. -/
structure Loop.Make.Evenhanded (m : Loop.Make Float) : Prop where
  ki : (m.gains.ki == 0) = true
  kbias : (m.gains.kbias == 0) = true
  outputLimits : Balanced m.outputLimits
  integralLimits : Balanced m.integralLimits
  /-- As every duration, it has no more than sixty-four bits of seconds. -/
  sampleTime : m.sampleTime < 2 ^ 64 * Time.perSecond

/-- A loop that is new, with the limits of every new loop, favors no side if its gains do not. -/
theorem Loop.Make.evenhanded_new {gains : Gains Float} (ki : (gains.ki == 0) = true)
    (kbias : (gains.kbias == 0) = true) (settle : SettleSettings Float) {sampleTime : Nat}
    (brief : sampleTime < 2 ^ 64 * Time.perSecond) :
    Loop.Make.Evenhanded ⟨gains, sampleTime, .unit, .unit, settle⟩ :=
  ⟨ki, kbias, balanced_unit, balanced_unit, brief⟩

/-- A loop of a make that was never stepped. -/
def Loop.Make.fresh {α : Type} [Scalar α] (m : Loop.Make α) : Loop α :=
  .position
    { Pid.new m.gains m.settle m.sampleTime with
      outputLimits := m.outputLimits
      integralLimits := m.integralLimits }

/-- **Two position loops of one make that do the same to opposite sides.** -/
structure Pid.Reflected (m : Loop.Make Float) (p p' : Pid Float) : Prop where
  make : (Loop.position p).make? = some m
  make' : (Loop.position p').make? = some m
  disabled : p'.disabled = p.disabled
  steppedAt : p'.steppedAt = p.steppedAt
  enteredAt : p'.settling.enteredAt = p.settling.enteredAt
  target : Image .negative p.target p'.target
  error : Image .negative p.error p'.error
  output : Image .negative p.output p'.output
  lastReading : Option.Rel (Image .negative) p.lastReading p'.lastReading
  checked : Image .negative p.settling.lastError p'.settling.lastError
  /-- Nothing was gathered, unless there was no finite target. -/
  integral : p.target.isFinite = true → value? p.integral = some 0 ∧ value? p'.integral = some 0

namespace Pid

/-- What a step comes to if the limits are in order and the loop is switched on. -/
theorem step_of_ordered {α : Type} [Scalar α] {p : Pid α} (enabled : p.disabled = false)
    (integral : p.integralLimits.lo ≤ p.integralLimits.hi)
    (output : p.outputLimits.lo ≤ p.outputLimits.hi) (reading : α) (now : Nat) :
    p.step reading now =
      let error := p.target - reading
      let integral := p.integralLimits.clamp (p.gather error (p.elapsed now))
      let output :=
        p.outputLimits.clamp (p.drive error integral (p.slope reading (p.elapsed now)))
      ({ p with
          error := error
          lastError := error
          lastReading := some reading
          integral := integral
          output := output
          steppedAt := some now },
        some output) := by
  simp only [step, enabled, Range.clamp?, integral, output, Bool.false_eq_true, if_false, if_true]

theorem step_of_disabled {α : Type} [Scalar α] {p : Pid α} (h : p.disabled = true) (reading : α)
    (now : Nat) : p.step reading now = ({ p with output := 0 }, some 0) := by
  simp only [step, h, if_true]

/-- What a position loop was made with. -/
theorem of_make {α : Type} {p : Pid α} {m : Loop.Make α} (h : (Loop.position p).make? = some m) :
    p.gains = m.gains ∧ p.sampleTime = m.sampleTime ∧ p.outputLimits = m.outputLimits ∧
      p.integralLimits = m.integralLimits ∧ p.settling.settings = m.settle := by
  cases Option.some.inj h
  exact ⟨rfl, rfl, rfl, rfl, rfl⟩

/-- Without a gain nothing is gathered from an error that is finite. -/
theorem value?_gather {p : Pid Float} {e dt : Float} {a d : ℚ} (ki : value? p.gains.ki = some 0)
    (he : value? e = some a) (hd : value? dt = some d) (hi : value? p.integral = some 0) :
    value? (p.gather e dt) = some 0 := by
  have gained := Machine.value?_zero_mul (Machine.value?_zero_mul ki he) hd
  have kept : value? (if Scalar.sameSign e p.lastError then p.integral else 0) = some 0 := by
    split
    · exact hi
    · rfl
  exact Machine.value?_add_zero kept gained

theorem isNaN_gather {p : Pid Float} {e : Float} (ki : value? p.gains.ki = some 0)
    (he : e.isFinite = false) (dt : Float) : (p.gather e dt).isNaN = true :=
  Machine.isNaN_add_right _ (Machine.isNaN_mul_left (Machine.isNaN_mul_of_zero ki he) dt)

/-- A step stands for a finite number of seconds. -/
theorem exists_value?_elapsed {p : Pid Float} (sampled : p.sampleTime < 2 ^ 64 * Time.perSecond)
    {now : Nat} (brief : now < 2 ^ 64 * Time.perSecond) :
    ∃ d, value? (p.elapsed now) = some d := by
  rw [elapsed]
  cases p.steppedAt with
  | none => exact Machine.exists_value?_toSeconds sampled
  | some before => exact Machine.exists_value?_toSeconds (by omega)

/-- Opposite readings move at opposite speeds. -/
theorem slope_of_opposite {p p' : Pid Float}
    (last : Option.Rel (Image .negative) p.lastReading p'.lastReading) {x x' : Float}
    (hx : Image .negative x x') (dt : Float) :
    Image .negative (p.slope x dt) (p'.slope x' dt) := by
  rw [slope, slope]
  generalize p.lastReading = r at last
  generalize p'.lastReading = r' at last
  cases last with
  | none => exact image_zero
  | some hr =>
      dsimp only
      split
      · exact (hx.sub hr).div dt
      · exact image_zero

/-- Loops of the same gains, of which none is always added, drive opposite ways. -/
theorem drive_of_opposite {p p' : Pid Float} (gains : p'.gains = p.gains)
    (unbiased : (p.gains.kbias == 0) = true) {e e' i i' d d' : Float}
    (he : Image .negative e e') (hi : Image .negative i i') (hd : Image .negative d d') :
    Image .negative (p.drive e i d) (p'.drive e' i' d') := by
  have bias := Machine.value?_of_beq_zero unbiased
  have proportional : Image .negative (p.gains.kp * e) (p.gains.kp * e') := (Image.refl _).mul he
  have damped : Image .negative (p.gains.kd * d) (p.gains.kd * d') := (Image.refl _).mul hd
  rw [drive, drive, gains]
  exact ((proportional.add hi).sub damped).add (.of_zero bias bias)

namespace Reflected

variable {m : Loop.Make Float} {p p' : Pid Float}

/-- **A target with its opposite** for two loops of one make, their memory cleared. -/
theorem renewed (h : p.Reflected m p') {t t' : Float} (ht : Image .negative t t') :
    ((p.reset.setDisabled false).setTarget t).Reflected m
      ((p'.reset.setDisabled false).setTarget t') where
  make := h.make
  make' := h.make'
  disabled := rfl
  steppedAt := rfl
  enteredAt := rfl
  target := ht
  error := image_zero
  output := image_zero
  lastReading := .none
  checked := image_zero
  integral := fun _ => ⟨value?_zero, value?_zero⟩

theorem setDisabled (h : p.Reflected m p') (b : Bool) :
    (p.setDisabled b).Reflected m (p'.setDisabled b) :=
  { h with disabled := rfl }

theorem elapsed_eq (h : p.Reflected m p') (now : Nat) :
    (p'.elapsed now : Float) = p.elapsed now := by
  rw [elapsed, elapsed, h.steppedAt, (of_make h.make).2.1, (of_make h.make').2.1]

theorem slope (h : p.Reflected m p') {x x' : Float} (hx : Image .negative x x') (dt : Float) :
    Image .negative (p.slope x dt) (p'.slope x' dt) :=
  slope_of_opposite h.lastReading hx dt

theorem drive (even : m.Evenhanded) (h : p.Reflected m p') {e e' i i' d d' : Float}
    (he : Image .negative e e') (hi : Image .negative i i') (hd : Image .negative d d') :
    Image .negative (p.drive e i d) (p'.drive e' i' d') := by
  have gains := (of_make h.make).1
  exact drive_of_opposite ((of_make h.make').1.trans gains.symm) (by rw [gains]; exact even.kbias)
    he hi hd

/-- **Nothing is gathered on either side**, or on both what is not a number. -/
theorem gather (even : m.Evenhanded) (h : p.Reflected m p') {x x' : Float}
    (hx : Image .negative x x') {a : ℚ} (held : value? x = some a) (small : |a| < 2 ^ (970 : ℤ))
    {dt : Float} {d : ℚ} (hd : value? dt = some d) :
    Image .negative (p.gather (p.target - x) dt) (p'.gather (p'.target - x') dt) ∧
      (p.target.isFinite = true → value? (p.gather (p.target - x) dt) = some 0 ∧
        value? (p'.gather (p'.target - x') dt) = some 0) := by
  have held' := hx.value?_eq held
  have ki := Machine.value?_of_beq_zero even.ki
  have ki' := ki
  rw [← (of_make h.make).1] at ki
  rw [← (of_make h.make').1] at ki'
  cases finite : p.target.isFinite with
  | true =>
      obtain ⟨t, ht⟩ := Machine.exists_value? finite
      obtain ⟨e, he⟩ := Machine.exists_value?_sub ht held small
      obtain ⟨e', he'⟩ :=
        Machine.exists_value?_sub (h.target.value?_eq ht) held' (by rwa [abs_neg])
      have zero := value?_gather ki he hd (h.integral finite).1
      have zero' := value?_gather ki' he' hd (h.integral finite).2
      exact ⟨.of_zero zero zero', fun _ => ⟨zero, zero'⟩⟩
  | false =>
      have finite' := h.target.isFinite_eq.trans finite
      have nan := isNaN_gather ki (Machine.isFinite_sub held finite) dt
      have nan' := isNaN_gather ki' (Machine.isFinite_sub held' finite') dt
      exact ⟨.of_isNaN nan nan', nofun⟩

/-- **A step on opposite readings** gives opposite outputs. -/
theorem step (even : m.Evenhanded) (h : p.Reflected m p') {x x' : Float}
    (hx : Image .negative x x') {a : ℚ} (held : value? x = some a) (small : |a| < 2 ^ (970 : ℤ))
    {now : Nat} (brief : now < 2 ^ 64 * Time.perSecond) :
    (p.step x now).1.Reflected m (p'.step x' now).1 ∧
      Image .negative ((p.step x now).2.getD 0) ((p'.step x' now).2.getD 0) := by
  cases switch : p.disabled with
  | true =>
      rw [step_of_disabled switch, step_of_disabled (h.disabled.trans switch)]
      exact ⟨{ h with output := image_zero }, image_zero⟩
  | false =>
      obtain ⟨-, -, limits, bounds, -⟩ := of_make h.make
      obtain ⟨-, -, limits', bounds', -⟩ := of_make h.make'
      have out := even.outputLimits
      have kept := even.integralLimits
      rw [step_of_ordered switch (by rw [bounds]; exact kept.ordered)
          (by rw [limits]; exact out.ordered),
        step_of_ordered (h.disabled.trans switch) (by rw [bounds']; exact kept.ordered)
          (by rw [limits']; exact out.ordered), h.elapsed_eq]
      have sampled : p.sampleTime < 2 ^ 64 * Time.perSecond := by
        rw [(of_make h.make).2.1]
        exact even.sampleTime
      obtain ⟨d, hd⟩ := exists_value?_elapsed sampled brief
      obtain ⟨gathered, nothing⟩ := h.gather even hx held small hd
      have error := h.target.sub hx
      have integral := kept.clamp gathered
      have output := out.clamp (h.drive even error integral (h.slope hx (p.elapsed now)))
      refine ⟨?_, by rw [bounds, bounds', limits, limits']; exact output⟩
      exact
        { h with
          error := error
          output := by rw [bounds, bounds', limits, limits']; exact output
          lastReading := .some hx
          steppedAt := rfl
          integral := fun finite =>
            ⟨by rw [bounds]; exact kept.value?_clamp (nothing finite).1,
              by rw [bounds']; exact kept.value?_clamp (nothing finite).2⟩ }

/-- Opposite errors are within tolerance together. -/
theorem check (h : p.Reflected m p') (now : Nat) :
    (p'.settling.check p'.error now).1 = (p.settling.check p.error now).1 ∧
      (p'.settling.check p'.error now).2.enteredAt = (p.settling.check p.error now).2.enteredAt ∧
      Image .negative (p.settling.check p.error now).2.lastError
        (p'.settling.check p'.error now).2.lastError := by
  have settings : p'.settling.settings = p.settling.settings :=
    (of_make h.make').2.2.2.2.trans (of_make h.make).2.2.2.2.symm
  have outside : Settling.outside p'.settling.settings p'.error
        (p'.error - p'.settling.lastError) =
      Settling.outside p.settling.settings p.error (p.error - p.settling.lastError) := by
    simp only [Settling.outside, Scalar.abs, settings, h.error.abs_eq,
      (h.error.sub h.checked).abs_eq]
  rw [Settling.check, Settling.check]
  cases beyond : Settling.outside p.settling.settings p.error
      (p.error - p.settling.lastError) with
  | true =>
      simp only [outside.trans beyond, if_true]
      exact ⟨trivial, trivial, h.error⟩
  | false =>
      simp only [outside.trans beyond, Bool.false_eq_true, if_false]
      cases entered : p.settling.enteredAt with
      | some t =>
          simp only [h.enteredAt.trans entered, settings]
          exact ⟨trivial, trivial, h.error⟩
      | none =>
          simp only [h.enteredAt.trans entered]
          exact ⟨trivial, trivial, h.error⟩

/-- **A check comes to the same** on both sides. -/
theorem checkSettled (h : p.Reflected m p') (now : Nat) :
    (p'.checkSettled now).1 = (p.checkSettled now).1 ∧
      (p.checkSettled now).2.Reflected m (p'.checkSettled now).2 := by
  cases switch : p.disabled with
  | true =>
      rw [checkSettled_of_disabled switch, checkSettled_of_disabled (h.disabled.trans switch)]
      exact ⟨rfl, h⟩
  | false =>
      rw [checkSettled_of_enabled switch, checkSettled_of_enabled (h.disabled.trans switch)]
      obtain ⟨report, enteredAt, checked⟩ := h.check now
      refine ⟨report, ?_⟩
      exact
        { h with
          make := by rw [← h.make, Loop.make?, Settling.settings_check]; rfl
          make' := by rw [← h.make', Loop.make?, Settling.settings_check]; rfl
          enteredAt := enteredAt
          checked := checked }

end Reflected

end Pid

namespace Loop

/-- **Two position loops that do the same to opposite sides**, as loops. -/
inductive Reflected (m : Make Float) : Loop Float → Loop Float → Prop where
  | position {p p' : Pid Float} (h : p.Reflected m p') : Reflected m (.position p) (.position p')

/-- A loop that was never stepped is its own reflection. -/
theorem Make.reflected_fresh (m : Make Float) : Reflected m m.fresh m.fresh :=
  .position
    { make := rfl
      make' := rfl
      disabled := rfl
      steppedAt := rfl
      enteredAt := rfl
      target := image_zero
      error := image_zero
      output := image_zero
      lastReading := .none
      checked := image_zero
      integral := fun _ => ⟨value?_zero, value?_zero⟩ }

namespace Reflected

variable {m : Make Float} {l l' : Loop Float}

theorem real (h : Reflected m l l') : l.settle?.isSome = true ∧ l'.settle?.isSome = true := by
  cases h
  exact ⟨rfl, rfl⟩

theorem opposite (h : Reflected m l l') :
    Opposite l.error l'.error ∧ Opposite l.output l'.output := by
  cases h with
  | position h =>
      exact ⟨Machine.image_negative_iff.1 h.error, Machine.image_negative_iff.1 h.output⟩

theorem renewed (h : Reflected m l l') {t t' : Float} (ht : Image .negative t t') :
    Reflected m ((l.reset.setDisabled false).setTarget t)
      ((l'.reset.setDisabled false).setTarget t') := by
  cases h with
  | position h => exact .position (h.renewed ht)

theorem setDisabled (h : Reflected m l l') (b : Bool) :
    Reflected m (l.setDisabled b) (l'.setDisabled b) := by
  cases h with
  | position h => exact .position (h.setDisabled b)

theorem step (even : m.Evenhanded) (h : Reflected m l l') {x x' : Float}
    (hx : Image .negative x x') {a : ℚ} (held : value? x = some a) (small : |a| < 2 ^ (970 : ℤ))
    {now : Nat} (brief : now < 2 ^ 64 * Time.perSecond) :
    Reflected m (l.step x now).1 (l'.step x' now).1 ∧
      Image .negative (l.step x now).2 (l'.step x' now).2 := by
  cases h with
  | position h =>
      obtain ⟨stepped, output⟩ := h.step even hx held small brief
      exact ⟨.position stepped, output⟩

theorem checkSettled (h : Reflected m l l') (now : Nat) :
    (l'.checkSettled now).1 = (l.checkSettled now).1 ∧
      Reflected m (l.checkSettled now).2 (l'.checkSettled now).2 := by
  cases h with
  | position h =>
      obtain ⟨report, checked⟩ := h.checkSettled now
      exact ⟨report, .position checked⟩

end Reflected

end Loop

/-! ### Controllers -/

namespace Controller

/-- The readings of both sides changed. -/
def Samples.swap (s : Samples) : Samples := ⟨s.baseline.swap, s.current.swap⟩

/-- A turn the other way round, as its mirroring goes. -/
def Motion.flip {α : Type} : Motion α → Motion α
  | .move x => .move x
  | .turn x mirrored => .turn x !mirrored

/-- Whether a request asks for a turn. -/
def Request.turns {α : Type} : Request α → Bool
  | .turn _ | .turnRaw _ => true
  | _ => false

/-- **Two controllers of which each does what the other does with left and right changed.**  Whether
turns are mirrored is not said: it matters when a turn is accepted, and at no other time. -/
structure Reflected (turn angle : Loop.Make Float) (c c' : Controller Float) : Prop where
  scales : c'.scales = c.scales
  gearing : c'.gearing = c.gearing
  period : c'.period = c.period
  mode : c'.mode = c.mode
  idle : c'.idle = c.idle
  fresh : c'.fresh = c.fresh
  lastMode : c'.lastMode = c.lastMode
  baseline : c'.baseline = c.baseline.swap
  moveThreshold : c'.moveThreshold = c.moveThreshold
  turnThreshold : c'.turnThreshold = c.turnThreshold
  distance : c'.distance = c.distance
  real : c.distance.settle?.isSome = true
  turn : Loop.Reflected turn c.turn c'.turn
  angle : Loop.Reflected angle c.angle c'.angle

/-- Opposite signs turn opposite ways. -/
theorem image_turnSign (b : Bool) :
    Image .negative (turnSign b : Float) (turnSign !b) := by
  cases b with
  | false => exact Image.neg_self _
  | true => exact (Image.neg_self _).symm

/-- **The travel of swapped readings** is the travel of the other side. -/
theorem travel_swap (baseline current : Readings) :
    (travel baseline.swap current.swap : Sides Float) = (travel baseline current).swap := rfl

/-- The difference of two travels is a small number. -/
theorem exists_value?_difference (baseline current : Readings) :
    ∃ a : ℚ, value? ((travel baseline current : Sides Float).left -
      (travel baseline current : Sides Float).right) = some a ∧ |a| < 2 ^ (970 : ℤ) := by
  have side : ∀ n : Int32, n.toInt.natAbs ≤ 2 ^ 31 := by
    intro n
    have low := n.le_toInt
    have high := n.toInt_lt
    omega
  have left := side (current.left - baseline.left)
  have right := side (current.right - baseline.right)
  simp only [travel]
  generalize (current.left - baseline.left).toInt = l at left
  generalize (current.right - baseline.right).toInt = r at right
  have bits : (l - r).natAbs < 2 ^ 53 := by omega
  have exact := Machine.value?_sub (Machine.value?_ofInt (n := l) (by omega))
    (Machine.value?_ofInt (n := r) (by omega))
    (by exact_mod_cast Machine.representable_int bits)
  refine ⟨_, exact, ?_⟩
  have small : |((l - r : ℤ) : ℚ)| ≤ 2 ^ 53 := by
    rw [← Int.cast_abs, Int.abs_eq_natAbs]
    exact_mod_cast bits.le
  push_cast at small
  exact small.trans_lt (Machine.two_pow_lt (by norm_num))

namespace Reflected

variable {turn angle : Loop.Make Float} {c c' : Controller Float}

theorem positional (h : c.Reflected turn angle c') : c.Positional ∧ c'.Positional := by
  constructor
  · intro slot
    cases slot with
    | distance => exact h.real
    | turn => exact h.turn.real.1
    | angle => exact h.angle.real.1
  · intro slot
    cases slot with
    | distance => rw [settle?, h.distance]; exact h.real
    | turn => exact h.turn.real.2
    | angle => exact h.angle.real.2

/-- Whatever is asked for is accepted on both sides or on neither; a turn goes the other way round
if turns are mirrored on one side only. -/
theorem motion? (h : c.Reflected turn angle c') (r : Request Float)
    (flipped : r.turns = true → c'.mirrored = !c.mirrored) :
    c'.motion? r = (c.motion? r).map Motion.flip := by
  have moves : ∀ x, c'.acceptMove x = (c.acceptMove x).map Motion.flip := by
    intro x
    rw [acceptMove, acceptMove, ignoresMove, ignoresMove, h.moveThreshold]
    split <;> rfl
  have turns : ∀ x, c'.mirrored = !c.mirrored →
      c'.acceptTurn x = (c.acceptTurn x).map Motion.flip := by
    intro x flipped
    rw [acceptTurn, acceptTurn, ignoresTurn, ignoresTurn, h.turnThreshold, flipped]
    split <;> rfl
  cases r with
  | move x => exact moves x
  | moveRaw t => rw [Controller.motion?, moves, rawLength, h.scales]; rfl
  | turn x => exact turns x (flipped rfl)
  | turnRaw t => rw [Controller.motion?, turns _ (flipped rfl), rawAngle, h.scales]; rfl
  | _ => rfl

theorem disableAll (h : c.Reflected turn angle c') :
    c.disableAll.Reflected turn angle c'.disableAll :=
  { h with
    distance := congrArg (Loop.setDisabled true) h.distance
    real := (congrArg Option.isSome (Loop.settle?_setDisabled ..)).trans h.real
    turn := h.turn.setDisabled true
    angle := h.angle.setDisabled true }

theorem finish (h : c.Reflected turn angle c') : c.finish.Reflected turn angle c'.finish :=
  { h.disableAll with
    mode := rfl
    idle := rfl }

theorem adjust (h : c.Reflected turn angle c') {r : Request Float} :
    (c.adjust r).Reflected turn angle (c'.adjust r) := by
  cases r with
  | mirror b => exact { h with }
  | stop => exact h.disableAll
  | setMoveThreshold x => exact { h with moveThreshold := rfl }
  | setTurnThreshold x => exact { h with turnThreshold := rfl }
  | _ => exact h

/-- **A motion launched on both sides**, a turn the other way round on one. -/
theorem launch (h : c.Reflected turn angle c') (m : Motion Float) :
    (c.launch m).Reflected turn angle (c'.launch m.flip) := by
  cases m with
  | move x =>
      have target : c'.moveTarget x = c.moveTarget x := by
        rw [moveTarget, moveTarget, h.scales, h.gearing]
      -- the launches are unfolded where `rfl` alone would first compare all that they compute
      exact
        { h with
          mode := by simp only [Controller.launch, Motion.flip, beginMove]
          idle := by simp only [Controller.launch, Motion.flip, beginMove]
          fresh := by simp only [Controller.launch, Motion.flip, beginMove]
          distance := by
            simp only [Controller.launch, Motion.flip, beginMove, target, h.distance]
          real := by simp only [Controller.launch, beginMove, Loop.settle?_setTarget,
            Loop.settle?_setDisabled, Loop.settle?_reset, h.real]
          turn := h.turn.setDisabled true
          angle := h.angle.renewed image_zero }
  | turn x mirrored =>
      have target : Image .negative (c.turnTarget x mirrored) (c'.turnTarget x !mirrored) := by
        rw [turnTarget, turnTarget, h.scales, h.gearing]
        exact (Image.refl _).mul (image_turnSign mirrored)
      exact
        { h with
          mode := by simp only [Controller.launch, Motion.flip, beginTurn]
          idle := by simp only [Controller.launch, Motion.flip, beginTurn]
          fresh := by simp only [Controller.launch, Motion.flip, beginTurn]
          distance := congrArg (Loop.setDisabled true) h.distance
          real := (congrArg Option.isSome (Loop.settle?_setDisabled ..)).trans h.real
          turn := h.turn.renewed target
          angle := h.angle.setDisabled true }

theorem started (h : c.Reflected turn angle c') (baseline : Readings) :
    (c.started baseline).Reflected turn angle (c'.started baseline.swap) :=
  { h with
    lastMode := rfl
    baseline := rfl }

theorem rebased (h : c.Reflected turn angle c') (baseline : Readings) :
    (c.rebased baseline).Reflected turn angle (c'.rebased baseline.swap) := by
  have needs : c'.needsBaseline = c.needsBaseline := by
    rw [needsBaseline, needsBaseline, h.mode, h.lastMode, h.fresh]
  exact
    { h with
      fresh := rfl
      lastMode := h.mode
      baseline := by
        simp only [Controller.rebased, needs, h.baseline]
        split <;> rfl }

theorem moved (h : c.Reflected turn angle c') (samples : Samples) :
    c'.moved samples.swap = (c.moved samples).swap := by
  have based := (h.rebased samples.baseline).baseline
  rw [Controller.moved, Samples.swap, based]
  exact travel_swap ..

/-- **A cycle on swapped readings** gives the order of each wheel to the one on the other side. -/
theorem cycle (even : turn.Evenhanded) (even' : angle.Evenhanded) (h : c.Reflected turn angle c')
    (samples : Samples) {now : Nat} (brief : now < 2 ^ 64 * Time.perSecond) :
    (c.cycle samples now).1.Reflected turn angle (c'.cycle samples.swap now).1 ∧
      ∀ full : Maxima Float, (c'.cycle samples.swap now).2.map (·.order? full) =
        (c.cycle samples now).2.map fun m w => m.order? full w.mirror := by
  have based := h.rebased samples.baseline
  have moved := h.moved samples
  obtain ⟨a, held, small⟩ := exists_value?_difference
    (c.rebased samples.baseline).baseline samples.current
  have opposite : Image .negative ((c.moved samples).left - (c.moved samples).right)
      ((c'.moved samples.swap).left - (c'.moved samples.swap).right) := by
    rw [moved]
    exact Image.sub_swap ..
  cases hm : c.mode with
  | none =>
      have hm' := h.mode.trans hm
      rw [cycle_of_none hm, cycle_of_none hm']
      exact ⟨based, fun full => by simp only [Option.map_none]⟩
  | distance =>
      have hm' := h.mode.trans hm
      have mean : (c'.moved samples.swap).left + (c'.moved samples.swap).right =
          (c.moved samples).left + (c.moved samples).right := by
        rw [moved]
        exact Machine.add_comm ..
      obtain ⟨stepped, yaw⟩ := h.angle.step even' opposite held small brief
      rw [cycle_of_distance hm, cycle_of_distance hm']
      refine ⟨?_, fun full => congrArg some (funext fun w => ?_)⟩
      · exact
          { based with
            distance := by simp only [mean, h.distance]
            real := (congrArg Option.isSome (Loop.alike_step ..).settle).trans h.real
            angle := stepped }
      · simp only [mean, h.distance]
        exact Maneuver.order?_vector_of_opposite full _ yaw w
  | angle =>
      have hm' := h.mode.trans hm
      obtain ⟨stepped, speed⟩ := h.turn.step even opposite held small brief
      rw [cycle_of_angle hm, cycle_of_angle hm']
      refine ⟨{ based with turn := stepped }, fun full => congrArg some (funext fun w => ?_)⟩
      exact Maneuver.order?_rotate_of_opposite full speed w

/-- **A check comes to the same** on both sides. -/
theorem checkSettled (h : c.Reflected turn angle c') (now : Nat) (mode : Mode) :
    (c.checkSettled now mode).2.Reflected turn angle (c'.checkSettled now mode).2 := by
  cases mode with
  | none => exact h
  | angle => exact { h with turn := (h.turn.checkSettled now).2 }
  | distance =>
      have real := (congrArg Option.isSome (Loop.alike_checkSettled now c.distance).settle).trans
        h.real
      -- the loop of the angle is asked on both sides, or on neither
      by_cases there : (c.distance.checkSettled now).1 = true
      · have there' := h.distance ▸ there
        rw [checkSettled_distance_of_settled there, checkSettled_distance_of_settled there']
        exact
          { h with
            distance := by rw [h.distance]
            real := real
            angle := (h.angle.checkSettled now).2 }
      · have there' := h.distance ▸ there
        rw [checkSettled_distance_of_unsettled there, checkSettled_distance_of_unsettled there']
        exact
          { h with
            distance := by rw [h.distance]
            real := real }

theorem reports (h : c.Reflected turn angle c') (now : Nat) (mode : Mode) :
    c'.Reports now mode ↔ c.Reports now mode := by
  cases mode with
  | none => exact Iff.rfl
  | distance => rw [Reports, Reports, h.distance, (h.angle.checkSettled now).1]
  | angle => rw [Reports, Reports, (h.turn.checkSettled now).1]

end Reflected

end Controller

end Drivetrain
