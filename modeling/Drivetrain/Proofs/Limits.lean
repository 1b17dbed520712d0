/-
Actuator limits: no motor is ordered beyond full speed, or beyond full voltage.

Every maneuver brings the fractions that it sends into the range from minus one to one, each in a
way of its own, and a fraction that is not a number comes to no order at all.  So the order for a
wheel is no larger than the maximum that it is a fraction of, whatever the driver's axes and
thresholds are, and infinities among them are no exception.

Main definitions:

* `Drivetrain.Maxima.Admits` — an order within the limits;
* `Drivetrain.Motor.Restrained` — a motor that was last told nothing beyond them.

Main results:

* `Drivetrain.Mixing.fraction_vector` — where a side would pass full speed, dividing by the larger
  of the two brings both back;
* `Drivetrain.Mixing.command_admitted` — **the command for a fraction is within the maximum**;
* `Drivetrain.Maneuver.admits` — **every order of every maneuver is within the limits**;
* `Drivetrain.Drive.sent_within_limits` — so is every order of a series of actions, and what the
  motors were last told.
-/

import Drivetrain.Proofs.Magnitude
import Drivetrain.Proofs.Orders
import Drivetrain.Proofs.Rolling

set_option relaxedAutoImplicit false
set_option autoImplicit false

namespace Drivetrain

open Machine (Fraction value?)

/-! ### Fractions of full speed -/

theorem value?_zero : value? (0.0 : Float) = some 0 := rfl

theorem value?_unit : value? (1.0 : Float) = some 1 := Machine.value?_one

/-- Each of two numbers is at most the larger one. -/
theorem le_larger {x y : Float} :
    (x.isNaN = false → x ≤ Scalar.larger x y) ∧ (y.isNaN = false → y ≤ Scalar.larger x y) := by
  rw [Scalar.larger]
  split
  · rename_i below
    exact ⟨fun _ => Machine.le_of_lt below, Machine.le_refl⟩
  · rename_i notBelow
    split
    · rename_i none
      refine ⟨fun number => ?_, Machine.le_refl⟩
      exact absurd (none.symm.trans number) (by decide)
    · rename_i number
      refine ⟨Machine.le_refl, fun number' => ?_⟩
      exact (Machine.not_lt (Bool.eq_false_of_not_eq_true number) number').1 notBelow

namespace Mixing

theorem fraction_zero : Fraction (0.0 : Float) := .inr ⟨0, value?_zero, by norm_num⟩

/-- A clamped value is a fraction. -/
theorem fraction_clampUnit (x : Float) : Fraction (clampUnit x) := by
  have least : value? (-1.0 : Float) = some (-1) := Machine.value?_neg value?_unit
  have zero : Fraction (-1.0 : Float) := .inr ⟨-1, least, by norm_num⟩
  have one : Fraction (1.0 : Float) := .inr ⟨1, value?_unit, by norm_num⟩
  rw [clampUnit, Range.clamp]
  split
  · exact zero
  · split
    · exact one
    · rename_i low high
      exact Machine.fraction_of_not_beyond least value?_unit low high

theorem fraction_strictDeadband {x : Float} (h : Fraction x) (threshold : Float) :
    Fraction (strictDeadband threshold x) := by
  rw [strictDeadband]
  split
  · exact fraction_zero
  · exact h

/-- What is no larger than a magnitude is a fraction once it is divided by it, and is one already
if that magnitude does not pass full speed. -/
theorem fraction_of_blended {side magnitude : Float}
    (le : side.isNaN = false → Float.abs side ≤ magnitude) :
    Fraction (side / magnitude) ∧ (¬ 1.0 < magnitude → Fraction side) := by
  cases number : side.isNaN with
  | true => exact ⟨.inl (Machine.isNaN_div_left number _), fun _ => .inl number⟩
  | false =>
      refine ⟨Machine.fraction_div (le number), fun notAbove => ?_⟩
      have top := (Machine.not_lt (by rfl) (Machine.isNaN_of_le (le number))).1 notAbove
      exact Machine.fraction_of_abs_le value?_unit (Machine.le_trans (le number) top)

/-- **The sides of vector mixing are fractions**, also where an axis is infinite or not a number. -/
theorem fraction_vector (forward yaw : Float) (side : Side) :
    Fraction ((vector forward yaw).on side) := by
  let left := clampUnit forward + clampUnit yaw
  let right := clampUnit forward - clampUnit yaw
  let magnitude := Scalar.larger (Float.abs left) (Float.abs right)
  have mixed : vector forward yaw =
      if 1.0 < magnitude then ⟨left / magnitude, right / magnitude⟩ else ⟨left, right⟩ := rfl
  have larger := le_larger (x := Float.abs left) (y := Float.abs right)
  rw [Machine.isNaN_abs_eq, Machine.isNaN_abs_eq] at larger
  have onLeft := fraction_of_blended larger.1
  have onRight := fraction_of_blended larger.2
  rw [mixed]
  split
  · cases side with
    | left => exact onLeft.1
    | right => exact onRight.1
  · rename_i notAbove
    cases side with
    | left => exact onLeft.2 notAbove
    | right => exact onRight.2 notAbove

end Mixing

/-! ### Orders within the limits -/

/-- **A whole number against a maximum**, which may be infinite. -/
theorem abs_ofInt_le {n : ℤ} {maximum : Float} (small : n.natAbs < 2 ^ 53)
    (number : maximum.isNaN = false)
    (le : ∀ b : ℚ, value? maximum = some b → (n.natAbs : ℚ) ≤ |b|) :
    Float.abs (Float.ofInt n) ≤ Float.abs maximum := by
  have magnitude : value? (Float.abs (Float.ofInt n)) = some (n.natAbs : ℚ) := by
    have value := Machine.value?_abs (Machine.value?_ofInt small)
    rwa [Nat.cast_natAbs, Int.cast_abs]
  rcases Machine.stands_abs number with ⟨-, -, top⟩ | ⟨b, value, value'⟩
  · exact (Machine.le_iff_level (.value (Machine.holds_of_value? magnitude)) top).2 le_top
  · exact (Machine.le_of_value? magnitude value').2 (le b value)

/-- Sixteen bits hold no more than was put in. -/
theorem natAbs_ofIntClamp_le (n : ℤ) :
    (Int16.ofIntClamp n).toInt.natAbs ≤ n.natAbs ∧
      (Int16.ofIntClamp n).toInt.natAbs ≤ 32768 := by
  rw [toInt_ofIntClamp]
  omega

/-- The command for a fraction is no larger than the value of the maximum. -/
theorem Mixing.natAbs_command_le {fraction maximum : Float} (h : Fraction fraction) {b : ℚ}
    (value : value? maximum = some b) : ((command fraction maximum).toInt.natAbs : ℚ) ≤ |b| := by
  refine le_trans (Nat.cast_le.2 (natAbs_ofIntClamp_le _).1) ?_
  rcases h with none | ⟨a, value', unit⟩
  · rw [show Scalar.truncate (fraction * maximum) = 0 from
      Machine.truncate_of_isNaN (Machine.isNaN_mul_left none _)]
    simp
  · obtain ⟨c, product, bound⟩ := Machine.value?_mul_le value' value unit
    exact (Machine.natAbs_truncate_le product).trans bound

/-- **The command for a fraction is within the maximum.** -/
theorem Mixing.command_admitted {fraction maximum : Float} (h : Fraction fraction)
    (number : maximum.isNaN = false) :
    Float.abs (Float.ofInt (command fraction maximum).toInt) ≤ Float.abs maximum := by
  have small := (natAbs_ofIntClamp_le (Scalar.truncate (fraction * maximum))).2
  exact abs_ofInt_le (lt_of_le_of_lt small (by norm_num)) number fun _ => natAbs_command_le h

/-- **An order within the limits**: no larger in magnitude than the maximum of its kind. -/
def Maxima.Admits (full : Maxima Float) : MotorOrder → Prop
  | .velocity rpm => Float.abs (Float.ofInt rpm.toInt) ≤ Float.abs full.velocity
  | .voltage millivolts => Float.abs (Float.ofInt millivolts.toInt) ≤ Float.abs full.voltage

instance Maxima.decidableAdmits (full : Maxima Float) : DecidablePred full.Admits
  | .velocity rpm =>
      inferInstanceAs (Decidable (Float.abs (Float.ofInt rpm.toInt) ≤ Float.abs full.velocity))
  | .voltage millivolts =>
      inferInstanceAs (Decidable (Float.abs (Float.ofInt millivolts.toInt) ≤ Float.abs full.voltage))

/-- Turning the other way is as fast, also at the least speed of sixteen bits, which has no
opposite. -/
theorem natAbs_neg_int16 (v : Int16) : (-v).toInt.natAbs = v.toInt.natAbs := by
  have low := v.le_toInt
  have high := v.toInt_lt
  rw [Int16.toInt_neg, Int.bmod_def]
  split <;> omega

theorem Mixing.fraction_arcade (forward : Axis Float) (yaw threshold : Float) (side : Side) :
    Fraction ((arcade forward yaw threshold).on side) := by
  cases side <;> exact fraction_clampUnit _

theorem Mixing.fraction_tank (left right threshold : Float) (side : Side) :
    Fraction ((tank left right threshold).on side) := by
  cases side <;> exact fraction_strictDeadband (fraction_clampUnit _) _

namespace Maneuver

open Mixing

/-- **Every order of every maneuver is within the limits.** -/
theorem admits {full : Maxima Float} (velocity : full.velocity.isNaN = false)
    (voltage : full.voltage.isNaN = false) {m : Maneuver Float} {wheel : Wheel} {o : MotorOrder}
    (h : m.order? full wheel = some o) : full.Admits o := by
  have spins : ∀ {x}, Fraction x → full.Admits (full.velocityOrder x) := fun hx =>
    command_admitted hx velocity
  have pushes : ∀ {x}, Fraction x → full.Admits (full.voltageOrder x) := fun hx =>
    command_admitted hx voltage
  cases m with
  | forward s =>
      cases h
      exact spins (fraction_clampUnit s)
  | vector f y =>
      cases h
      exact spins (fraction_vector f y _)
  | vectorVoltage f y =>
      cases h
      exact pushes (fraction_vector f y _)
  | rotate s =>
      cases h
      cases wheel.side with
      | left => exact spins (fraction_clampUnit s)
      | right => exact spins (fraction_clampUnit s).neg
  | stop =>
      cases h
      exact abs_ofInt_le (n := 0) (by norm_num) velocity fun b _ => by simp
  | tank l r t =>
      cases h
      exact pushes (fraction_tank l r t _)
  | arcade f y t =>
      cases h
      exact pushes (fraction_arcade f y t _)
  | left s =>
      rw [order?] at h
      split at h
      · cases h
        exact spins (fraction_clampUnit s)
      · cases h
  | right s =>
      rw [order?] at h
      split at h
      · cases h
        exact spins (fraction_clampUnit s)
      · cases h
  | strafe s =>
      have there := spins (fraction_clampUnit s)
      have back : full.Admits (.velocity (-command (clampUnit s) full.velocity)) := by
        have small := (natAbs_ofIntClamp_le (Scalar.truncate (clampUnit s * full.velocity))).2
        refine abs_ofInt_le ?_ velocity fun b value => ?_
        · rw [natAbs_neg_int16]
          exact lt_of_le_of_lt small (by norm_num)
        · rw [natAbs_neg_int16]
          exact natAbs_command_le (fraction_clampUnit s) value
      cases wheel with
      | left | right => cases h
      | topLeft | bottomRight => cases h; exact there
      | topRight | bottomLeft => cases h; exact back
  | holonomic x f y t =>
      rw [order?] at h
      obtain ⟨share, -, rfl⟩ := Option.map_eq_some_iff.1 h
      exact pushes (fraction_clampUnit share)

end Maneuver

/-! ### Series of actions -/

/-- **A motor that was last told nothing beyond the limits.**  A simulated motor keeps no order; it
holds itself to the free speed of its cartridge. -/
def Motor.Restrained (full : Maxima Float) : Motor Float → Prop
  | bench m => full.Admits (.velocity m.velocity) ∧ full.Admits (.voltage m.voltage)
  | simulated _ => True

theorem Motor.restrained_obey {full : Maxima Float} {o : MotorOrder} (admitted : full.Admits o)
    (now : Nat) {m : Motor Float} (h : m.Restrained full) : (m.obey now o).Restrained full := by
  cases m with
  | simulated m => trivial
  | bench m =>
      cases o with
      | velocity rpm => exact ⟨admitted, h.2⟩
      | voltage millivolts => exact ⟨h.1, admitted⟩

theorem Motor.steady_restrained (full : Maxima Float) : Motor.Steady (Motor.Restrained full) where
  configure now setting m h := by
    cases m with
    | simulated m => trivial
    | bench m => cases setting <;> exact h
  read now m h := by cases m <;> exact h
  reset now m h := by cases m <;> exact h
  place x m h := by cases m <;> exact h

namespace Drive

/-- Whether an action gives a motor an order of its own, past the maneuvers. -/
def Action.isDirect {α : Type} : Action α → Bool
  | .direct .. => true
  | _ => false

theorem admits_of_mem_orders {d : Drive Float} (velocity : d.full.velocity.isNaN = false)
    (voltage : d.full.voltage.isNaN = false) {a : Action Float} (maneuvers : a.isDirect = false)
    {o : MotorOrder} (h : o ∈ d.orders a) : d.full.Admits o := by
  cases a with
  | steer m =>
      obtain ⟨wheel, -, ho⟩ := List.mem_filterMap.1 h
      exact Maneuver.admits velocity voltage ho
  | direct side v => cases maneuvers
  | _ => cases h

theorem admits_of_mem_sent {d : Drive Float} (velocity : d.full.velocity.isNaN = false)
    (voltage : d.full.voltage.isNaN = false) {series : List (Nat × Action Float)}
    (maneuvers : ∀ x ∈ series, x.2.isDirect = false) {o : MotorOrder} (h : o ∈ d.sent series) :
    d.full.Admits o := by
  induction series generalizing d with
  | nil => cases h
  | cons x series ih =>
      rw [List.forall_mem_cons] at maneuvers
      rw [sent, List.mem_append] at h
      have same := d.full_perform x.1 x.2
      rcases h with first | later
      · exact admits_of_mem_orders velocity voltage maneuvers.1 first
      · rw [← same] at velocity voltage ⊢
        exact ih velocity voltage maneuvers.2 later

/-- **Actuator limits.**  Whatever the arguments of the maneuvers, infinite ones and such that are
not numbers among them, a series of actions sends no order beyond the limits, and no motor was last
told anything beyond them unless it was so from the start. -/
theorem sent_within_limits {d : Drive Float} (velocity : d.full.velocity.isNaN = false)
    (voltage : d.full.voltage.isNaN = false) {series : List (Nat × Action Float)}
    (maneuvers : ∀ x ∈ series, x.2.isDirect = false) :
    (∀ o ∈ d.sent series, d.full.Admits o) ∧
      (d.motors.Every (Motor.Restrained d.full) →
        (d.performAll series).motors.Every (Motor.Restrained d.full)) := by
  have admitted : ∀ o ∈ d.sent series, d.full.Admits o := fun o ho =>
    admits_of_mem_sent velocity voltage maneuvers ho
  refine ⟨admitted, fun restrained => ?_⟩
  refine every_performAll (Motor.steady_restrained d.full) restrained ?_
  intro o ho now m hm
  exact Motor.restrained_obey (admitted o ho) now hm

/-- A drive on four bench motors, full voltage the other way round. -/
def crossed : Drive Float where
  motors := .corners (.bench .new) (.bench .new) (.bench .new) (.bench .new)
  sensing := .builtIn
  full := ⟨200, -12000⟩

/-- Maneuvers that ask for too much, and for what is not a number. -/
def overdone : List (Nat × Action Float) :=
  [(0, .steer (.vector (1 / 0) (0 / 0))), (1, .steer (.vector (-3) 0.5)),
    (2, .steer (.tank 2 (-0.25) (0 / 0))), (3, .configure (.brakeMode .hold)),
    (4, .steer (.strafe (1 / 0))), (5, .steer (.holonomic 1 1 1 0))]

theorem sent_within_limits_of_overdone :
    (crossed.full.velocity.isNaN = false ∧ crossed.full.voltage.isNaN = false ∧
      ∀ x ∈ overdone, x.2.isDirect = false) ∧
      crossed.sent overdone =
        [.velocity 0, .velocity 0, .velocity 0, .velocity 0,
          .velocity (-66), .velocity (-200), .velocity (-200), .velocity (-66),
          .voltage (-12000), .voltage 3000, .voltage 3000, .voltage (-12000),
          .velocity 200, .velocity (-200), .velocity 200, .velocity (-200),
          .voltage (-12000), .voltage 12000, .voltage (-12000), .voltage (-12000)] ∧
      (∀ o ∈ crossed.sent overdone, crossed.full.Admits o) ∧
        (crossed.motors.Every (Motor.Restrained crossed.full) →
          (crossed.performAll overdone).motors.Every (Motor.Restrained crossed.full)) := by
  have velocity : crossed.full.velocity.isNaN = false := by decide +kernel
  have voltage : crossed.full.voltage.isNaN = false := by decide +kernel
  have maneuvers : ∀ x ∈ overdone, x.2.isDirect = false := by
    intro x hx
    simp only [overdone, List.mem_cons, List.not_mem_nil, or_false] at hx
    rcases hx with rfl | rfl | rfl | rfl | rfl | rfl <;> rfl
  exact ⟨⟨velocity, voltage, maneuvers⟩, by decide +kernel,
    sent_within_limits velocity voltage maneuvers⟩

end Drive

namespace Shared

/-- No order that a controller gives in a run is beyond the limits, whatever its loops put out. -/
theorem commands_within_limits {s : Shared Float} (velocity : s.drive.full.velocity.isNaN = false)
    (voltage : s.drive.full.voltage.isNaN = false) {run : List (Event Float)}
    (possible : Possible s run) :
    ∀ c ∈ commands s run, ∀ wheel o, c.2 wheel = some o → s.drive.full.Admits o := by
  refine Possible.invariant
    (P := fun past _ => ∀ c ∈ commands s past, ∀ wheel o, c.2 wheel = some o →
      s.drive.full.Admits o) nofun ?_ possible
  intro past e before _ ih
  refine forall_mem_trace_cons.2 ⟨fun order shown wheel o ho => ?_, ih⟩
  obtain ⟨m, -, rfl⟩ := Option.map_eq_some_iff.1 shown
  rw [full_replay before] at ho
  exact Maneuver.admits velocity voltage ho

end Shared

end Drivetrain
