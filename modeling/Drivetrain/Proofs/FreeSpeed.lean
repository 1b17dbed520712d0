/-
Free speed: how fast a simulated shaft turns, and on which cartridge.

A motor holds every order to the free speed of its cartridge.  It does so when the order comes, and
not again: another cartridge leaves the shaft turning as it does.  So what bounds the speed is the
cartridge that the last order came to, and a slower one that was installed since is outrun until the
next order.

Main definitions:

* `Drivetrain.SimulatedMotor.orderedGearset` — the cartridge that the last order of a history came
  to;
* `Drivetrain.SimulatedMotor.Held` — the shaft turns within the free speed of the cartridge.

Main results:

* `Drivetrain.SimulatedMotor.abs_velocity_obey_le` — an order is held to the free speed, whatever is
  rounded on the way;
* `Drivetrain.SimulatedMotor.abs_velocity_replay_le` — so is the speed after any history, to that of
  the cartridge that the last order came to;
* `Drivetrain.SimulatedMotor.held_unless_regeared` — only a slower cartridge is outrun, and no longer
  than until the next order;
* `Drivetrain.SimulatedMotor.outruns_cartridge` — it is outrun indeed.
-/

import Drivetrain.Proofs.Magnitude
import Drivetrain.Proofs.Shafts

set_option relaxedAutoImplicit false
set_option autoImplicit false

namespace Drivetrain

open Scalar (ofInt)
open Machine (value?)

/-- A free speed is a whole number of turns per minute. -/
theorem Gearset.exists_freeSpeed (g : Gearset) :
    ∃ n : ℤ, (0 < n ∧ n ≤ 600) ∧ value? (g.freeSpeed : Float) = some (n : ℚ) := by
  have whole : ∀ n : ℤ, 0 < n ∧ n ≤ 600 → value? (ofInt n : Float) = some (n : ℚ) := fun n h =>
    Machine.value?_ofInt (by omega)
  cases g with
  | red => exact ⟨100, by decide, whole 100 (by decide)⟩
  | green => exact ⟨200, by decide, whole 200 (by decide)⟩
  | blue => exact ⟨600, by decide, whole 600 (by decide)⟩

namespace SimulatedMotor

/-- The cartridge that the last order of a history came to; a motor without orders stands still on
the one it had. -/
def orderedGearset {α : Type} (g : Gearset) : History α → Gearset
  | [] => g
  | (_, .obey _) :: past => gearsetIn g past
  | _ :: past => orderedGearset g past

/-- **A shaft that turns within the free speed of the cartridge.** -/
def Held (m : SimulatedMotor Float) : Prop := Float.abs m.velocity ≤ m.gearset.freeSpeed

/-! ### Orders -/

/-- **A new speed is held to the free speed**: six degrees are taken for a turn and taken back, and
neither is rounded past a whole number. -/
theorem abs_velocity_turnAt_le (m : SimulatedMotor Float) (now : ℕ) {rpm : Float}
    (number : rpm.isNaN = false) : Float.abs (m.turnAt now rpm).velocity ≤ m.gearset.freeSpeed := by
  obtain ⟨n, ⟨positive, small⟩, free⟩ := m.gearset.exists_freeSpeed
  have above : (0 : ℚ) < n := by exact_mod_cast positive
  have six : value? (ofInt 6 : Float) = some (6 : ℚ) := Machine.value?_ofInt (n := 6) (by decide)
  obtain ⟨a, clamped, low, high⟩ := Machine.exists_value?_clamp
    (r := ⟨-m.gearset.freeSpeed, m.gearset.freeSpeed⟩) (Machine.value?_neg free) free
    (by linarith) number
  have sign : |(6 : ℚ)| = 6 := abs_of_pos (by norm_num)
  -- the bound, in degrees a second, is a whole number too
  have sixfold : Machine.Representable (n * 6) := by
    exact_mod_cast Machine.representable_int (n := n * 6) (by omega)
  have within : |a * 6| ≤ n * 6 := by
    rw [abs_mul, sign]
    exact mul_le_mul_of_nonneg_right (abs_le.2 ⟨low, high⟩) (by norm_num)
  obtain ⟨b, speed, fast⟩ :=
    Machine.value?_mul_within clamped six (by positivity) sixfold within
  obtain ⟨c, turns, le⟩ := Machine.value?_div_within speed six (by norm_num) above
    (Machine.representable_int (by omega)) (by rwa [sign])
  exact (Machine.le_of_value? (Machine.value?_abs turns) free).2 le

theorem isNaN_ofInt (v : Int16) : (ofInt v.toInt : Float).isNaN = false := by
  have low := v.le_toInt
  have high := v.toInt_lt
  exact (Machine.holds_of_value? (Machine.value?_ofInt (by omega))).isNaN

/-- **An order is held to the free speed of the cartridge.** -/
theorem abs_velocity_obey_le (m : SimulatedMotor Float) (now : ℕ) (order : MotorOrder) :
    Float.abs (m.obey now order).velocity ≤ m.gearset.freeSpeed := by
  cases order with
  | velocity rpm => exact abs_velocity_turnAt_le m now (isNaN_ofInt rpm)
  | voltage millivolts =>
      obtain ⟨n, ⟨positive, -⟩, free⟩ := m.gearset.exists_freeSpeed
      have nominal : value? (nominalVoltage : Float) = some (12000 : ℚ) :=
        Machine.value?_ofInt (n := 12000) (by decide)
      refine abs_velocity_turnAt_le m now ?_
      have share := Machine.isNaN_div (x := ofInt millivolts.toInt) nominal (by norm_num)
      have product := Machine.isNaN_mul (x := ofInt millivolts.toInt / nominalVoltage) free
        (by exact_mod_cast positive.ne')
      exact product.trans (share.trans (isNaN_ofInt millivolts))

theorem held_obey (m : SimulatedMotor Float) (now : ℕ) (order : MotorOrder) :
    (m.obey now order).Held := by
  have gearset : (m.obey now order).gearset = m.gearset := by cases order <;> rfl
  rw [Held, gearset]
  exact abs_velocity_obey_le m now order

/-! ### Histories -/

/-- **After any history** the speed is within the free speed of the cartridge that the last order
came to. -/
theorem abs_velocity_replay_le (g : Gearset) (start : ℕ) (past : History Float) :
    Float.abs ((new g start).replay past).velocity ≤ (orderedGearset g past).freeSpeed := by
  induction past with
  | nil =>
      have rest : Float.abs (0 / ofInt 6 : Float) ≤ g.freeSpeed := by
        cases g <;> decide +kernel
      exact rest
  | cons x past ih =>
      obtain ⟨now, o⟩ := x
      cases o with
      | obey order =>
          rw [replay, orderedGearset, ← (configured_replay g start past).gearset]
          exact abs_velocity_obey_le _ now order
      | configure setting => cases setting <;> exact ih
      | reset => exact ih
      | ask query => cases query <;> exact ih

/-- **A step that loses the hold** installs a cartridge that is slower than the shaft. -/
theorem held_after_iff {m : SimulatedMotor Float} (h : m.Held) (now : ℕ) (o : Operation Float) :
    ¬ (m.after now o).Held ↔
      ∃ g, o = .configure (.gearset g) ∧ g.freeSpeed < Float.abs m.velocity := by
  have kept : (m.after now o).Held → (∀ g, o ≠ .configure (.gearset g)) →
      (¬ (m.after now o).Held ↔
        ∃ g, o = .configure (.gearset g) ∧ g.freeSpeed < Float.abs m.velocity) :=
    fun held other => iff_of_false (not_not_intro held) fun ⟨g, same, _⟩ => other g same
  cases o with
  | obey order => exact kept (held_obey m now order) nofun
  | configure setting =>
      cases setting with
      | gearset g =>
          obtain ⟨n, -, free⟩ := g.exists_freeSpeed
          have outrun := Machine.not_lt (x := g.freeSpeed) (y := Float.abs m.velocity)
            (Machine.holds_of_value? free).isNaN (Machine.isNaN_of_le_left h)
          refine (not_congr outrun.symm).trans (not_not.trans ⟨fun lt => ⟨g, rfl, lt⟩, ?_⟩)
          rintro ⟨_, ⟨⟩, lt⟩
          exact lt
      | _ => exact kept h nofun
  | reset => exact kept h nofun
  | ask query => cases query <;> exact kept h nofun

/-- **Only a slower cartridge is outrun.**  After any history the speed is within the free speed of
the cartridge that the last order came to, and so of any that is as fast.  Every order brings it
within that of the present one, and from there nothing else leads out but to install one that is
slower than the shaft. -/
theorem held_unless_regeared (g : Gearset) (start : ℕ) (past : History Float) :
    let m : SimulatedMotor Float := (new g start).replay past
    Float.abs m.velocity ≤ (orderedGearset g past).freeSpeed ∧
      ((orderedGearset g past).freeSpeed ≤ (m.gearset.freeSpeed : Float) → m.Held) ∧
      (∀ now order, (m.obey now order).Held) ∧
      ∀ now o, m.Held → (¬ (m.after now o).Held ↔
        ∃ g, o = .configure (.gearset g) ∧ g.freeSpeed < Float.abs m.velocity) := by
  intro m
  have bound := abs_velocity_replay_le g start past
  exact ⟨bound, Machine.le_trans bound, held_obey m, fun now o h => held_after_iff h now o⟩

/-- A motor that is ordered to turn faster than it can, and then given a faster cartridge. -/
def upgeared : History Float :=
  [(1, .configure (.gearset .blue)), (0, .obey (.velocity 600))]

theorem held_unless_regeared_of_upgeared :
    let m : SimulatedMotor Float := (new .green 0).replay upgeared
    (m.velocity == 200) = true ∧ m.Held ∧ (m.after 2 (.configure (.gearset .green))).Held ∧
      ¬ (m.after 2 (.configure (.gearset .red))).Held := by
  obtain ⟨-, asFast, -, loses⟩ := held_unless_regeared .green 0 upgeared
  have held := asFast (by decide +kernel)
  refine ⟨by decide +kernel, held, ?_, (loses 2 _ held).2 ⟨.red, rfl, by decide +kernel⟩⟩
  by_contra lost
  obtain ⟨_, ⟨⟩, slower⟩ := (loses 2 _ held).1 lost
  revert slower
  decide +kernel

/-- **The slower cartridge is outrun**: six hundred turns per minute on one that turns a hundred. -/
theorem outruns_cartridge :
    let m : SimulatedMotor Float :=
      (new .blue 0).replay [(0, .configure (.gearset .red)), (0, .obey (.velocity 600))]
    (m.velocity == 600) = true ∧ m.gearset = .red ∧ ¬ m.Held := by
  refine ⟨by decide +kernel, rfl, ?_⟩
  rw [Held]
  decide +kernel

end SimulatedMotor

end Drivetrain
