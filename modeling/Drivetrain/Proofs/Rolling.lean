/-
Two simulated motors that roll alike, over exact numbers.

A motor on each side, of the same cartridge, whose encoders stand alike: whatever the controller
asks of both they go on alike, and what the sensors read is one position without its fraction.

Main definitions:

* `Drivetrain.SimulatedMotor.Stands`, `Drivetrain.SimulatedMotor.Rolls` — where the encoder of a
  motor stands at an instant, and how fast it goes on;
* `Drivetrain.SimulatedMotor.pull` — how fast a motor turns for a velocity order;
* `Drivetrain.Shared.Twin` — whether both sides of a drive have motors of one kind;
* `Drivetrain.Shared.odometer` — the whole position of the left side, before it is read.

Main results:

* `Drivetrain.Scalar.truncate_sub_lt` — dropping fractions lengthens a way **by less than one**;
* `Drivetrain.SimulatedMotor.pull_command_of_nonneg`,
  `Drivetrain.SimulatedMotor.pull_command_of_nonpos` — a motor never turns faster than it is asked
  to, and not the other way;
* `Drivetrain.Shared.Twin.pass`, `Drivetrain.Shared.Twin.sense`, `Drivetrain.Shared.Twin.steer` —
  what time, a reading and a maneuver straight ahead make of two motors that roll alike.
-/

import Drivetrain.Proofs.Commands
import Drivetrain.Proofs.Exact

set_option relaxedAutoImplicit false
set_option autoImplicit false

namespace Drivetrain

open Scalar (ofInt truncate)

/-! ### Dropping fractions -/

namespace Scalar

variable {x y : ℝ}

theorem truncate_intCast (n : ℤ) : truncate (n : ℝ) = n := by
  rcases le_total 0 (n : ℝ) with h | h
  · rw [truncate_of_nonneg h, Int.floor_intCast]
  · rw [truncate_of_nonpos h, Int.ceil_intCast]

theorem truncate_mono (h : x ≤ y) : truncate x ≤ truncate y := by
  rcases le_total 0 x with hx | hx
  · rw [truncate_of_nonneg hx, truncate_of_nonneg (hx.trans h)]
    exact Int.floor_le_floor h
  · rcases le_total 0 y with hy | hy
    · rw [truncate_of_nonpos hx, truncate_of_nonneg hy]
      exact (Int.ceil_nonpos.2 hx).trans (Int.floor_nonneg.2 hy)
    · rw [truncate_of_nonpos hx, truncate_of_nonpos hy]
      exact Int.ceil_le_ceil h

theorem truncate_le (h : 0 ≤ x) : 0 ≤ truncate x ∧ (truncate x : ℝ) ≤ x := by
  rw [truncate_of_nonneg h]
  exact ⟨Int.floor_nonneg.2 h, Int.floor_le x⟩

theorem le_truncate (h : x ≤ 0) : truncate x ≤ 0 ∧ x ≤ (truncate x : ℝ) := by
  rw [truncate_of_nonpos h]
  exact ⟨Int.ceil_nonpos.2 h, Int.le_ceil x⟩

/-- **Dropping fractions lengthens a way by less than one**, also over zero. -/
theorem truncate_sub_lt (h : x ≤ y) : (truncate y : ℝ) - truncate x < y - x + 1 := by
  rcases le_total 0 x with hx | hx
  · rw [truncate_of_nonneg hx, truncate_of_nonneg (hx.trans h)]
    linarith [Int.floor_le y, Int.lt_floor_add_one x]
  · rcases le_total 0 y with hy | hy
    · -- on its way over zero the fractions make it shorter
      linarith [(le_truncate hx).2, (truncate_le hy).2]
    · rw [truncate_of_nonpos hx, truncate_of_nonpos hy]
      linarith [Int.ceil_lt_add_one y, Int.le_ceil x]

end Scalar

/-! ### Orders -/

theorem toInt_ofIntClamp (n : ℤ) :
    (Int16.ofIntClamp n).toInt = max (-32768) (min 32767 n) := by
  have least : Int16.minValue.toInt = -32768 := by decide
  have most : Int16.maxValue.toInt = 32767 := by decide
  rw [Int16.ofIntClamp]
  split
  · split
    · rw [Int16.toInt_ofIntLE]
      omega
    · omega
  · omega

namespace Gearset

theorem freeSpeed_nonneg (g : Gearset) : (0 : ℝ) ≤ g.freeSpeed := by
  cases g <;> norm_num [freeSpeed]

end Gearset

namespace SimulatedMotor

/-- **How fast a motor turns for a velocity order**, in degrees a second. -/
noncomputable def pull (g : Gearset) (rpm : Int16) : ℝ :=
  Range.clamp ⟨-g.freeSpeed, g.freeSpeed⟩ (ofInt rpm.toInt) * ofInt 6

theorem pull_eq (g : Gearset) (rpm : Int16) :
    pull g rpm = max (-g.freeSpeed) (min g.freeSpeed (rpm.toInt : ℝ)) * 6 := by
  have free := g.freeSpeed_nonneg
  rw [pull, Range.clamp_real (by dsimp only; linarith)]
  norm_num

/-- Asked to go on, a motor goes no faster than it is asked to, and not back. -/
theorem pull_command_of_nonneg (g : Gearset) {fraction full : ℝ} (h : 0 ≤ fraction * full) :
    0 ≤ pull g (Mixing.command fraction full) ∧
      pull g (Mixing.command fraction full) ≤ fraction * full * 6 := by
  obtain ⟨whole, less⟩ := Scalar.truncate_le h
  have held := toInt_ofIntClamp (truncate (fraction * full))
  have low : (0 : ℝ) ≤ ((Mixing.command fraction full).toInt : ℝ) := by
    rw [Mixing.command, held]
    exact_mod_cast (by omega : 0 ≤ max (-32768) (min 32767 (truncate (fraction * full))))
  have high : ((Mixing.command fraction full).toInt : ℝ) ≤ fraction * full := by
    refine le_trans (Int.cast_le.2 ?_) less
    rw [Mixing.command, held]
    omega
  have free := g.freeSpeed_nonneg
  rw [pull_eq, max_eq_right (by linarith [le_min free low])]
  have slower := min_le_right g.freeSpeed ((Mixing.command fraction full).toInt : ℝ)
  exact ⟨by linarith [le_min free low], by linarith⟩

/-- Asked to go back, it goes no faster than it is asked to, and not on. -/
theorem pull_command_of_nonpos (g : Gearset) {fraction full : ℝ} (h : fraction * full ≤ 0) :
    pull g (Mixing.command fraction full) ≤ 0 ∧
      fraction * full * 6 ≤ pull g (Mixing.command fraction full) := by
  obtain ⟨whole, less⟩ := Scalar.le_truncate h
  have held := toInt_ofIntClamp (truncate (fraction * full))
  have high : ((Mixing.command fraction full).toInt : ℝ) ≤ 0 := by
    rw [Mixing.command, held]
    exact_mod_cast (by omega : max (-32768) (min 32767 (truncate (fraction * full))) ≤ 0)
  have low : fraction * full ≤ ((Mixing.command fraction full).toInt : ℝ) := by
    refine less.trans (Int.cast_le.2 ?_)
    rw [Mixing.command, held]
    omega
  have free := g.freeSpeed_nonneg
  rw [pull_eq, min_eq_right (high.trans free)]
  have slower := le_max_right (-g.freeSpeed) ((Mixing.command fraction full).toInt : ℝ)
  exact ⟨by linarith [max_le (neg_nonpos.2 free) high], by linarith⟩

/-! ### Motors that roll -/

variable {m : SimulatedMotor ℝ} {g : Gearset} {now : Nat} {q v : ℝ}

/-- **Where the encoder of a motor stands** at an instant, in degrees. -/
structure Stands (m : SimulatedMotor ℝ) (g : Gearset) (now : Nat) (q : ℝ) : Prop where
  gearset : m.gearset = g
  units : m.units = .degrees
  turned : (m.advance now).turned = q

/-- **How a motor goes on** from where it stands. -/
structure Rolls (m : SimulatedMotor ℝ) (g : Gearset) (now : Nat) (q v : ℝ) : Prop
    extends Stands m g now q where
  speed : m.speed = v
  updated : m.updatedAt ≤ now

theorem Stands.read (h : m.Stands g now q) : (m.read now).1 = q := by
  have units : (m.advance now).units = .degrees := h.units
  rw [SimulatedMotor.read, inUnits, units]
  exact h.turned

/-- A motor that obeys an order turns by it from now on. -/
theorem Stands.obey (h : m.Stands g now q) (rpm : Int16) :
    (m.obey now (.velocity rpm)).Rolls g now q (pull g rpm) := by
  have free : (m.advance now).gearset = g := h.gearset
  refine ⟨⟨h.gearset, h.units, ?_⟩, ?_, le_rfl⟩
  · have turned := h.turned
    simp only [SimulatedMotor.turned, advance, SimulatedMotor.obey, turnAt, Nat.sub_self,
      Time.toSeconds_real] at turned ⊢
    simpa using turned
  · rw [SimulatedMotor.obey, turnAt, free]
    rfl

theorem Rolls.advance (h : m.Rolls g now q v) : (m.advance now).Rolls g now q v := by
  refine ⟨⟨h.gearset, h.units, ?_⟩, h.speed, le_rfl⟩
  have turned := h.turned
  simp only [SimulatedMotor.turned, SimulatedMotor.advance, Nat.sub_self, Time.toSeconds_real]
    at turned ⊢
  simpa using turned

theorem Rolls.pass (h : m.Rolls g now q v) (d : Nat) :
    m.Rolls g (now + d) (q + v * Time.toSeconds d) v := by
  refine ⟨⟨h.gearset, h.units, ?_⟩, h.speed, h.updated.trans (Nat.le_add_right ..)⟩
  have turned := h.turned
  have longer : ((now + d - m.updatedAt : ℕ) : ℝ) = (now - m.updatedAt : ℕ) + d := by
    have := h.updated
    exact_mod_cast (by omega : now + d - m.updatedAt = now - m.updatedAt + d)
  simp only [SimulatedMotor.turned, SimulatedMotor.advance, Time.toSeconds_real, h.speed, longer]
    at turned ⊢
  rw [← turned]
  ring

end SimulatedMotor

/-! ### Straight ahead -/

namespace Mixing

theorem clampUnit_real (x : ℝ) : clampUnit x = max (-1) (min 1 x) :=
  Range.clamp_real (by simp only [Range.unit]; norm_num) x

theorem clampUnit_clampUnit (x : ℝ) : clampUnit (clampUnit x) = clampUnit x := by
  simp only [clampUnit_real]
  rw [min_eq_right (max_le (by norm_num) (min_le_left ..)), max_eq_right (le_max_left ..)]

/-- Without yaw both sides get the clamped speed. -/
theorem vector_ahead (x : ℝ) : vector x 0 = ⟨clampUnit x, clampUnit x⟩ := by
  have still : clampUnit (0 : ℝ) = 0 := by
    rw [clampUnit_real]
    norm_num
  have unit : |clampUnit x| ≤ 1 := by
    rw [clampUnit_real, abs_le]
    exact ⟨le_max_left .., max_le (by norm_num) (min_le_left ..)⟩
  simp [vector, still, Scalar.larger_real, not_lt.2 unit]

end Mixing

namespace Shared

/-! ### Twin motors -/

/-- **Whether both sides of a drive have motors of one kind**, simulated and read by their own
encoders. -/
structure Twin (s : Shared ℝ) (P : SimulatedMotor ℝ → Prop) : Prop where
  sensing : s.drive.sensing = .builtIn
  motors : ∃ l r, s.drive.motors = .pair (.simulated l) (.simulated r) ∧ P l ∧ P r

/-- The readings of both sides. -/
noncomputable def sensed (s : Shared ℝ) : Readings := (s.drive.sense s.now).1

/-- **The whole position of the left side**, before it is held inside thirty-two bits. -/
noncomputable def odometer (s : Shared ℝ) : ℤ :=
  truncate (s.drive.motors.leads.left.read s.now).1

namespace Twin

variable {s : Shared ℝ} {g : Gearset} {q v : ℝ}

theorem imp {P Q : SimulatedMotor ℝ → Prop} (h : s.Twin P) (weaker : ∀ m, P m → Q m) :
    s.Twin Q := by
  obtain ⟨sensing, l, r, motors, hl, hr⟩ := h
  exact ⟨sensing, l, r, motors, weaker l hl, weaker r hr⟩

theorem stands (h : s.Twin (·.Rolls g s.now q v)) : s.Twin (·.Stands g s.now q) :=
  h.imp fun _ hm => hm.toStands

theorem odometer (h : s.Twin (·.Stands g s.now q)) : s.odometer = truncate q := by
  obtain ⟨-, l, r, motors, hl, -⟩ := h
  rw [Shared.odometer, motors]
  exact congrArg truncate hl.read

theorem sensed (h : s.Twin (·.Stands g s.now q)) :
    s.sensed = ⟨Drive.wholeReading q, Drive.wholeReading q⟩ := by
  obtain ⟨sensing, l, r, motors, hl, hr⟩ := h
  simp only [Shared.sensed, Drive.sense, sensing, motors, Wheels.leads, Sides.map, Motor.read,
    hl.read, hr.read]

theorem pass (h : s.Twin (·.Rolls g s.now q v)) (d : Nat) :
    (s.after (.pass d)).Twin (·.Rolls g (s.now + d) (q + v * Time.toSeconds d) v) := by
  obtain ⟨sensing, l, r, motors, hl, hr⟩ := h
  exact ⟨sensing, l, r, motors, hl.pass d, hr.pass d⟩

/-- A reading brings the shafts up to date, and no more. -/
theorem sense (h : s.Twin (·.Rolls g s.now q v)) :
    (s.after (.act .sense)).Twin (·.Rolls g s.now q v) := by
  obtain ⟨sensing, l, r, motors, hl, hr⟩ := h
  refine ⟨?_, l.advance s.now, r.advance s.now, ?_, hl.advance, hr.advance⟩
  · simp only [after, Drive.perform, Drive.sense, sensing]
  · simp only [after, Drive.perform, Drive.sense, sensing, motors, Wheels.leads, Sides.map,
      Motor.read, Wheels.setLeads]
    rfl

/-- **Straight ahead both motors go on alike.** -/
theorem steer (h : s.Twin (·.Stands g s.now q)) (x : ℝ) :
    (s.steer (some (.vector x 0))).Twin
      (·.Rolls g s.now q
        (SimulatedMotor.pull g (Mixing.command (Mixing.clampUnit x) s.drive.full.velocity))) := by
  obtain ⟨sensing, l, r, motors, hl, hr⟩ := h
  refine ⟨sensing, _, _, ?_, hl.obey _, hr.obey _⟩
  simp only [Shared.steer, Drive.steer, motors, Wheels.map, Maneuver.order?, Mixing.vector_ahead,
    Maxima.velocityOrder, Motor.obey, Sides.on, Wheel.side]

end Twin

end Shared

end Drivetrain
