/-
Shafts: where a simulated motor stands after whatever was done to it, over exact numbers.

A simulated motor brings its shaft up to date now and then, at some of the things that are done to it
and not at others.  None of this shows.  Its position is that of a shaft which always turned at the
speed in force, and its encoder answers how far that shaft is from where the encoder last took its
zero.  Both are read off the history of the motor, which says what was done and when, and does not
know when the motor was brought up to date.

Main definitions:

* `Drivetrain.SimulatedMotor.Operation`, `Drivetrain.SimulatedMotor.replay` — what can be done to a
  motor, and the motor after a history, which is listed with the newest operation first;
* `Drivetrain.SimulatedMotor.speedIn` — the speed in force after a history, in turns per minute;
* `Drivetrain.SimulatedMotor.stretches`, `Drivetrain.SimulatedMotor.turnedIn` — the intervals of a
  history, each with the speed in force, and how far a shaft turns over all of them;
* `Drivetrain.SimulatedMotor.zeroIn` — where the encoder last took its zero;
* `Drivetrain.SimulatedMotor.changes` — a history without what was only asked.

Main results:

* `Drivetrain.SimulatedMotor.configured_replay` — a new motor has the settings of its history;
* `Drivetrain.SimulatedMotor.turnedIn_pass` — time that passes turns the shaft by the speed in force;
* `Drivetrain.SimulatedMotor.follows_replay` — a new motor **follows its history**;
* `Drivetrain.SimulatedMotor.answers_as_told` — every answer is read off the history, and what was
  asked before does not change it.
-/

import Mathlib.Analysis.Real.Pi.Bounds
import Drivetrain.Proofs.Rolling

set_option relaxedAutoImplicit false
set_option autoImplicit false

namespace Drivetrain

open Scalar (ofInt)

namespace SimulatedMotor

/-! ### Histories -/

/-- **What can be asked of a motor**, which tells it nothing. -/
inductive Query where
  /-- What the encoder reads. -/
  | reading
  /-- The true position of the shaft. -/
  | position
  | velocity
  deriving Repr, DecidableEq

/-- **What can be done to a motor.** -/
inductive Operation (α : Type) where
  | obey (order : MotorOrder)
  | configure (setting : MotorSetting α)
  /-- The encoder takes the present position for its zero. -/
  | reset
  | ask (query : Query)

/-- Whether an operation does more than ask. -/
def Operation.isChange {α : Type} : Operation α → Bool
  | ask _ => false
  | _ => true

/-- **What was done to a motor**, each at its instant, the newest first. -/
abbrev History (α : Type) : Type := List (Nat × Operation α)

section

variable {α : Type}

/-- The operations of a history come one after the other, from an instant on and up to another. -/
def InOrder (start : Nat) : History α → Nat → Prop
  | [], now => start ≤ now
  | (at', _) :: past, now => at' ≤ now ∧ InOrder start past at'

/-- **A history without what was only asked.** -/
def changes (past : History α) : History α := past.filter fun x => x.2.isChange

/-- The cartridge that a history installed last, on a motor that had one before. -/
def gearsetIn (g : Gearset) : History α → Gearset
  | [] => g
  | (_, .configure (.gearset new)) :: _ => new
  | _ :: past => gearsetIn g past

/-- The units that a history set last. -/
def unitsIn : History α → EncoderUnits
  | [] => .degrees
  | (_, .configure (.encoderUnits new)) :: _ => new
  | _ :: past => unitsIn past

variable [Scalar α]

/-- The answer to a question, and the motor after it. -/
def ask (m : SimulatedMotor α) (now : Nat) : Query → α × SimulatedMotor α
  | .reading => m.read now
  | .position => m.locate now
  | .velocity => (m.velocity, m)

/-- The motor after an operation. -/
def after (m : SimulatedMotor α) (now : Nat) : Operation α → SimulatedMotor α
  | .obey order => m.obey now order
  | .configure setting => m.configure now setting
  | .reset => m.reset now
  | .ask query => (m.ask now query).2

/-- **The motor after a history.** -/
def replay (m : SimulatedMotor α) : History α → SimulatedMotor α
  | [] => m
  | (now, o) :: past => (m.replay past).after now o

/-- **A motor that has the settings of a history**, on a motor that had a cartridge before. -/
structure Configured (g : Gearset) (past : History α) (m : SimulatedMotor α) : Prop where
  gearset : m.gearset = gearsetIn g past
  units : m.units = unitsIn past

theorem Configured.after {g : Gearset} {past : History α} {m : SimulatedMotor α}
    (h : Configured g past m) (now : Nat) (o : Operation α) :
    Configured g ((now, o) :: past) (m.after now o) := by
  cases o with
  | obey order => cases order <;> exact { h with }
  | configure setting =>
      cases setting with
      | gearset new => exact { h with gearset := rfl }
      | encoderUnits new => exact { h with units := rfl }
      | _ => exact { h with }
  | reset => exact { h with }
  | ask query => cases query <;> exact { h with }

/-- **A new motor has the settings of its history.** -/
theorem configured_replay (g : Gearset) (start : Nat) (past : History α) :
    Configured g past ((new g start).replay past) := by
  induction past with
  | nil => exact ⟨rfl, rfl⟩
  | cons x past ih => exact ih.after x.1 x.2

end

/-! ### Stretches of a history -/

/-- **The speed for an order**, in turns per minute, within the free speed of a cartridge. -/
noncomputable def speedFor (g : Gearset) : MotorOrder → ℝ
  | .velocity rpm => max (-g.freeSpeed) (min g.freeSpeed rpm.toInt)
  | .voltage millivolts =>
      max (-g.freeSpeed) (min g.freeSpeed (millivolts.toInt / (12000 : ℕ) * g.freeSpeed))

/-- **The speed in force** after a history, in turns per minute: that for the last order, on the
cartridge of its time. -/
noncomputable def speedIn (g : Gearset) : History ℝ → ℝ
  | [] => 0
  | (_, .obey order) :: past => speedFor (gearsetIn g past) order
  | _ :: past => speedIn g past

/-- An interval of time with the speed in force. -/
structure Stretch where
  /-- Turns per minute. -/
  speed : ℝ
  seconds : ℝ

/-- How far a shaft turns, in degrees: six a second for each turn per minute. -/
noncomputable def Stretch.degrees (s : Stretch) : ℝ := s.speed * 6 * s.seconds

/-- The seconds between two instants. -/
noncomputable def secondsBetween (before now : ℕ) : ℝ := ((now : ℝ) - before) / 1000000000

/-- **The intervals of a history** up to an instant, the newest first. -/
noncomputable def stretches (g : Gearset) (start now : ℕ) : History ℝ → List Stretch
  | [] => [⟨speedIn g [], secondsBetween start now⟩]
  | (before, o) :: past =>
      ⟨speedIn g ((before, o) :: past), secondsBetween before now⟩ :: stretches g start before past

/-- **How far a shaft turned** in a history up to an instant, in degrees. -/
noncomputable def turnedIn (g : Gearset) (start now : ℕ) (past : History ℝ) : ℝ :=
  ((stretches g start now past).map Stretch.degrees).sum

/-- **Where the encoder last took its zero.** -/
noncomputable def zeroIn (g : Gearset) (start : ℕ) : History ℝ → ℝ
  | [] => 0
  | (now, .reset) :: past => turnedIn g start now past
  | _ :: past => zeroIn g start past

/-- An angle in the units of an encoder, on a motor with a cartridge. -/
noncomputable def converted (g : Gearset) (degrees : ℝ) : EncoderUnits → ℝ
  | .degrees => degrees
  | .rotations => degrees / (360 : ℕ)
  | .counts => degrees / (360 : ℕ) * g.countsPerTurn

variable {g : Gearset} {start now : ℕ} {past : History ℝ}

theorem turnedIn_nil (g : Gearset) (start now : ℕ) : turnedIn g start now [] = 0 := by
  simp [turnedIn, stretches, speedIn, Stretch.degrees]

theorem turnedIn_cons (g : Gearset) (start now before : ℕ) (o : Operation ℝ) (past : History ℝ) :
    turnedIn g start now ((before, o) :: past) =
      speedIn g ((before, o) :: past) * 6 * secondsBetween before now +
        turnedIn g start before past := by
  rw [turnedIn, stretches, List.map_cons, List.sum_cons]
  rfl

/-- **Time that passes turns the shaft by the speed in force.** -/
theorem turnedIn_pass (g : Gearset) (start now later : ℕ) (past : History ℝ) :
    turnedIn g start later past =
      turnedIn g start now past + speedIn g past * 6 * secondsBetween now later := by
  cases past with
  | nil => simp [turnedIn_nil, speedIn]
  | cons x past =>
      obtain ⟨before, o⟩ := x
      rw [turnedIn_cons, turnedIn_cons, secondsBetween, secondsBetween, secondsBetween]
      ring

/-- What leaves the speed alone does not show in how far the shaft turned. -/
theorem turnedIn_cons_of_speedIn_eq {before : ℕ} {o : Operation ℝ}
    (same : speedIn g ((before, o) :: past) = speedIn g past) :
    turnedIn g start now ((before, o) :: past) = turnedIn g start now past := by
  rw [turnedIn_cons, same, turnedIn_pass g start before now past, add_comm]

/-! ### A motor that follows its history -/

/-- **A motor that follows a history**: brought up to date, its shaft is where the history puts it. -/
structure Follows (g : Gearset) (start : ℕ) (past : History ℝ) (m : SimulatedMotor ℝ) : Prop where
  speed : m.speed = speedIn g past * 6
  offset : m.offset = zeroIn g start past
  position : ∀ now,
    m.position + m.speed * secondsBetween m.updatedAt now = turnedIn g start now past

theorem turnAt_eq (m : SimulatedMotor ℝ) (now : ℕ) (rpm : ℝ) :
    m.turnAt now rpm =
      { m.advance now with
        speed := max (-m.gearset.freeSpeed) (min m.gearset.freeSpeed rpm) * 6 } := by
  have free := m.gearset.freeSpeed_nonneg
  have clamped := Range.clamp_real (r := ⟨-m.gearset.freeSpeed, m.gearset.freeSpeed⟩)
    (by dsimp only; linarith) rpm
  have six : (ofInt 6 : ℝ) = 6 := by norm_num
  rw [← six, ← clamped]
  rfl

theorem obey_eq (m : SimulatedMotor ℝ) (now : ℕ) (order : MotorOrder) :
    m.obey now order = { m.advance now with speed := speedFor m.gearset order * 6 } := by
  cases order with
  | velocity rpm => exact turnAt_eq m now _
  | voltage millivolts =>
      have nominal : (nominalVoltage : ℝ) = (12000 : ℕ) := by norm_num [nominalVoltage]
      rw [obey, turnAt_eq, nominal]
      rfl

theorem position_advance (m : SimulatedMotor ℝ) (le : m.updatedAt ≤ now) :
    (m.advance now).position = m.position + m.speed * secondsBetween m.updatedAt now := by
  rw [advance, Time.toSeconds_real, Nat.cast_sub le, secondsBetween]

theorem updatedAt_after_le {m : SimulatedMotor ℝ} (le : m.updatedAt ≤ now) (o : Operation ℝ) :
    (m.after now o).updatedAt ≤ now := by
  cases o with
  | obey order => cases order <;> exact le_rfl
  | configure setting =>
      cases setting with
      | gearset new => exact le_rfl
      | _ => exact le
  | reset => exact le_rfl
  | ask query =>
      cases query with
      | velocity => exact le
      | _ => exact le_rfl

namespace Follows

variable {m : SimulatedMotor ℝ}

theorem new (g : Gearset) (start : ℕ) : Follows g start [] (.new g start) where
  speed := (zero_mul 6).symm
  offset := rfl
  position now := by
    rw [turnedIn_nil]
    simp [SimulatedMotor.new]

theorem position_advance (h : Follows g start past m) (le : m.updatedAt ≤ now) :
    (m.advance now).position = turnedIn g start now past :=
  (SimulatedMotor.position_advance m le).trans (h.position now)

/-- Bringing the shaft up to date does not show. -/
theorem advance (h : Follows g start past m) (le : m.updatedAt ≤ now) :
    Follows g start past (m.advance now) where
  speed := h.speed
  offset := h.offset
  position later := by
    rw [h.position_advance le, turnedIn_pass g start now later past]
    exact congrArg (_ + · * _) h.speed

/-- Nor does what leaves the speed alone show in the position. -/
theorem position_cons (h : Follows g start past m) {before : ℕ} {o : Operation ℝ}
    (same : speedIn g ((before, o) :: past) = speedIn g past) (now : ℕ) :
    m.position + m.speed * secondsBetween m.updatedAt now =
      turnedIn g start now ((before, o) :: past) := by
  rw [turnedIn_cons_of_speedIn_eq same]
  exact h.position now

/-- **A motor follows one more operation.** -/
theorem after (h : Follows g start past m) (configured : Configured g past m)
    (le : m.updatedAt ≤ now) (o : Operation ℝ) :
    Follows g start ((now, o) :: past) (m.after now o) := by
  have up := h.advance le
  cases o with
  | obey order =>
      rw [SimulatedMotor.after, obey_eq, configured.gearset]
      exact
        { up with
          speed := rfl
          position := fun later => by
            rw [turnedIn_cons, add_comm]
            exact congrArg (_ + ·) (h.position_advance le) }
  | configure setting =>
      cases setting with
      | gearset new => exact { up with position := up.position_cons rfl }
      | _ => exact { h with position := h.position_cons rfl }
  | reset =>
      exact { up with offset := h.position_advance le, position := up.position_cons rfl }
  | ask query =>
      cases query with
      | velocity => exact { h with position := h.position_cons rfl }
      | _ => exact { up with position := up.position_cons rfl }

end Follows

/-- **A new motor follows its history**, and is never up to date beyond it. -/
theorem follows_replay (order : InOrder start past now) :
    Follows g start past ((new g start).replay past) ∧
      ((new g start).replay past : SimulatedMotor ℝ).updatedAt ≤ now := by
  induction past generalizing now with
  | nil => exact ⟨.new g start, order⟩
  | cons x past ih =>
      obtain ⟨before, o⟩ := x
      obtain ⟨le, earlier⟩ := order
      obtain ⟨follows, updated⟩ := ih earlier
      exact ⟨follows.after (configured_replay g start past) updated o,
        (updatedAt_after_le updated o).trans le⟩

/-! ### Answers -/

/-- The answer that a history gives to a question. -/
noncomputable def answerIn (g : Gearset) (start now : ℕ) (past : History ℝ) : Query → ℝ
  | .reading =>
      converted (gearsetIn g past) (turnedIn g start now past - zeroIn g start past) (unitsIn past)
  | .position => turnedIn g start now past
  | .velocity => speedIn g past

theorem inUnits_real (m : SimulatedMotor ℝ) (degrees : ℝ) :
    m.inUnits degrees = converted m.gearset degrees m.units := by
  have turn : (ofInt 360 : ℝ) = (360 : ℕ) := by norm_num
  rw [inUnits, turn]
  cases m.units <;> rfl

theorem converted_zero (g : Gearset) (units : EncoderUnits) : converted g 0 units = 0 := by
  cases units <;> simp [converted]

/-- **Every answer is read off the history.** -/
theorem ask_replay (order : InOrder start past now) (query : Query) :
    (((new g start).replay past).ask now query).1 = answerIn g start now past query := by
  obtain ⟨follows, updated⟩ := follows_replay (g := g) order
  have up := follows.advance updated
  have position := follows.position_advance updated
  cases query with
  | reading =>
      have configured : Configured g past (((new g start).replay past).advance now) :=
        { configured_replay g start past with }
      rw [ask, read, inUnits_real, turned, position, up.offset, configured.units,
        configured.gearset]
      rfl
  | position => exact position
  | velocity =>
      have six : (ofInt 6 : ℝ) = 6 := by norm_num
      rw [ask, velocity, follows.speed, six]
      exact mul_div_cancel_right₀ _ (by norm_num)

/-! ### Questions asked before -/

theorem gearsetIn_changes (g : Gearset) (past : History ℝ) :
    gearsetIn g (changes past) = gearsetIn g past := by
  induction past with
  | nil => rfl
  | cons x past ih =>
      obtain ⟨before, o⟩ := x
      cases o with
      | configure setting => cases setting <;> first | rfl | exact ih
      | _ => exact ih

theorem unitsIn_changes (past : History ℝ) : unitsIn (changes past) = unitsIn past := by
  induction past with
  | nil => rfl
  | cons x past ih =>
      obtain ⟨before, o⟩ := x
      cases o with
      | configure setting => cases setting <;> first | rfl | exact ih
      | _ => exact ih

theorem speedIn_changes (g : Gearset) (past : History ℝ) :
    speedIn g (changes past) = speedIn g past := by
  induction past with
  | nil => rfl
  | cons x past ih =>
      obtain ⟨before, o⟩ := x
      cases o with
      | obey order => exact congrArg (speedFor · order) (gearsetIn_changes g past)
      | _ => exact ih

theorem turnedIn_changes (g : Gearset) (start now : ℕ) (past : History ℝ) :
    turnedIn g start now (changes past) = turnedIn g start now past := by
  induction past generalizing now with
  | nil => rfl
  | cons x past ih =>
      obtain ⟨before, o⟩ := x
      cases change : o.isChange with
      | true =>
          have kept : changes ((before, o) :: past) = (before, o) :: changes past :=
            List.filter_cons_of_pos change
          have speed := speedIn_changes g ((before, o) :: past)
          rw [kept] at speed ⊢
          rw [turnedIn_cons, turnedIn_cons, speed, ih]
      | false =>
          cases o with
          | ask query => rw [turnedIn_cons_of_speedIn_eq rfl, ← ih]; rfl
          | _ => cases change

theorem zeroIn_changes (g : Gearset) (start : ℕ) (past : History ℝ) :
    zeroIn g start (changes past) = zeroIn g start past := by
  induction past with
  | nil => rfl
  | cons x past ih =>
      obtain ⟨before, o⟩ := x
      cases o with
      | reset => exact turnedIn_changes g start before past
      | _ => exact ih

/-- **What was only asked before does not change an answer.** -/
theorem answerIn_changes (g : Gearset) (start now : ℕ) (past : History ℝ) (query : Query) :
    answerIn g start now (changes past) query = answerIn g start now past query := by
  cases query with
  | reading =>
      simp only [answerIn, gearsetIn_changes, unitsIn_changes, turnedIn_changes, zeroIn_changes]
  | position => exact turnedIn_changes g start now past
  | velocity => exact speedIn_changes g past

/-! ### The instant of a reset -/

/-- At the instant of a reset the shaft stands where the encoder took its zero, whatever else is done
at that instant. -/
theorem zeroIn_of_reset (g : Gearset) (start : ℕ) (past : History ℝ) {later : History ℝ}
    (same : ∀ x ∈ later, x.1 = now) :
    turnedIn g start now (later ++ (now, .reset) :: past) = turnedIn g start now past ∧
      zeroIn g start (later ++ (now, .reset) :: past) = turnedIn g start now past := by
  have still : ∀ (o : Operation ℝ) (past : History ℝ),
      turnedIn g start now ((now, o) :: past) = turnedIn g start now past := by
    intro o past
    rw [turnedIn_cons, secondsBetween, sub_self, zero_div, mul_zero, zero_add]
  induction later with
  | nil => exact ⟨still _ past, rfl⟩
  | cons x later ih =>
      obtain ⟨at', o⟩ := x
      obtain ⟨rfl, same⟩ := List.forall_mem_cons.1 same
      obtain ⟨turned, zero⟩ := ih same
      refine ⟨(still o _).trans turned, ?_⟩
      cases o with
      | reset => exact turned
      | _ => exact zero

theorem inOrder_append (order : InOrder start past now) {later : History ℝ}
    (same : ∀ x ∈ later, x.1 = now) : InOrder start (later ++ past) now := by
  induction later with
  | nil => exact order
  | cons x later ih =>
      obtain ⟨at', o⟩ := x
      obtain ⟨rfl, same⟩ := List.forall_mem_cons.1 same
      exact ⟨le_rfl, ih same⟩

/-- **Answers as told.**  The position is the sum over the intervals of the history.  The encoder
answers how far that is from where it last took its zero, in the units and on the cartridge of now,
which is nothing at the instant it takes it.  A history that differs only in what was asked gives the
same answers. -/
theorem answers_as_told (g : Gearset) (order : InOrder start past now) :
    let m : SimulatedMotor ℝ := (new g start).replay past
    (m.ask now .position).1 =
        ((stretches g start now past).map fun s => s.speed * 6 * s.seconds).sum ∧
      (m.ask now .velocity).1 = speedIn g past ∧
      (m.ask now .reading).1 =
        converted (gearsetIn g past) (turnedIn g start now past - zeroIn g start past)
          (unitsIn past) ∧
      (∀ later : History ℝ, (∀ x ∈ later, x.1 = now) →
        (((new g start).replay (later ++ (now, .reset) :: past)).ask now .reading).1 = (0 : ℝ)) ∧
      ∀ past' : History ℝ, InOrder start past' now → changes past' = changes past →
        ∀ query, (((new g start).replay past').ask now query).1 = (m.ask now query).1 := by
  intro m
  refine ⟨ask_replay order .position, ask_replay order .velocity, ask_replay order .reading, ?_, ?_⟩
  · intro later same
    have together : InOrder start ((now, Operation.reset) :: past) now := ⟨le_rfl, order⟩
    obtain ⟨turned, zero⟩ := zeroIn_of_reset g start past same
    rw [ask_replay (inOrder_append together same), answerIn, turned, zero, sub_self,
      converted_zero]
  · intro past' order' same query
    rw [ask_replay order, ask_replay order', ← answerIn_changes, same, answerIn_changes]

/-- A motor that is given a slower cartridge while it turns, and then half the voltage. -/
noncomputable def regeared : History ℝ :=
  [(3 * Time.perSecond, .configure (.encoderUnits .rotations)), (3 * Time.perSecond, .ask .position),
    (2 * Time.perSecond, .obey (.voltage 6000)), (1 * Time.perSecond, .reset),
    (1 * Time.perSecond, .configure (.gearset .red)), (0, .obey (.velocity 300))]

theorem answers_as_told_of_regeared :
    InOrder 0 regeared (4 * Time.perSecond) ∧
      (((new .blue 0).replay regeared).ask (4 * Time.perSecond) .position).1 = (4200 : ℝ) ∧
      (((new .blue 0).replay regeared).ask (4 * Time.perSecond) .velocity).1 = (50 : ℝ) ∧
      (((new .blue 0).replay regeared).ask (4 * Time.perSecond) .reading).1 = (20 / 3 : ℝ) := by
  have order : InOrder 0 regeared (4 * Time.perSecond) := by
    simp [regeared, InOrder, Time.perSecond]
  obtain ⟨position, velocity, reading, -⟩ := answers_as_told .blue order
  have fast : speedFor .blue (.velocity 300) = 300 := by
    have rpm : (300 : Int16).toInt = 300 := rfl
    norm_num [speedFor, Gearset.freeSpeed, rpm]
  have half : speedFor .red (.voltage 6000) = 50 := by
    have millivolts : (6000 : Int16).toInt = 6000 := rfl
    norm_num [speedFor, Gearset.freeSpeed, millivolts]
  refine ⟨order, position.trans ?_, velocity.trans ?_, reading.trans ?_⟩
  · norm_num [regeared, stretches, speedIn, gearsetIn, secondsBetween, Time.perSecond, fast, half]
  · norm_num [regeared, speedIn, gearsetIn, half]
  · norm_num [regeared, converted, unitsIn, turnedIn, zeroIn, stretches, Stretch.degrees, speedIn,
      gearsetIn, secondsBetween, Time.perSecond, fast, half]

end SimulatedMotor

end Drivetrain
