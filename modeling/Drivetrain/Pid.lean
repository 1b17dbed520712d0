/-
The position loop: a proportional, integral and derivative controller that its owner steps.

The integral is dropped when the error changes its sign and held inside the output's limits.  The
derivative is taken of the reading, so a new target does not kick.

* `Drivetrain.Gains` — the gains of a loop;
* `Drivetrain.Pid` — a loop's settings and everything it remembers;
* `Drivetrain.Pid.step` — one step: a reading goes in and a bounded output comes out.

Limits out of order, or that are not numbers, bound nothing: a step or a change of limits that has
to clamp against them **does not complete**, and answers `none` or `false`.  What it wrote before
it came to the clamp stays written.
-/

import Drivetrain.Settle

set_option relaxedAutoImplicit false
set_option autoImplicit false

namespace Drivetrain

/-- The gains of a loop. -/
structure Gains (α : Type) where
  /-- Output for each unit of error. -/
  kp : α
  /-- Output for each unit of error held for a second. -/
  ki : α
  /-- Output taken away for each unit a second that the reading moves. -/
  kd : α
  /-- Output that is always added. -/
  kbias : α
  deriving Repr, BEq

/-- **A position loop.** -/
structure Pid (α : Type) where
  gains : Gains α
  /-- The time that the first step stands for. -/
  sampleTime : Nat
  /-- The reading to reach. -/
  target : α
  /-- The error of the last step. -/
  error : α
  /-- The error of the last step that completed. -/
  lastError : α
  /-- The reading of the last step that completed. -/
  lastReading : Option α
  integral : α
  output : α
  /-- When the last step completed. -/
  steppedAt : Option Nat
  disabled : Bool
  outputLimits : Range α
  integralLimits : Range α
  settling : Settling α
  deriving Repr, BEq

namespace Pid

variable {α : Type} [Scalar α]

/-- A loop that was never stepped, with outputs from minus one to one. -/
def new (gains : Gains α) (settle : SettleSettings α) (sampleTime : Nat) : Pid α where
  gains := gains
  sampleTime := sampleTime
  target := 0
  error := 0
  lastError := 0
  lastReading := none
  integral := 0
  output := 0
  steppedAt := none
  disabled := false
  outputLimits := .unit
  integralLimits := .unit
  settling := .new settle

/-- The loop with a new target. -/
def setTarget (p : Pid α) (target : α) : Pid α := { p with target := target }

/-- The loop with new gains. -/
def setGains (p : Pid α) (gains : Gains α) : Pid α := { p with gains := gains }

/-- The loop switched off or on. -/
def setDisabled (p : Pid α) (disabled : Bool) : Pid α := { p with disabled := disabled }

/-- Everything that the loop remembers forgotten; target, gains and limits stay. -/
def reset (p : Pid α) : Pid α :=
  { p with
    error := 0
    lastError := 0
    lastReading := none
    integral := 0
    output := 0
    steppedAt := none
    settling := p.settling.reset }

/-- Two bounds in either order as a range. -/
def limitsOf (max min : α) : Range α := if max < min then ⟨max, min⟩ else ⟨min, max⟩

/-- **New limits** for the output and the integral, given in either order, and whether the output
could be brought inside them. -/
def setLimits (p : Pid α) (max min : α) : Pid α × Bool :=
  let limits := limitsOf max min
  let p := { p with outputLimits := limits, integralLimits := limits }
  match limits.clamp? p.output with
  | some output => ({ p with output := output }, true)
  | none => (p, false)

/-- The time, in seconds, that a step at an instant stands for. -/
def elapsed (p : Pid α) (now : Nat) : α :=
  match p.steppedAt with
  | some before => Time.toSeconds (now - before)
  | none => Time.toSeconds p.sampleTime

/-- The integral after an error, before it is held inside its limits: a change of sign drops what
was gathered. -/
def gather (p : Pid α) (error dt : α) : α :=
  (if Scalar.sameSign error p.lastError then p.integral else 0) + p.gains.ki * error * dt

/-- How fast the reading moves, in units a second. -/
def slope (p : Pid α) (reading dt : α) : α :=
  match p.lastReading with
  | some last => if 0 < dt then (reading - last) / dt else 0
  | none => 0

/-- The output for an error, before it is held inside its limits. -/
def drive (p : Pid α) (error integral slope : α) : α :=
  p.gains.kp * error + integral - p.gains.kd * slope + p.gains.kbias

/-- **One step.**  A loop that is switched off gives nothing and forgets nothing. -/
def step (p : Pid α) (reading : α) (now : Nat) : Pid α × Option α :=
  if p.disabled then
    ({ p with output := 0 }, some 0)
  else
    let dt := p.elapsed now
    let error := p.target - reading
    let gathered := p.gather error dt
    match p.integralLimits.clamp? gathered with
    | none => ({ p with error := error, integral := gathered }, none)
    | some integral =>
        match p.outputLimits.clamp? (p.drive error integral (p.slope reading dt)) with
        | none => ({ p with error := error, integral := integral }, none)
        | some output =>
            ({ p with
                error := error
                lastError := error
                lastReading := some reading
                integral := integral
                output := output
                steppedAt := some now },
              some output)

/-- Whether the loop has settled, and the loop after the check.  One that is switched off counts as
settled and checks nothing. -/
def checkSettled (p : Pid α) (now : Nat) : Bool × Pid α :=
  if p.disabled then (true, p)
  else
    let (settled, settling) := p.settling.check p.error now
    (settled, { p with settling := settling })

/-! ### What a loop keeps -/

@[simp] theorem disabled_reset (p : Pid α) : p.reset.disabled = p.disabled := rfl

@[simp] theorem target_reset (p : Pid α) : p.reset.target = p.target := rfl

/-- A step writes no setting: the target, the switch and the settling stay as they are. -/
theorem step_keeps (p : Pid α) (reading : α) (now : Nat) :
    (p.step reading now).1.target = p.target ∧ (p.step reading now).1.disabled = p.disabled ∧
      (p.step reading now).1.settling = p.settling := by
  unfold step
  split
  · exact ⟨rfl, rfl, rfl⟩
  · dsimp only
    split
    · exact ⟨rfl, rfl, rfl⟩
    · split <;> exact ⟨rfl, rfl, rfl⟩

theorem checkSettled_of_disabled {p : Pid α} (h : p.disabled = true) (now : Nat) :
    p.checkSettled now = (true, p) := by
  simp only [checkSettled, h, if_true]

theorem checkSettled_of_enabled {p : Pid α} (h : p.disabled = false) (now : Nat) :
    p.checkSettled now =
      ((p.settling.check p.error now).1,
        { p with settling := (p.settling.check p.error now).2 }) := by
  simp only [checkSettled, h, Bool.false_eq_true, if_false]

/-- A check writes nothing but the settling. -/
theorem checkSettled_keeps (p : Pid α) (now : Nat) :
    (p.checkSettled now).2.target = p.target ∧ (p.checkSettled now).2.disabled = p.disabled ∧
      (p.checkSettled now).2.error = p.error := by
  cases h : p.disabled with
  | true => rw [checkSettled_of_disabled h]; exact ⟨rfl, h, rfl⟩
  | false => rw [checkSettled_of_enabled h]; exact ⟨rfl, h, rfl⟩

end Pid

end Drivetrain
