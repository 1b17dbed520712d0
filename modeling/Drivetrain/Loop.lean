/-
Loops that a controller can own: position loops, and loops that follow a script.

* `Drivetrain.ScriptedLoop` — settles when it is told to and answers with a set output;
* `Drivetrain.Loop` — a loop of either kind behind one set of operations.
-/

import Drivetrain.Pid

set_option relaxedAutoImplicit false
set_option autoImplicit false

namespace Drivetrain

/-- **A loop that follows a script**: it reports what it was told to report, whatever its error, and
counts what was asked of it. -/
structure ScriptedLoop (α : Type) where
  /-- The target last set. -/
  target : α
  /-- The output of every step while switched on. -/
  output : α
  /-- The reading of the last step. -/
  reading : Option α
  /-- What it reports about settling. -/
  settled : Bool
  disabled : Bool
  resets : Nat
  steps : Nat
  deriving Repr, BEq

namespace ScriptedLoop

variable {α : Type} [Scalar α]

/-- A loop that was told nothing yet. -/
def new : ScriptedLoop α := ⟨0, 0, none, false, false, 0, 0⟩

/-- How far the last reading was from the target. -/
def error (s : ScriptedLoop α) : α := s.target - s.reading.getD 0

/-- One step, which is counted also while switched off. -/
def step (s : ScriptedLoop α) (reading : α) : ScriptedLoop α × α :=
  ({ s with reading := some reading, steps := s.steps + 1 }, if s.disabled then 0 else s.output)

end ScriptedLoop

/-- **A loop of either kind.** -/
inductive Loop (α : Type) where
  | position (pid : Pid α)
  | scripted (loop : ScriptedLoop α)
  deriving Repr

namespace Loop

variable {α : Type} [Scalar α]

/-- The loop with a new target. -/
def setTarget (target : α) : Loop α → Loop α
  | position p => position (p.setTarget target)
  | scripted s => scripted { s with target := target }

/-- The target last set. -/
def target : Loop α → α
  | position p => p.target
  | scripted s => s.target

/-- The loop switched off or on. -/
def setDisabled (disabled : Bool) : Loop α → Loop α
  | position p => position (p.setDisabled disabled)
  | scripted s => scripted { s with disabled := disabled }

/-- Whether the loop is switched off. -/
def isDisabled : Loop α → Bool
  | position p => p.disabled
  | scripted s => s.disabled

/-- The loop with its memory cleared. -/
def reset : Loop α → Loop α
  | position p => position p.reset
  | scripted s => scripted { s with resets := s.resets + 1 }

/-- One step.  A position loop whose limits bound nothing gives no output. -/
def step (reading : α) (now : Nat) : Loop α → Loop α × α
  | position p => (position (p.step reading now).1, ((p.step reading now).2).getD 0)
  | scripted s => (scripted (s.step reading).1, (s.step reading).2)

/-- Whether the loop has settled, and the loop after the check. -/
def checkSettled (now : Nat) : Loop α → Bool × Loop α
  | position p => ((p.checkSettled now).1, position (p.checkSettled now).2)
  | scripted s => (s.settled, scripted s)

/-- The error of the last step. -/
def error : Loop α → α
  | position p => p.error
  | scripted s => s.error

/-- The output of the last step, or the one that a script set. -/
def output : Loop α → α
  | position p => p.output
  | scripted s => s.output

/-- The loop with a new output, where a script sets it. -/
def script (f : ScriptedLoop α → ScriptedLoop α) : Loop α → Loop α
  | position p => position p
  | scripted s => scripted (f s)

/-! ### What a loop keeps -/

omit [Scalar α] in
@[simp] theorem target_setTarget (x : α) (l : Loop α) : (l.setTarget x).target = x := by
  cases l <;> rfl

omit [Scalar α] in
@[simp] theorem isDisabled_setTarget (x : α) (l : Loop α) :
    (l.setTarget x).isDisabled = l.isDisabled := by
  cases l <;> rfl

omit [Scalar α] in
@[simp] theorem target_setDisabled (b : Bool) (l : Loop α) :
    (l.setDisabled b).target = l.target := by
  cases l <;> rfl

omit [Scalar α] in
@[simp] theorem isDisabled_setDisabled (b : Bool) (l : Loop α) :
    (l.setDisabled b).isDisabled = b := by
  cases l <;> rfl

@[simp] theorem target_reset (l : Loop α) : l.reset.target = l.target := by
  cases l <;> rfl

@[simp] theorem isDisabled_reset (l : Loop α) : l.reset.isDisabled = l.isDisabled := by
  cases l <;> rfl

@[simp] theorem target_step (x : α) (now : Nat) (l : Loop α) :
    (l.step x now).1.target = l.target := by
  cases l with
  | position p => exact (p.step_keeps x now).1
  | scripted s => rfl

@[simp] theorem isDisabled_step (x : α) (now : Nat) (l : Loop α) :
    (l.step x now).1.isDisabled = l.isDisabled := by
  cases l with
  | position p => exact (p.step_keeps x now).2.1
  | scripted s => rfl

@[simp] theorem target_checkSettled (now : Nat) (l : Loop α) :
    (l.checkSettled now).2.target = l.target := by
  cases l with
  | position p => exact (p.checkSettled_keeps now).1
  | scripted s => rfl

@[simp] theorem isDisabled_checkSettled (now : Nat) (l : Loop α) :
    (l.checkSettled now).2.isDisabled = l.isDisabled := by
  cases l with
  | position p => exact (p.checkSettled_keeps now).2.1
  | scripted s => rfl

end Loop

end Drivetrain
