/-
Settling: when a loop counts as having reached its target.

The error, and its change since the last check, must stay within tolerance for a time.  The first
check within tolerance only starts the timer, so no error settles on one check.

* `Drivetrain.SettleSettings` — the tolerances and the time;
* `Drivetrain.Settling` — the last error checked and the running timer;
* `Drivetrain.Settling.check` — one check.
-/

import Drivetrain.Time

set_option relaxedAutoImplicit false
set_option autoImplicit false

namespace Drivetrain

/-- The tolerances that a loop must hold, and for how long. -/
structure SettleSettings (α : Type) where
  error : α
  /-- The largest change of the error between two checks. -/
  derivative : α
  /-- How long both must hold, in milliseconds. -/
  milliseconds : Nat
  deriving Repr, BEq

/-- The tolerances of a loop that was given none. -/
def SettleSettings.standard {α : Type} [Scalar α] : SettleSettings α :=
  ⟨Scalar.ofInt 50, Scalar.ofInt 5, 250⟩

/-- **What settling remembers** between two checks. -/
structure Settling (α : Type) where
  settings : SettleSettings α
  /-- The error of the last check. -/
  lastError : α
  /-- When the errors came within tolerance, if they are. -/
  enteredAt : Option Nat
  deriving Repr, BEq

namespace Settling

variable {α : Type} [Scalar α]

/-- Settling before the first check. -/
def new (settings : SettleSettings α) : Settling α := ⟨settings, 0, none⟩

/-- Whether an error and its change are outside the tolerances. -/
def outside (settings : SettleSettings α) (error change : α) : Bool :=
  decide (settings.error < Scalar.abs error) ||
    decide (settings.derivative < Scalar.abs change)

/-- **One check**: whether the loop has settled, and what is remembered of the check. -/
def check (s : Settling α) (error : α) (now : Nat) : Bool × Settling α :=
  let change := error - s.lastError
  if outside s.settings error change then
    (false, { s with lastError := error, enteredAt := none })
  else
    match s.enteredAt with
    | some entered =>
        (decide (Time.ofMilliseconds s.settings.milliseconds ≤ now - entered),
          { s with lastError := error })
    | none => (false, { s with lastError := error, enteredAt := some now })

/-- The timer and the last error forgotten. -/
def reset (s : Settling α) : Settling α := { s with lastError := 0, enteredAt := none }

/-! ### What a check does -/

/-- A check that reports found its error within tolerance, and a timer that had run its time. -/
theorem of_check {s : Settling α} {e : α} {now : Nat} (h : (s.check e now).1 = true) :
    outside s.settings e (e - s.lastError) = false ∧
      ∃ t, s.enteredAt = some t ∧ Time.ofMilliseconds s.settings.milliseconds ≤ now - t := by
  unfold check at h
  cases ho : outside s.settings e (e - s.lastError) with
  | true => simp [ho] at h
  | false =>
      cases ht : s.enteredAt with
      | none => simp [ho, ht] at h
      | some t => exact ⟨rfl, t, rfl, by simpa [ho, ht] using h⟩

/-- A timer that runs after a check ran before it or was started by it, and the error is within
tolerance either way. -/
theorem enteredAt_check {s : Settling α} {e : α} {now t : Nat}
    (h : (s.check e now).2.enteredAt = some t) :
    outside s.settings e (e - s.lastError) = false ∧ (s.enteredAt = some t ∨ t = now) := by
  unfold check at h
  cases ho : outside s.settings e (e - s.lastError) with
  | true => simp [ho] at h
  | false =>
      refine ⟨rfl, ?_⟩
      cases ht : s.enteredAt with
      | none => simp only [ho, ht] at h; exact .inr (Option.some.inj h).symm
      | some t' => simp only [ho, ht] at h; exact .inl h

theorem settings_check (s : Settling α) (e : α) (now : Nat) :
    (s.check e now).2.settings = s.settings := by
  unfold check
  dsimp only
  split
  · rfl
  · split <;> rfl

/-- An error that is not outside is not beyond its tolerance. -/
theorem not_lt_of_outside {settings : SettleSettings α} {e change : α}
    (h : outside settings e change = false) : ¬ settings.error < Scalar.abs e := by
  rw [outside, Bool.or_eq_false_iff] at h
  exact of_decide_eq_false h.1

end Settling

end Drivetrain
