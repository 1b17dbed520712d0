/-
Programs that keep account of what they do to a drive, also where they fail.

An error says why something failed, and not what had been done by then.  What sets up a controller
is therefore written as a program that enters each of its deeds in an account, and leaves the
account behind when it fails.

* `Drivetrain.Deeds`, `Drivetrain.Undertaking` — what was done, and **programs that keep account of
  it**;
* `Drivetrain.Undertaking.outcome` — how a program ends, and what it did;
* `Drivetrain.Undertaking.demand`, `Drivetrain.Undertaking.act` — something that must be there, and
  something done to a drive.
-/

import Drivetrain.Drive
import Drivetrain.SetupError

set_option relaxedAutoImplicit false
set_option autoImplicit false

namespace Drivetrain

/-- **What was done**: to the motors, through their drive, each action with its instant and the
first of them first; and whether a cycle was started. -/
structure Deeds (α : Type) where
  series : List (Nat × Drive.Action α)
  running : Bool

namespace Deeds

variable {α : Type}

/-- Nothing done yet. -/
def none : Deeds α := ⟨[], false⟩

/-- A series of actions done besides. -/
def after (d : Deeds α) (series : List (Nat × Drive.Action α)) : Deeds α :=
  { d with series := d.series ++ series }

end Deeds

/-- **Programs that keep account of what they do**, also where they fail. -/
abbrev Undertaking (α β : Type) := ExceptT (SetupError α) (StateM (Deeds α)) β

namespace Undertaking

variable {α β γ : Type}

/-- **How a program ends** that starts when something was done already, and what was done then. -/
def outcome (u : Undertaking α β) (d : Deeds α) : Except (SetupError α) β × Deeds α :=
  Id.run (u.run.run d)

/-- Something that must be there. -/
def demand (there : Except (SetupError α) β) : Undertaking α β := MonadExcept.ofExcept there

/-- **Something done to a drive**, and entered in the account. -/
def act [Scalar α] (d : Drive α) (series : List (Nat × Drive.Action α)) :
    Undertaking α (Drive α) := do
  modify (·.after series)
  return d.performAll series

/-- What follows a program follows what it did, unless it fails. -/
theorem outcome_bind (u : Undertaking α β) (f : β → Undertaking α γ) (d : Deeds α) :
    (u >>= f).outcome d =
      match u.outcome d with
      | (.ok x, d') => (f x).outcome d'
      | (.error e, d') => (.error e, d') := by
  simp only [outcome, ExceptT.run_bind, StateT.run_bind]
  rcases h : (u.run.run d).run with ⟨x | x, d'⟩ <;> simp [h]

/-- **Nothing is done by demanding**, whether it is there or not. -/
@[simp] theorem outcome_demand (there : Except (SetupError α) β) (d : Deeds α) :
    (demand there).outcome d = (there, d) := by
  cases there <;> rfl

@[simp] theorem outcome_act [Scalar α] (drive : Drive α) (series : List (Nat × Drive.Action α))
    (d : Deeds α) :
    (act drive series).outcome d = (.ok (drive.performAll series), d.after series) := rfl

end Undertaking

end Drivetrain
