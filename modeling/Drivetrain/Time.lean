/-
Instants and durations.

Both are natural numbers of nanoseconds; instants are counted from the start of a session.

* `Drivetrain.Time.ofMicroseconds`, `Drivetrain.Time.ofMilliseconds` — durations in other units;
* `Drivetrain.Time.toSeconds` — a duration as a number of seconds.
-/

import Drivetrain.Scalar

set_option relaxedAutoImplicit false
set_option autoImplicit false

namespace Drivetrain.Time

/-- Nanoseconds in a second. -/
def perSecond : Nat := 1000000000

/-- Whole microseconds in nanoseconds. -/
def ofMicroseconds (n : Nat) : Nat := n * 1000

/-- Whole milliseconds in nanoseconds. -/
def ofMilliseconds (n : Nat) : Nat := n * 1000000

/-- **A duration in seconds**: the whole seconds and the rest are converted apart and added. -/
def toSeconds {α : Type} [Scalar α] (nanoseconds : Nat) : α :=
  Scalar.ofInt (nanoseconds / perSecond : Nat) +
    Scalar.ofInt (nanoseconds % perSecond : Nat) / Scalar.ofInt (perSecond : Nat)

end Drivetrain.Time
