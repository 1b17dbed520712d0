/-
Pacing a cycle.

Deadlines follow from the deadline before and not from when the cycle woke, so the time spent in
its body makes it no later.  A cycle that misses its deadline starts anew from the present.

* `Drivetrain.Pace` — the last deadline;
* `Drivetrain.Pace.next` — the time left to the next deadline, which becomes the last.
-/

import Drivetrain.Time

set_option relaxedAutoImplicit false
set_option autoImplicit false

namespace Drivetrain

/-- **The pace of a cycle**: its last deadline. -/
structure Pace where
  last : Nat
  deriving Repr, DecidableEq

namespace Pace

/-- A pace that starts at an instant. -/
def startingAt (now : Nat) : Pace := ⟨now⟩

/-- The pace after its next deadline is set: a period after the last one, or now if that is
past. -/
def next (p : Pace) (period now : Nat) : Pace := ⟨max (p.last + period) now⟩

/-- The time left until the last deadline. -/
def left (p : Pace) (now : Nat) : Nat := p.last - now

/-- The next deadline is a period after the last one unless that is past, in which case there is
nothing to wait for. -/
theorem left_next (p : Pace) (period now : Nat) :
    (p.next period now).left now = p.last + period - now := by
  simp only [next, left]
  omega

end Pace

end Drivetrain
