/-
What a controller is doing.

* `Drivetrain.Mode` — nothing, a straight move, or a turn.
-/

set_option relaxedAutoImplicit false
set_option autoImplicit false

namespace Drivetrain

/-- **What a controller is doing.** -/
inductive Mode where
  | none
  | distance
  | angle
  deriving Repr, DecidableEq

namespace Mode

/-- All modes, in the order of their numbers. -/
def all : List Mode := [none, distance, angle]

/-- The mode's number. -/
def number : Mode → Nat
  | none => 0
  | distance => 1
  | angle => 2

/-- The mode in a sentence. -/
def label : Mode → String
  | none => "none"
  | distance => "distance"
  | angle => "angle"

/-- The mode in a record. -/
def title : Mode → String
  | none => "None"
  | distance => "Distance"
  | angle => "Angle"

end Mode

end Drivetrain
