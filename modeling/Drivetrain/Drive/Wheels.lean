/-
The wheels of a chassis: two that stand for a side each, or four on the corners.

* `Drivetrain.Wheel`, `Drivetrain.Wheel.side` — a place on the chassis and the side it belongs to;
* `Drivetrain.Wheels` — a value for every wheel of one of the two layouts;
* `Drivetrain.Wheels.leads` — the two wheels whose encoders speak for the sides.
-/

import Drivetrain.Mixing

set_option relaxedAutoImplicit false
set_option autoImplicit false

namespace Drivetrain

/-- A side of the chassis. -/
inductive Side where
  | left
  | right
  deriving Repr, DecidableEq

namespace Sides

variable {β : Type}

/-- The value of a side. -/
def on (s : Sides β) : Side → β
  | .left => s.left
  | .right => s.right

/-- The values with that of one side changed. -/
def modify (s : Sides β) (f : β → β) : Side → Sides β
  | .left => { s with left := f s.left }
  | .right => { s with right := f s.right }

end Sides

/-- A place on the chassis. -/
inductive Wheel where
  | left
  | right
  | topLeft
  | topRight
  | bottomRight
  | bottomLeft
  deriving Repr, DecidableEq

/-- The side that a wheel belongs to. -/
def Wheel.side : Wheel → Side
  | left | topLeft | bottomLeft => .left
  | right | topRight | bottomRight => .right

/-- **A value for every wheel**, in one of the two layouts: a wheel, or a group of them, on each
side (skid steering), or a wheel on each corner at 45 degrees (holonomic). -/
inductive Wheels (β : Type) where
  | pair (left right : β)
  | corners (topLeft topRight bottomRight bottomLeft : β)
  deriving Repr

namespace Wheels

variable {β γ : Type}

/-- Every wheel's value changed by a function that knows the wheel. -/
def map (f : Wheel → β → γ) : Wheels β → Wheels γ
  | pair l r => pair (f .left l) (f .right r)
  | corners tl tr br bl =>
      corners (f .topLeft tl) (f .topRight tr) (f .bottomRight br) (f .bottomLeft bl)

/-- The values in the order in which the wheels are listed: clockwise from the front left. -/
def toList : Wheels β → List β
  | pair l r => [l, r]
  | corners tl tr br bl => [tl, tr, br, bl]

/-- The two wheels whose encoders speak for the sides: the front ones. -/
def leads : Wheels β → Sides β
  | pair l r => ⟨l, r⟩
  | corners tl tr _ _ => ⟨tl, tr⟩

/-- The wheels with the two front ones replaced. -/
def setLeads : Wheels β → Sides β → Wheels β
  | pair _ _, s => pair s.left s.right
  | corners _ _ br bl, s => corners s.left s.right br bl

/-- The value at a position of the list changed. -/
def modifyNth : Wheels β → Nat → (β → β) → Wheels β
  | pair l r, 0, f => pair (f l) r
  | pair l r, 1, f => pair l (f r)
  | pair l r, _, _ => pair l r
  | corners tl tr br bl, 0, f => corners (f tl) tr br bl
  | corners tl tr br bl, 1, f => corners tl (f tr) br bl
  | corners tl tr br bl, 2, f => corners tl tr (f br) bl
  | corners tl tr br bl, 3, f => corners tl tr br (f bl)
  | corners tl tr br bl, _, _ => corners tl tr br bl

theorem leads_setLeads (w : Wheels β) (s : Sides β) : (w.setLeads s).leads = s := by
  cases w <;> rfl

end Wheels

end Drivetrain
