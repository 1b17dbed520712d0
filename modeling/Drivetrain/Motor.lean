/-
Motors of either kind, on the bench or simulated, behind one set of operations.

* `Drivetrain.Motor` — a motor that can be ordered, configured and read.
-/

import Drivetrain.Motor.Bench
import Drivetrain.Motor.Simulated

set_option relaxedAutoImplicit false
set_option autoImplicit false

namespace Drivetrain

/-- A motor of either kind. -/
inductive Motor (α : Type) where
  | bench (motor : BenchMotor α)
  | simulated (motor : SimulatedMotor α)
  deriving Repr

namespace Motor

variable {α : Type} [Scalar α]

/-- The motor after an order. -/
def obey (now : Nat) (order : MotorOrder) : Motor α → Motor α
  | bench m => bench (m.obey order)
  | simulated m => simulated (m.obey now order)

/-- The motor after a setting. -/
def configure (now : Nat) (setting : MotorSetting α) : Motor α → Motor α
  | bench m => bench (m.configure setting)
  | simulated m => simulated (m.configure now setting)

/-- The reading of the motor's own encoder, and the motor after it. -/
def read (now : Nat) : Motor α → α × Motor α
  | bench m => (m.encoder, bench m)
  | simulated m => ((m.read now).1, simulated (m.read now).2)

/-- The motor with its encoder at zero. -/
def reset (now : Nat) : Motor α → Motor α
  | bench m => bench { m with encoder := 0 }
  | simulated m => simulated (m.reset now)

/-- The motor with its encoder placed by hand, which only the bench allows. -/
def place (x : α) : Motor α → Motor α
  | bench m => bench { m with encoder := x }
  | simulated m => simulated m

/-- The cartridge that the motor believes in. -/
def gearset : Motor α → Gearset
  | bench m => m.gearset
  | simulated m => m.gearset

end Motor

end Drivetrain
