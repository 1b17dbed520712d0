/-
What a controller reports of its set-up and of the requests it is given.

* `Drivetrain.Controller.announce` — the notices of a request, before it is carried out;
* `Drivetrain.SetupError.announce` — the notices of a refusal.
-/

import Drivetrain.Controller
import Drivetrain.Notice

set_option relaxedAutoImplicit false
set_option autoImplicit false

namespace Drivetrain

variable {α : Type} [Scalar α]

namespace Controller

def announceMove (c : Controller α) (x : Length α) : List (Notice α) :=
  if c.ignoresMove x then [.moveIgnored x.meters]
  else [.moving x.meters, .movingMotor (c.moveTarget x)]

def announceTurn (c : Controller α) (x : Angle α) : List (Notice α) :=
  if c.ignoresTurn x then [.turnIgnored x.degrees]
  else [.turning x.degrees, .turningMotor (c.turnTarget x c.mirrored)]

/-- **The notices of a request.** -/
def announce (c : Controller α) : Request α → List (Notice α)
  | .move x => c.announceMove x
  | .moveRaw t => c.announceMove (c.rawLength t)
  | .turn x => c.announceTurn x
  | .turnRaw t => c.announceTurn (c.rawAngle t)
  | .stop => [.stopping]
  | .mirror _ | .setMoveThreshold _ | .setTurnThreshold _ => []

end Controller

/-- **The notices of a refusal** of gearing, scales or period. -/
def SetupError.announce : SetupError α → List (Notice α)
  | .zeroGearRatio => [.refusedZeroRatio]
  | .config (.ratioNotFinite x) => [.refusedRatio x]
  | .config (.scalesInvalid s) => [.refusedScales s]
  | .zeroLoopPeriod => [.refusedPeriod]
  | _ => []

end Drivetrain
