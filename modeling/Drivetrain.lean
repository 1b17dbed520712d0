import Drivetrain.Main
import Drivetrain.Motor.Noise
import Drivetrain.Proofs.Posture
import Drivetrain.Proofs.Shared
import Drivetrain.Proofs.Course
import Drivetrain.Proofs.Ending
import Drivetrain.Proofs.Baseline
import Drivetrain.Proofs.Holding
import Drivetrain.Proofs.Sessions
import Drivetrain.Proofs.Commands
import Drivetrain.Proofs.Forgetting
import Drivetrain.Proofs.Displacement
import Drivetrain.Proofs.Rhythm
import Drivetrain.Proofs.Rolling
import Drivetrain.Proofs.Approach
import Drivetrain.Proofs.Homing
import Drivetrain.Proofs.Magnitude
import Drivetrain.Proofs.Tolerance
import Drivetrain.Proofs.Orders
import Drivetrain.Proofs.Limits
import Drivetrain.Proofs.Stopping
import Drivetrain.Proofs.Layouts
import Drivetrain.Proofs.Validation
import Drivetrain.Proofs.Pacing
import Drivetrain.Proofs.Overflow
import Drivetrain.Proofs.Opposites
import Drivetrain.Proofs.Reflection
import Drivetrain.Proofs.Mirroring
import Drivetrain.Proofs.Symmetry
import Drivetrain.Proofs.Construction
import Drivetrain.Proofs.Defaults
import Drivetrain.Proofs.Gathering
import Drivetrain.Proofs.Oddness
import Drivetrain.Proofs.Streaks
import Drivetrain.Proofs.Thresholds
import Drivetrain.Proofs.Blending
import Drivetrain.Proofs.Sideways
import Drivetrain.Proofs.Shafts
import Drivetrain.Proofs.FreeSpeed
import Drivetrain.Proofs.Refusals
import Drivetrain.Proofs.Nearest
import Drivetrain.Proofs.Percentiles
