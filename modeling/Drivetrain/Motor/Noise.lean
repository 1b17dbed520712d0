/-
Noise on the encoder of a simulated motor: even over an interval, and reproducible from its seed.

* `Drivetrain.Noise` — an amplitude and a source of random numbers;
* `Drivetrain.NoisyMotor` — a simulated motor whose readings carry noise, if its amplitude is
  positive;
* `Drivetrain.NoisyMotor.readings` — a series of readings at one instant;
* `Drivetrain.surveyNoise` — two series side by side, and how far they stray from the shaft.
-/

import Drivetrain.Motor.Simulated
import Drivetrain.Random

set_option relaxedAutoImplicit false
set_option autoImplicit false

namespace Drivetrain

open Scalar (abs ofDecimal)

/-- Noise of a motor. -/
structure Noise (α : Type) where
  /-- How far a reading can be from the shaft, in degrees. -/
  amplitude : α
  /-- What the noise is drawn from. -/
  source : RandomSource
  deriving Repr

namespace Noise

variable {α : Type} [Scalar α]

/-- The factor that stretches the samples over twice the amplitude, so that the largest one
reaches the upper end. -/
def stretch (n : Noise α) : α := (n.amplitude - -n.amplitude) / RandomSource.largestSample

/-- **The noise of one reading**, from minus the amplitude to the amplitude.  An amplitude whose
interval is not finite cannot be drawn from. -/
def draw? (n : Noise α) : Option (α × Noise α) :=
  if Scalar.isFinite n.stretch then
    some (n.source.sample * n.stretch + -n.amplitude, { n with source := n.source.next })
  else none

end Noise

/-- **A simulated motor with a noisy encoder.** -/
structure NoisyMotor (α : Type) where
  motor : SimulatedMotor α
  /-- What its readings carry. -/
  noise : Option (Noise α)
  deriving Repr

namespace NoisyMotor

variable {α : Type} [Scalar α]

/-- A motor at rest.  An amplitude that is not positive makes no noise. -/
def new (gearset : Gearset) (amplitude : α) (seed : UInt64) (now : Nat) : NoisyMotor α where
  motor := .new gearset now
  noise := if 0 < amplitude then some ⟨amplitude, .ofSeed seed⟩ else none

/-- The motor after an order. -/
def obey (m : NoisyMotor α) (now : Nat) (order : MotorOrder) : NoisyMotor α :=
  { m with motor := m.motor.obey now order }

/-- The amplitude of the noise, zero without any. -/
def amplitude (m : NoisyMotor α) : α := m.noise.elim 0 Noise.amplitude

/-- The true position of the shaft, and the motor brought up to the instant. -/
def locate (m : NoisyMotor α) (now : Nat) : α × NoisyMotor α :=
  let (x, motor) := m.motor.locate now
  (x, { m with motor := motor })

/-- **The encoder's reading**: noise joins the angle before it is put in the encoder's units. -/
def read? (m : NoisyMotor α) (now : Nat) : Option (α × NoisyMotor α) :=
  match m.noise with
  | none =>
      let (x, motor) := m.motor.read now
      some (x, { m with motor := motor })
  | some noise => noise.draw?.map fun (x, noise) =>
      let motor := m.motor.advance now
      (motor.inUnits (motor.turned + x), ⟨motor, some noise⟩)

/-- Readings one after another at one instant. -/
def readings? (m : NoisyMotor α) (now : Nat) : Nat → Option (List α)
  | 0 => some []
  | count + 1 => do
      let (x, m) ← m.read? now
      return x :: (← m.readings? now count)

theorem length_of_readings? {m : NoisyMotor α} {now count : Nat} {xs : List α}
    (h : m.readings? now count = some xs) : xs.length = count := by
  induction count generalizing m xs with
  | zero => cases h; rfl
  | succ count ih =>
      rw [readings?] at h
      obtain ⟨⟨x, m'⟩, _, h⟩ := Option.bind_eq_some_iff.1 h
      obtain ⟨ys, hys, h⟩ := Option.bind_eq_some_iff.1 h
      cases h
      rw [List.length_cons, ih hys]

end NoisyMotor

/-! ### Surveys -/

/-- What two series of readings show. -/
structure NoiseSurvey (α : Type) where
  /-- The true position of the first motor. -/
  centre : α
  /-- Both motors gave the same readings. -/
  reproducible : Bool
  /-- No reading was further from the centre than the amplitude, up to rounding. -/
  bounded : Bool
  /-- Every reading was the centre. -/
  exact : Bool
  deriving Repr

variable {α : Type} [Scalar α]

/-- What the bound of a survey allows for rounding, in degrees. -/
def roundingAllowance : α := ofDecimal 1 9

/-- **A survey of two motors**: where the first one stands, and as many readings of each. -/
def surveyNoise (first second : NoisyMotor α) (now count : Nat) : Option (NoiseSurvey α) := do
  let (centre, first) := first.locate now
  let xs ← first.readings? now count
  let ys ← second.readings? now count
  let stays (x : α) : Bool := decide (abs (x - centre) ≤ first.amplitude + roundingAllowance)
  return {
    centre := centre
    reproducible := xs == ys
    bounded := (xs ++ ys).all stays
    exact := (xs ++ ys).all (· == centre) }

end Drivetrain
