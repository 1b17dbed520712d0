/-
Gearing: the cartridge inside a motor and the gears outside it.

* `Drivetrain.Gearset` — the cartridge, which fixes the free speed and the encoder's resolution;
* `Drivetrain.Gearing` — a cartridge with the ratio of the gears between motor and wheel.
-/

import Drivetrain.Scalar

set_option relaxedAutoImplicit false
set_option autoImplicit false

namespace Drivetrain

/-- The cartridge inside a motor. -/
inductive Gearset where
  | red
  | green
  | blue
  deriving Repr, DecidableEq, Inhabited

namespace Gearset

/-- Free speed of the output shaft, in turns per minute. -/
def freeSpeed {α : Type} [Scalar α] : Gearset → α
  | red => Scalar.ofInt 100
  | green => Scalar.ofInt 200
  | blue => Scalar.ofInt 600

/-- Encoder counts in one turn of the output shaft. -/
def countsPerTurn {α : Type} [Scalar α] : Gearset → α
  | red => Scalar.ofInt 1800
  | green => Scalar.ofInt 900
  | blue => Scalar.ofInt 300

/-- The cartridge's color, as it is written in a configuration. -/
def color : Gearset → String
  | red => "red"
  | green => "green"
  | blue => "blue"

/-- The cartridge's name in a notice. -/
def title : Gearset → String
  | red => "Red"
  | green => "Green"
  | blue => "Blue"

/-- All cartridges. -/
def all : List Gearset := [red, green, blue]

/-- The cartridge of a color. -/
def ofColor? (s : String) : Option Gearset := all.find? (·.color == s)

end Gearset

/-- A cartridge with the ratio of the gears between motor and wheel. -/
structure Gearing (α : Type) where
  gearset : Gearset
  /-- Motor degrees per wheel degree. -/
  ratio : α
  deriving Repr, BEq

/-- A cartridge that drives the wheel directly. -/
def Gearing.direct {α : Type} [Scalar α] (g : Gearset) : Gearing α := ⟨g, 1⟩

end Drivetrain
