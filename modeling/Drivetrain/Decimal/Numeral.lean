/-
Numbers as text.

* `Drivetrain.Decimal.Style` — when a numeral has an exponent, and how many places it has at least;
* `Drivetrain.Decimal.Style.sentence`, `Drivetrain.Decimal.Style.pointed`,
  `Drivetrain.Decimal.Style.record` — the styles in use;
* `Drivetrain.Decimal.numeral` — a machine number in a style, in the fewest digits;
* `Drivetrain.Decimal.fixed` — a machine number rounded to a number of places.
-/

import Drivetrain.Decimal.Shortest
import Drivetrain.Rounding

set_option relaxedAutoImplicit false
set_option autoImplicit false

namespace Drivetrain.Decimal

def digitChar (d : Nat) : Char := Char.ofNat ('0'.toNat + d)

def digitText (ds : List Nat) : String := String.ofList (ds.map digitChar)

/-- **How numerals are laid out.** -/
structure Style where
  /-- Places after the point, at least. -/
  minPlaces : Nat
  /-- The powers of ten, from the first up to but without the second, whose numerals have no
  exponent; all of them if there is no range. -/
  positional : Option (Int × Int)
  deriving Repr

/-- Numbers in a sentence never have an exponent, and whole numbers no point. -/
def Style.sentence : Style := ⟨0, none⟩

/-- Numbers that have to differ from whole numbers always have a point, and never an exponent. -/
def Style.pointed : Style := ⟨1, none⟩

/-- Numbers in a record have a point, and an exponent from `10 ^ 16` on and below `10 ^ (-4)`. -/
def Style.record : Style := ⟨1, some (-4, 16)⟩

/-- Digits written out around the point. -/
def Digits.positional (d : Digits) (minPlaces : Nat) : String :=
  let whole := d.digits.take d.point.toNat
  let whole := whole ++ List.replicate (d.point.toNat - whole.length) 0
  let places := List.replicate (-d.point).toNat 0 ++ d.digits.drop d.point.toNat
  let places := places ++ List.replicate (minPlaces - places.length) 0
  let wholeText := if whole.isEmpty then "0" else digitText whole
  if places.isEmpty then wholeText else wholeText ++ "." ++ digitText places

/-- Digits with one place before the point and an exponent. -/
def Digits.scientific (d : Digits) : String :=
  let places := d.digits.drop 1
  digitText (d.digits.take 1) ++ (if places.isEmpty then "" else "." ++ digitText places) ++ "e" ++
    toString (d.point - 1)

def Style.layOut (s : Style) (d : Digits) : String :=
  match s.positional with
  | none => d.positional s.minPlaces
  | some (first, last) =>
      if first ≤ d.point - 1 ∧ d.point - 1 < last then d.positional s.minPlaces else d.scientific

def Style.zero (s : Style) : String := Digits.positional ⟨[], 0⟩ s.minPlaces

/-- What is written for a number that is not finite. -/
def unbounded (x : Float) : String :=
  if x.isNaN then "NaN" else if x < 0 then "-inf" else "inf"

/-- A sign before a numeral. -/
def signed (negative : Bool) (text : String) : String := if negative then "-" ++ text else text

/-- **A machine number in a style**, in the fewest digits that read back as it. -/
def numeral (s : Style) (x : Float) : String :=
  match Parts.ofFloat? x with
  | none => unbounded x
  | some p => signed p.negative (if p.mantissa = 0 then s.zero else s.layOut (shortest p))

/-- A whole number of the units of the last place, as text. -/
def placed (n places : Nat) : String :=
  let ds := digitsOf n
  let ds := List.replicate (places + 1 - ds.length) 0 ++ ds
  let cut := ds.length - places
  if places = 0 then digitText ds
  else digitText (ds.take cut) ++ "." ++ digitText (ds.drop cut)

/-- **A machine number rounded to a number of places.** -/
def fixed (places : Nat) (x : Float) : String :=
  match Parts.ofFloat? x with
  | none => unbounded x
  | some p =>
      signed p.negative (placed (Rounding.halfEven (p.ratio.1 * Nat.pow 10 places) p.ratio.2) places)

end Drivetrain.Decimal
