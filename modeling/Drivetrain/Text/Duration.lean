/-
Durations as text: the largest unit of which there is at least one, and the rest as its fraction.

* `Drivetrain.Text.duration` — a duration as text.
-/

import Drivetrain.Decimal.Numeral

set_option relaxedAutoImplicit false
set_option autoImplicit false

namespace Drivetrain.Text

open Decimal (Digits digitsOf dropTrailingZeros digitText)

/-- A count of nanoseconds in a unit of `10 ^ power` nanoseconds. -/
def inUnit (nanoseconds power : Nat) (unit : String) : String :=
  let whole := nanoseconds / Nat.pow 10 power
  let rest := digitsOf (nanoseconds % Nat.pow 10 power)
  let places := dropTrailingZeros (List.replicate (power - rest.length) 0 ++ rest)
  toString whole ++ (if places.isEmpty then "" else "." ++ digitText places) ++ unit

/-- **A duration**, such as `10ms`, `2.5ms` or `1s`. -/
def duration (nanoseconds : Nat) : String :=
  if 1000000000 ≤ nanoseconds then inUnit nanoseconds 9 "s"
  else if 1000000 ≤ nanoseconds then inUnit nanoseconds 6 "ms"
  else if 1000 ≤ nanoseconds then inUnit nanoseconds 3 "µs"
  else inUnit nanoseconds 0 "ns"

end Drivetrain.Text
