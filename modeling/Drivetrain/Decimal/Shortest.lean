/-
The fewest decimal digits that read back as the same machine number.

A decimal reads back as a number when it lies in the interval of reals that round to it, half a unit
of the last place to either side; the ends belong to it when the mantissa is even.  Grids of one,
two and more decimal digits are tried in turn.  On each only the two neighbors of the number can
lie in the interval nearest to it, so only they are tested.

* `Drivetrain.Decimal.Digits` — decimal digits and the place of the point;
* `Drivetrain.Decimal.Interval` — the reals that round to a number;
* `Drivetrain.Decimal.shortest` — the digits.
-/

import Drivetrain.Decimal.Parts

set_option relaxedAutoImplicit false
set_option autoImplicit false

namespace Drivetrain.Decimal

/-- **Decimal digits**: `0.d₁d₂… * 10 ^ point`. -/
structure Digits where
  /-- The digits, the first of them not zero. -/
  digits : List Nat
  /-- Where the point stands, counted from before the first digit. -/
  point : Int
  deriving Repr, DecidableEq

/-- The decimal digits of a natural number, most significant first; none for zero. -/
def digitsOf (n : Nat) : List Nat :=
  if n = 0 then [] else digitsOf (n / 10) ++ [n % 10]

/-- The digits without trailing zeros. -/
def dropTrailingZeros (ds : List Nat) : List Nat :=
  (ds.reverse.dropWhile (· = 0)).reverse

/-- The digits of `n * 10 ^ e`. -/
def Digits.ofNat (n : Nat) (e : Int) : Digits :=
  let ds := digitsOf n
  ⟨dropTrailingZeros ds, ds.length + e⟩

/-- **The reals that round to a number**, over one denominator. -/
structure Interval where
  low : Nat
  value : Nat
  high : Nat
  /-- The denominator of all three. -/
  denominator : Nat
  /-- Whether the ends round to the number too. -/
  closed : Bool
  deriving Repr

/-- The interval around a mantissa.  Below a power of two the numbers lie twice as dense, so there
the lower end is twice as near. -/
def Interval.around (mantissa : Nat) (exponent : Int) : Interval :=
  let dense := mantissa = Nat.pow 2 fractionBits ∧ leastExponent < exponent
  let unit (n : Nat) : Nat := (Parts.scaled n (exponent - 2)).1
  { low := unit (4 * mantissa - (if dense then 1 else 2))
    value := unit (4 * mantissa)
    high := unit (4 * mantissa + 2)
    denominator := (Parts.scaled 1 (exponent - 2)).2
    closed := mantissa % 2 == 0 }

namespace Interval

/-- A decimal grid laid over the interval: `n` on the grid of `10 ^ e` stands for
`n * gridUnit / scale` against the interval's numerators. -/
def gridUnit (i : Interval) (e : Int) : Nat := i.denominator * Nat.pow 10 e.toNat

/-- What the interval's numerators are multiplied by on the grid of `10 ^ e`. -/
def scale (e : Int) : Nat := Nat.pow 10 (-e).toNat

/-- The largest grid point that is not above the number. -/
def below (i : Interval) (e : Int) : Nat := i.value * scale e / i.gridUnit e

/-- Whether a grid point that is not above the number rounds to it. -/
def reachesDown (i : Interval) (e : Int) (n : Nat) : Bool :=
  let low := i.low * scale e
  let point := n * i.gridUnit e
  if i.closed then decide (low ≤ point) else decide (low < point)

/-- Whether a grid point above the number rounds to it. -/
def reachesUp (i : Interval) (e : Int) (n : Nat) : Bool :=
  let high := i.high * scale e
  let point := n * i.gridUnit e
  if i.closed then decide (point ≤ high) else decide (point < high)

/-- **The grid point that rounds to the number**, if a neighbor does; of two the nearer, and of two
equally near the upper. -/
def pick? (i : Interval) (e : Int) : Option Nat :=
  let n := i.below e
  let value := i.value * scale e
  match i.reachesDown e n && decide (0 < n), i.reachesUp e (n + 1) with
  | true, true =>
      let down := value - n * i.gridUnit e
      let up := (n + 1) * i.gridUnit e - value
      some (if down < up then n else n + 1)
  | true, false => some n
  | false, true => some (n + 1)
  | false, false => none

end Interval

/-- How many places the integer part of `n / d` has, or how many zeros follow its point, negated. -/
def magnitude (n d : Nat) : Int :=
  if d ≤ n then (digitsOf (n / d)).length
  else
    let places := (digitsOf (d / n)).length
    if n * Nat.pow 10 places < d * 10 then 1 - places else 2 - places

/-- The grids tried, from coarse to fine, beginning with the grid of `10 ^ e`. -/
def search (i : Interval) : Nat → Int → Nat × Int
  | 0, e => (i.below e, e)
  | fuel + 1, e =>
      match i.pick? e with
      | some n => (n, e)
      | none => search i fuel (e - 1)

/-- Seventeen digits tell every two machine numbers apart; one grid is added for a magnitude
estimated too high. -/
def gridsTried : Nat := 19

/-- **The fewest digits** of a positive number that read back as it. -/
def shortest (p : Parts) : Digits :=
  let (n, d) := p.ratio
  let (point, e) := search (.around p.mantissa p.exponent) gridsTried (magnitude n d)
  .ofNat point e

end Drivetrain.Decimal
