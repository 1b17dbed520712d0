/-
The numbers that a controller computes with.

Every formula of the library is written once, over an interface of number operations.  The machine
runs it on `Float`; exact statements are made about the same formula over an ordered field.

* `Drivetrain.Scalar` — the operations: arithmetic, comparison, sign, truncation;
* `Drivetrain.Scalar.larger`, `Drivetrain.Scalar.underSign`, `Drivetrain.Scalar.sameSign` — the
  derived operations whose treatment of a number that is not a number matters;
* `Drivetrain.Range` — a pair of bounds and clamping between them.  Bounds that are out of order
  clamp nothing: `Drivetrain.Range.clamp?` refuses them.
-/

set_option relaxedAutoImplicit false
set_option autoImplicit false

namespace Drivetrain

/-- **Numbers a controller computes with.**  `isNegative` is the sign of the number, which on
machine numbers tells `-0.0` from `0.0`; `truncate` drops the fraction and is `0` on what is not a
number. -/
class Scalar (α : Type) extends Zero α, One α, Add α, Sub α, Mul α, Div α, Neg α, LT α, LE α,
    BEq α where
  decidableLT : DecidableLT α
  decidableLE : DecidableLE α
  /-- The number nearest to an integer. -/
  ofInt : Int → α
  /-- The number nearest to `m / 10 ^ e`. -/
  ofDecimal : Nat → Nat → α
  /-- Half the circumference of the unit circle. -/
  pi : α
  abs : α → α
  /-- Whether the number carries a minus sign. -/
  isNegative : α → Bool
  /-- Whether the value is not a number. -/
  isNaN : α → Bool
  /-- Whether the value is a number and not infinite. -/
  isFinite : α → Bool
  /-- The integer part, toward zero. -/
  truncate : α → Int

instance instDecidableLT {α : Type} [Scalar α] : DecidableLT α := Scalar.decidableLT

instance instDecidableLE {α : Type} [Scalar α] : DecidableLE α := Scalar.decidableLE

namespace Scalar

variable {α : Type} [Scalar α]

/-- The larger of two numbers; one that is not a number gives way to the other. -/
def larger (a b : α) : α :=
  if a < b then b else if isNaN a then b else a

/-- The magnitude of a number under a sign. -/
def underSign (negative : Bool) (x : α) : α := if negative then -abs x else abs x

/-- Whether two numbers carry the same sign.  What is not a number shares its sign with nothing,
not even with itself. -/
def sameSign (a b : α) : Bool :=
  !isNaN a && !isNaN b && isNegative a == isNegative b

/-- How two numbers compare, if they do. -/
def compare? (a b : α) : Option Ordering :=
  if a < b then some .lt
  else if b < a then some .gt
  else if a == b then some .eq
  else none

end Scalar

/-! ### Machine numbers -/

/-- The integer part of a machine number, toward zero.  It is exact below `2 ^ 64` in magnitude and
held at that bound beyond it, far outside the range of any command or reading. -/
def truncateFloat (x : Float) : Int :=
  if x < 0 then -((-x).toUInt64.toNat : Int) else (x.toUInt64.toNat : Int)

/-- Machine numbers: binary, of double width. -/
instance : Scalar Float where
  zero := 0.0
  one := 1.0
  decidableLT := Float.decLt
  decidableLE := Float.decLe
  ofInt := Float.ofInt
  ofDecimal m e := Float.ofScientific m true e
  pi := Float.ofBits 0x400921FB54442D18
  abs := Float.abs
  isNegative x := x.toBits >>> 63 == 1
  isNaN := Float.isNaN
  isFinite := Float.isFinite
  truncate := truncateFloat

/-! ### Ranges -/

/-- A pair of bounds. -/
structure Range (α : Type) where
  lo : α
  hi : α
  deriving Repr, BEq

namespace Range

variable {α : Type} [Scalar α]

/-- From minus one to one, the range of every fraction of full speed. -/
def unit : Range α := ⟨-1, 1⟩

/-- **Clamping**: a value outside the range moves to the bound it passed.  What is not a number
passes no bound and stays. -/
def clamp (r : Range α) (x : α) : α :=
  if x < r.lo then r.lo else if r.hi < x then r.hi else x

/-- Clamping between bounds that may be out of order, which then bound nothing. -/
def clamp? (r : Range α) (x : α) : Option α :=
  if r.lo ≤ r.hi then some (r.clamp x) else none

end Range

end Drivetrain
