/-
Rounding natural numbers.

* `Drivetrain.Rounding.halfEven` — a quotient to the nearest whole number, a half to the even one;
* `Drivetrain.Rounding.up` — a quotient to the next whole number that is not below it;
* `Drivetrain.Rounding.machine` — the whole number that a machine number holds in place of another:
  its leading bits, as many as a mantissa has.
-/

set_option relaxedAutoImplicit false
set_option autoImplicit false

namespace Drivetrain.Rounding

/-- `n / d` to the nearest whole number, a half to the even neighbor. -/
def halfEven (n d : Nat) : Nat :=
  let q := n / d
  let r := n % d
  if 2 * r < d then q else if d < 2 * r then q + 1 else q + q % 2

/-- `n / d`, or the next whole number above it. -/
def up (n d : Nat) : Nat := (n + d - 1) / d

/-- Bits of the mantissa of a machine number. -/
def mantissaBits : Nat := 53

/-- The bits of a whole number that a mantissa has no room for. -/
def surplus (n : Nat) : Nat := n.log2 + 1 - mantissaBits

/-- **The whole number that a machine number holds** in place of `n`: the nearest one of which only
as many leading bits as a mantissa has are not zero, of two equally near the even one. -/
def machine (n : Nat) : Nat := halfEven n (Nat.pow 2 (surplus n)) * Nat.pow 2 (surplus n)

theorem halfEven_one (n : Nat) : halfEven n 1 = n := by
  simp [halfEven, Nat.mod_one]

/-- A whole number that fits into a mantissa is held as it is. -/
theorem machine_eq_self {n : Nat} (h : n < Nat.pow 2 mantissaBits) : machine n = n := by
  have hs : surplus n = 0 := by
    rcases Nat.eq_zero_or_pos n with rfl | hn
    · rfl
    · have := (Nat.log2_lt (Nat.ne_of_gt hn)).2 h
      unfold surplus
      omega
  have hp : Nat.pow 2 0 = 1 := rfl
  rw [machine, hs, hp, halfEven_one, Nat.mul_one]

end Drivetrain.Rounding
