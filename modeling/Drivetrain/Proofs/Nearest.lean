/-
Whole numbers as a mantissa holds them.

A mantissa has room for the leading bits of a number; the bits below them are rounded away.  What is
held is therefore a multiple of the power of two at which the leading bits end, and the nearest one.
Three things follow that the ranks of percentiles rest on: larger numbers are held as larger ones,
nothing is off by more than its share of one unit in the last place, and a number whose lower bits
are zero is held as it is.

Main definitions:

* `Drivetrain.Rounding.lower` — how many bits of a number are below its leading ones.

Main results:

* `Drivetrain.Rounding.lt_two_pow_lower`, `Drivetrain.Rounding.two_pow_le_of_lower` — how large a
  number is with so many lower bits;
* `Drivetrain.Rounding.machine_mono` — rounding keeps the order;
* `Drivetrain.Rounding.machine_le`, `Drivetrain.Rounding.le_machine` — and is off by a unit in the
  last place at most;
* `Drivetrain.Rounding.machine_eq_self_of_dvd` — numbers whose lower bits are zero are held.
-/

import Mathlib
import Drivetrain.Rounding

set_option relaxedAutoImplicit false
set_option autoImplicit false

namespace Drivetrain.Rounding

/-! ### Leading bits -/

/-- How many bits of a number are below its leading ones. -/
def lower (leading n : ℕ) : ℕ := n.log2 + 1 - leading

theorem lower_mono (leading : ℕ) {m n : ℕ} (h : m ≤ n) : lower leading m ≤ lower leading n := by
  have logs : m.log2 ≤ n.log2 := by
    simpa only [Nat.log2_eq_log_two] using Nat.log_mono_right h
  unfold lower
  omega

theorem lt_two_pow_lower (leading n : ℕ) : n < 2 ^ leading * 2 ^ lower leading n := by
  rw [← Nat.pow_add]
  calc n < 2 ^ (n.log2 + 1) := Nat.lt_log2_self
    _ ≤ 2 ^ (leading + lower leading n) :=
        Nat.pow_le_pow_right two_pos (by unfold lower; omega)

/-- A number that has lower bits has all of its leading ones. -/
theorem two_pow_le_of_lower (leading : ℕ) {n : ℕ} (h : 0 < lower (leading + 1) n) :
    2 ^ leading * 2 ^ lower (leading + 1) n ≤ n := by
  have nonzero : n ≠ 0 := by
    rintro rfl
    simp [lower] at h
  have exponent : leading + lower (leading + 1) n = n.log2 := by
    unfold lower at h ⊢
    omega
  rw [← Nat.pow_add, exponent]
  exact Nat.log2_self_le nonzero

/-- One unit of the last leading bit is a small share of the number. -/
theorem lower_eq_zero_or (leading n : ℕ) :
    lower (leading + 1) n = 0 ∨ 2 ^ leading * 2 ^ lower (leading + 1) n ≤ n :=
  (Nat.eq_zero_or_pos _).imp_right (two_pow_le_of_lower leading)

/-! ### The nearest quotient -/

theorem div_le_halfEven (n d : ℕ) : n / d ≤ halfEven n d := by
  unfold halfEven
  dsimp only
  split_ifs <;> omega

theorem halfEven_le_div_add_one (n d : ℕ) : halfEven n d ≤ n / d + 1 := by
  unfold halfEven
  dsimp only
  split_ifs <;> omega

theorem halfEven_mono {m n : ℕ} (d : ℕ) (h : m ≤ n) : halfEven m d ≤ halfEven n d := by
  rcases (Nat.div_le_div_right (c := d) h).lt_or_eq with apart | same
  · calc halfEven m d ≤ m / d + 1 := halfEven_le_div_add_one m d
      _ ≤ n / d := apart
      _ ≤ halfEven n d := div_le_halfEven n d
  · -- with one quotient the remainders are ordered as the numbers are
    have remainders : m % d ≤ n % d := by
      have hm := Nat.div_add_mod m d
      have hn := Nat.div_add_mod n d
      rw [same] at hm
      omega
    unfold halfEven
    dsimp only
    rw [same]
    split_ifs <;> omega

/-- The nearest multiple is no more than half a step away. -/
theorem halfEven_near (n : ℕ) {d : ℕ} (positive : 0 < d) :
    2 * (halfEven n d * d) ≤ 2 * n + d ∧ 2 * n ≤ 2 * (halfEven n d * d) + d := by
  have parts : n / d * d + n % d = n := Nat.div_add_mod' n d
  have remainder := Nat.mod_lt n positive
  unfold halfEven
  dsimp only
  split_ifs with below above
  · omega
  · rw [Nat.add_mul, Nat.one_mul]
    omega
  · -- half way, where either neighbor is as near
    rcases Nat.mod_two_eq_zero_or_one (n / d) with even | odd
    · rw [even, Nat.add_zero]
      omega
    · rw [odd, Nat.add_mul, Nat.one_mul]
      omega

theorem halfEven_of_dvd {n d : ℕ} (h : d ∣ n) : halfEven n d = n / d := by
  unfold halfEven
  dsimp only
  rw [Nat.mod_eq_zero_of_dvd h]
  rcases Nat.eq_zero_or_pos d with rfl | positive
  · simp
  · rw [if_pos (by omega)]

/-! ### The next quotient -/

theorem up_le_iff {n d k : ℕ} (positive : 0 < d) : up n d ≤ k ↔ n ≤ k * d := by
  unfold up
  rw [← Nat.lt_succ_iff, Nat.div_lt_iff_lt_mul positive, Nat.succ_mul]
  omega

theorem up_mono {m n : ℕ} (d : ℕ) (h : m ≤ n) : up m d ≤ up n d :=
  Nat.div_le_div_right (by omega)

/-- The next quotient as a number that was rounded up. -/
theorem up_eq_ceil (n : ℕ) {d : ℕ} (positive : 0 < d) : up n d = ⌈(n / d : ℚ)⌉₊ := by
  have divisor : (0 : ℚ) < d := by exact_mod_cast positive
  refine eq_of_forall_ge_iff fun k => ?_
  rw [up_le_iff positive, Nat.ceil_le, div_le_iff₀ divisor]
  exact_mod_cast Iff.rfl

/-! ### The mantissa -/

theorem machine_eq (n : ℕ) : machine n = halfEven n (2 ^ surplus n) * 2 ^ surplus n := rfl

/-- A number whose lower bits are zero is held as it is. -/
theorem machine_eq_self_of_dvd {n : ℕ} (h : 2 ^ surplus n ∣ n) : machine n = n := by
  rw [machine_eq, halfEven_of_dvd h, Nat.div_mul_cancel h]

/-- A number with a mantissa's bits at most, shifted to the left, is held as it is. -/
theorem machine_mul_two_pow {k : ℕ} (small : k < 2 ^ mantissaBits) (shift : ℕ) :
    machine (k * 2 ^ shift) = k * 2 ^ shift := by
  rcases Nat.eq_zero_or_pos k with rfl | positive
  · rw [Nat.zero_mul]
    rfl
  refine machine_eq_self_of_dvd (Dvd.dvd.mul_left (Nat.pow_dvd_pow 2 ?_) k)
  have size : k * 2 ^ shift < 2 ^ (mantissaBits + shift) := by
    rw [Nat.pow_add]
    exact Nat.mul_lt_mul_of_pos_right small (Nat.two_pow_pos shift)
  have log := (Nat.log2_lt (Nat.mul_pos positive (Nat.two_pow_pos shift)).ne').2 size
  unfold surplus
  omega

/-- **A larger number is held as a larger one.** -/
theorem machine_mono {m n : ℕ} (h : m ≤ n) : machine m ≤ machine n := by
  rcases (lower_mono 53 h).lt_or_eq with fewer | same
  · -- the larger one has more bits: a power of two of its own lies between
    have below : m / 2 ^ surplus m < 2 ^ 53 := by
      rw [Nat.div_lt_iff_lt_mul (Nat.two_pow_pos _)]
      exact lt_two_pow_lower 53 m
    have above : 2 ^ 52 ≤ n / 2 ^ surplus n := by
      rw [Nat.le_div_iff_mul_le (Nat.two_pow_pos _)]
      exact two_pow_le_of_lower 52 (Nat.zero_lt_of_lt fewer)
    calc machine m ≤ 2 ^ 53 * 2 ^ surplus m :=
          Nat.mul_le_mul_right _ ((halfEven_le_div_add_one _ _).trans below)
      _ = 2 ^ 52 * 2 ^ (surplus m + 1) := by ring
      _ ≤ 2 ^ 52 * 2 ^ surplus n := Nat.mul_le_mul_left _ (Nat.pow_le_pow_right two_pos fewer)
      _ ≤ machine n := Nat.mul_le_mul_right _ (above.trans (div_le_halfEven _ _))
  · have same : surplus m = surplus n := same
    rw [machine_eq, machine_eq, same]
    exact Nat.mul_le_mul_right _ (halfEven_mono _ h)

/-- One unit in the last place is a small share of the number. -/
theorem surplus_eq_zero_or (n : ℕ) : surplus n = 0 ∨ 2 ^ 52 * 2 ^ surplus n ≤ n :=
  lower_eq_zero_or 52 n

theorem machine_of_surplus {n : ℕ} (h : surplus n = 0) : machine n = n :=
  machine_eq_self_of_dvd (by rw [h]; exact one_dvd n)

/-- **What is held is hardly above the number.** -/
theorem machine_le (n : ℕ) : machine n * 2 ^ 53 ≤ n * (2 ^ 53 + 1) := by
  rcases surplus_eq_zero_or n with fits | unit
  · rw [machine_of_surplus fits]
    omega
  · have near := (halfEven_near n (Nat.two_pow_pos (surplus n))).1
    rw [← machine_eq] at near
    omega

/-- **What is held is hardly below the number.** -/
theorem le_machine (n : ℕ) : n * (2 ^ 53 - 1) ≤ machine n * 2 ^ 53 := by
  rcases surplus_eq_zero_or n with fits | unit
  · rw [machine_of_surplus fits]
    omega
  · have near := (halfEven_near n (Nat.two_pow_pos (surplus n))).2
    rw [← machine_eq] at near
    omega

end Drivetrain.Rounding
