/-
Sums of machine numbers that do not overflow.

A sum may be too large to be held, and is infinite then.  But next to the largest numbers the
digits are so far apart that something small is rounded away: a finite number stays finite when
anything below half of such a digit is added to it.  All readings and all durations are that small.

Main results:

* `Drivetrain.Machine.holds_roundWithAccuracy` — **what lies less than half a digit above the
  largest number** is rounded to a number;
* `Drivetrain.Machine.exists_value?_add`, `Drivetrain.Machine.exists_value?_sub` — sums and
  differences with something small are finite;
* `Drivetrain.Machine.exists_value?_toSeconds` — a duration is a finite number of seconds;
* `Drivetrain.Machine.isFinite_sub`, `Drivetrain.Machine.isNaN_mul_of_zero` — what becomes of a
  number that is not finite.
-/

import Mathlib
import Drivetrain.Time
import Drivetrain.Proofs.Magnitude

set_option relaxedAutoImplicit false
set_option autoImplicit false

namespace Drivetrain.Machine

open Float.Model (Format UnpackedFloat totalExponent)
open Float.Model.UnpackedFloat

/-! ### Rounding that does not overflow -/

/-- A mantissa less than half a digit above a bound is rounded no higher than the bound. -/
theorem roundedMantissa_le_of_half {m b k : ℕ} (h : m < (2 * b + 1) * 2 ^ k) :
    (ExtendedMantissa.ofMantissaAndAccuracy m .exact >>> (k + 1)).roundedMantissa ≤ b := by
  let x := ExtendedMantissa.ofMantissaAndAccuracy m .exact
  have shifted : ∀ n, (x >>> n).mantissa = m / 2 ^ n := fun n => by
    rw [mantissa_shiftRight, mantissa_ofMantissaAndAccuracy]
  have few : m / 2 ^ k < 2 * b + 1 := Nat.div_lt_of_lt_mul (by rwa [mul_comm])
  have halved : (x >>> (k + 1)).mantissa = m / 2 ^ k / 2 := by
    rw [shifted, pow_succ, Nat.div_div_eq_div_mul]
  rcases (show m / 2 ^ k / 2 ≤ b by omega).lt_or_eq with lt | eq
  · exact (roundedMantissa_le _).trans (by rw [halved]; exact lt)
  · -- the first digit dropped is none, so nothing is added
    have bit : (x >>> (k + 1)).roundBit = false := by
      change ((x >>> k).mantissa % 2 != 0) = false
      rw [shifted, show m / 2 ^ k = 2 * b by omega]
      simp
    have whole : (x >>> (k + 1)).roundedMantissa = (x >>> (k + 1)).mantissa := by
      generalize x >>> (k + 1) = y at bit
      rcases y with ⟨_, _ | _, _ | _⟩ <;> first | rfl | cases bit
    exact (whole.trans (halved.trans eq)).le

/-- **What lies less than half a digit above the largest number** is rounded to a number. -/
theorem holds_roundWithAccuracy (s : Sign) {m : ℕ} {e : ℤ} (room : e ≤ place m e)
    (small : (m : ℚ) * 2 ^ e < (2 ^ 54 - 1 : ℕ) * 2 ^ (970 : ℤ)) :
    ∃ c, Holds (roundWithAccuracy Format.binary64 s m e .exact) c := by
  obtain ⟨k, hk⟩ := Int.le.dest room
  generalize hr : (ExtendedMantissa.ofMantissaAndAccuracy m .exact >>> k).roundedMantissa = r
  rcases Nat.eq_zero_or_pos r with rfl | pos
  · rw [roundWithAccuracy_zero s hk.symm hr]
    exact ⟨0, .zero s⟩
  · have top : e + k ≤ 971 := by
      rcases Nat.eq_zero_or_pos m with rfl | hm
      · rw [place, Nat.log2_zero] at hk
        omega
      · have bits : (2 ^ 54 - 1 : ℕ).log2 = 53 := by decide
        have order := log2_add_le hm small.le
        rw [bits] at order
        rw [place] at hk
        omega
    have bits := (shifted_bounds hk.symm).1
    have carried := roundedMantissa_le (ExtendedMantissa.ofMantissaAndAccuracy m .exact >>> k)
    rw [hr, mantissa_shiftRight, mantissa_ofMantissaAndAccuracy] at carried
    -- at the largest exponent the mantissa is not rounded up to one more digit
    have fits : r < 2 ^ 53 ∨ r < 2 ^ 54 ∧ e + k ≤ 970 := by
      rcases top.lt_or_eq with lt | eq
      · exact .inr (by omega)
      · refine .inl ?_
        cases k with
        | zero =>
            have whole : r = m := hr.symm
            simpa [whole] using bits
        | succ k =>
            have exponent : (2 : ℚ) ^ (970 : ℤ) = 2 ^ k * 2 ^ e := by
              rw [← zpow_natCast, ← zpow_add₀ two_ne_zero, show (k : ℤ) + e = 970 by omega]
            rw [exponent, ← mul_assoc] at small
            have below := lt_of_mul_lt_mul_right small (by positivity)
            have under : m < (2 * (2 ^ 53 - 1) + 1) * 2 ^ k := by exact_mod_cast below
            have rounded := roundedMantissa_le_of_half under
            omega
    obtain ⟨q, i, canonical, value, rounded⟩ := roundWithAccuracy_eq s hk.symm hr pos
    have most : i ≤ 971 := by
      have order := log2_add_eq canonical.pos pos value
      have place := canonical.place
      have digits : r.log2 < 53 ∨ r.log2 < 54 ∧ e + k ≤ 970 :=
        fits.imp (Nat.log2_lt (Nat.ne_of_gt pos)).2
          (And.imp_left (Nat.log2_lt (Nat.ne_of_gt pos)).2)
      rw [Machine.place] at place
      omega
    rw [rounded]
    exact ⟨_, .finite s canonical most⟩

theorem holds_round (s : Sign) {m : ℕ} {e : ℤ} (hm : 0 < m)
    (small : (m : ℚ) * 2 ^ e < (2 ^ 54 - 1 : ℕ) * 2 ^ (970 : ℤ)) :
    ∃ c, Holds (UnpackedFloat.round Format.binary64 s m e) c := by
  rw [UnpackedFloat.round, targetExponent_eq, decreaseExponent]
  generalize hn : (e - place m e).toNat = n
  have same : place (m * 2 ^ n) (e - n) = place m e := by
    rw [place_mul_two_pow hm, sub_add_cancel]
  have value : ((m * 2 ^ n : ℕ) : ℚ) * 2 ^ (e - n : ℤ) = m * 2 ^ e := by
    rw [zpow_sub₀ two_ne_zero, zpow_natCast]
    push_cast
    field_simp
  dsimp only
  rw [Nat.shiftLeft_eq]
  refine holds_roundWithAccuracy s (by rw [same]; omega) ?_
  rwa [value]

theorem holds_normalize {m e : ℤ} (z : Sign)
    (small : |(m : ℚ) * 2 ^ e| < (2 ^ 54 - 1 : ℕ) * 2 ^ (970 : ℤ)) :
    ∃ c, Holds (UnpackedFloat.normalize Format.binary64 m e z) c := by
  have magnitude : |(m : ℚ) * 2 ^ e| = (m.natAbs : ℚ) * 2 ^ e := by
    rw [abs_mul, abs_of_pos (by positivity : (0 : ℚ) < 2 ^ e), Nat.cast_natAbs, Int.cast_abs]
  rw [magnitude] at small
  rw [UnpackedFloat.normalize]
  rcases lt_trichotomy m 0 with below | rfl | above
  · rw [compare_lt_iff_lt.2 below]
    have same : (-m).toNat = m.natAbs := by omega
    dsimp only
    rw [same]
    exact holds_round .negative (by omega) small
  · exact ⟨0, .zero z⟩
  · rw [compare_gt_iff_gt.2 above]
    have same : m.toNat = m.natAbs := by omega
    dsimp only
    rw [same]
    exact holds_round .positive (by omega) small

/-- No number that is held is larger than the largest one. -/
theorem Holds.abs_le {u : UnpackedFloat} {a : ℚ} (h : Holds u a) :
    |a| ≤ (2 ^ 53 - 1 : ℕ) * 2 ^ (971 : ℤ) := by
  cases h with
  | zero s => rw [abs_zero]; positivity
  | @finite s m e canonical most =>
      have mantissa : (m : ℚ) ≤ (2 ^ 53 - 1 : ℕ) := by
        exact_mod_cast Nat.le_sub_one_of_lt canonical.bounds.1
      have exponent : (2 : ℚ) ^ e ≤ 2 ^ (971 : ℤ) := zpow_le_zpow_right₀ (by norm_num) most
      rw [abs_apply]
      gcongr

/-- **A sum with a number that is small** beside the largest does not overflow. -/
theorem Holds.add_small {u v : UnpackedFloat} {a b : ℚ} (hu : Holds u a) (hv : Holds v b)
    (hb : |b| < 2 ^ (970 : ℤ)) : ∃ c, Holds (UnpackedFloat.add Format.binary64 u v) c := by
  have large := hu.abs_le
  cases hu with
  | zero s =>
      cases hv with
      | zero s' =>
          rw [UnpackedFloat.add]
          split
          · exact ⟨0, .zero s⟩
          · exact ⟨0, .zero .positive⟩
      | finite s' h' most' => exact ⟨_, .finite s' h' most'⟩
  | @finite s m e h most =>
      cases hv with
      | zero s' => exact ⟨_, .finite s h most⟩
      | @finite s' m' e' h' most' =>
          have double : (2 : ℚ) ^ (971 : ℤ) = 2 * 2 ^ (970 : ℤ) := by
            rw [← zpow_one_add₀ two_ne_zero]
            rfl
          have total : ∀ t : ℚ, (2 ^ 53 - 1 : ℕ) * (2 * t) + t = (2 ^ 54 - 1 : ℕ) * t := by
            intro t
            push_cast
            ring
          rw [double] at large
          have small := (abs_add_le _ _).trans_lt (add_lt_add_of_le_of_lt large hb)
          rw [← sum_value, total] at small
          exact holds_normalize .positive small

theorem exists_value?_add {x y : Float} {a b : ℚ} (hx : value? x = some a) (hy : value? y = some b)
    (hb : |b| < 2 ^ (970 : ℤ)) : ∃ c, value? (x + y) = some c := by
  obtain ⟨c, held⟩ := (holds_of_value? hx).add_small (holds_of_value? hy) hb
  exact ⟨c, held.amount?⟩

theorem exists_value?_sub {x y : Float} {a b : ℚ} (hx : value? x = some a) (hy : value? y = some b)
    (hb : |b| < 2 ^ (970 : ℤ)) : ∃ c, value? (x - y) = some c := by
  have hx := holds_of_value? hx
  have hy := holds_of_value? hy
  obtain ⟨c, held⟩ := hx.add_small hy.neg (by rwa [abs_neg])
  rw [← sub_eq] at held
  exact ⟨c, held.amount?⟩

/-! ### Durations -/

theorem two_pow_lt {k : ℕ} (h : k < 970) : (2 : ℚ) ^ k < 2 ^ (970 : ℤ) := by
  rw [← zpow_natCast]
  exact zpow_lt_zpow_right₀ (by norm_num) (by omega)

theorem ofScientific_eq {n : ℕ} (pos : 0 < n) :
    UnpackedFloat.ofScientific Format.binary64 n 0 =
      roundWithAccuracy Format.binary64 .positive (n * 2 ^ 53) (-53) .exact := by
  have digits : (0 : ℤ) ≤ 2 ^ Format.binary64.exponentBits := by positivity
  rw [UnpackedFloat.ofScientific, dif_neg (Nat.ne_of_gt pos), if_neg (by omega), if_neg (by omega),
    if_pos le_rfl]
  change roundWithAccuracy Format.binary64 .positive (n <<< 53 * 1) (-53) .exact = _
  rw [Nat.shiftLeft_eq, mul_one]

/-- A whole number too large to be held as it is does not overflow if it has sixty-four bits. -/
theorem exists_value?_ofScientific {n : ℕ} (pos : 0 < n) (h : n < 2 ^ 64) :
    ∃ c, value? (Float.ofModel (Float.Model.ofScientific n 0)) = some c := by
  have value : ((n * 2 ^ 53 : ℕ) : ℚ) * 2 ^ (-53 : ℤ) = n := by
    rw [Nat.cast_mul, Nat.cast_pow, Nat.cast_ofNat, ← zpow_natCast, mul_assoc,
      ← zpow_add₀ two_ne_zero]
    simp
  have room : -53 ≤ place (n * 2 ^ 53) (-53) := by
    rw [place_mul_two_pow pos, place]
    omega
  have below : (n : ℚ) < 2 ^ 64 := by exact_mod_cast h
  have large : (1 : ℚ) ≤ (2 ^ 54 - 1 : ℕ) := by norm_num
  have beyond := two_pow_lt (k := 64) (by norm_num)
  have small : ((n * 2 ^ 53 : ℕ) : ℚ) * 2 ^ (-53 : ℤ) < (2 ^ 54 - 1 : ℕ) * 2 ^ (970 : ℤ) := by
    calc ((n * 2 ^ 53 : ℕ) : ℚ) * 2 ^ (-53 : ℤ) = n := value
      _ < 2 ^ (970 : ℤ) := below.trans beyond
      _ ≤ (2 ^ 54 - 1 : ℕ) * 2 ^ (970 : ℤ) := le_mul_of_one_le_left (by positivity) large
  obtain ⟨c, held⟩ := holds_roundWithAccuracy .positive room small
  rw [← ofScientific_eq pos] at held
  exact ⟨c, held.amount?⟩

/-- **Whole numbers of sixty-four bits do not overflow.** -/
theorem exists_value?_ofInt {n : ℕ} (h : n < 2 ^ 64) : ∃ c, value? (Float.ofInt n) = some c := by
  rcases Nat.lt_or_ge n (2 ^ 53) with few | many
  · exact ⟨n, by exact_mod_cast value?_ofInt (n := n) (by simpa using few)⟩
  · have slow : Float.ofInt n = Float.ofModel (Float.Model.ofScientific n 0) := by
      change Float.ofScientific n false 0 = _
      rw [Float.ofScientific, dif_neg (by omega)]
      rfl
    rw [slow]
    exact exists_value?_ofScientific (by omega) h

/-- **A duration is a finite number of seconds**, if its whole seconds have sixty-four bits. -/
theorem exists_value?_toSeconds {n : ℕ} (h : n < 2 ^ 64 * Time.perSecond) :
    ∃ c, value? (Time.toSeconds n) = some c := by
  have second : value? (Float.ofInt Time.perSecond) = some (Time.perSecond : ℚ) := by
    exact_mod_cast value?_ofInt (n := Time.perSecond) (by decide)
  have few : n % Time.perSecond < Time.perSecond := Nat.mod_lt _ (by decide)
  have rest : value? (Float.ofInt (n % Time.perSecond : ℕ)) =
      some ((n % Time.perSecond : ℕ) : ℚ) := by
    refine mod_cast value?_ofInt (n := (n % Time.perSecond : ℕ)) ?_
    rw [Int.natAbs_natCast]
    exact few.trans (by decide)
  have fraction : |((n % Time.perSecond : ℕ) : ℚ)| ≤ |(Time.perSecond : ℚ)| := by
    rw [Nat.abs_cast, Nat.abs_cast]
    exact_mod_cast few.le
  have nonzero : (Time.perSecond : ℚ) ≠ 0 := by exact_mod_cast (by decide : Time.perSecond ≠ 0)
  obtain ⟨a, whole⟩ := exists_value?_ofInt (n := n / Time.perSecond)
    (Nat.div_lt_of_lt_mul (by rwa [mul_comm]))
  obtain ⟨b, part, small⟩ :=
    (holds_of_value? rest).div_le (holds_of_value? second) nonzero fraction
  have bound := two_pow_lt (k := 0) (by norm_num)
  exact exists_value?_add whole part.amount? (small.trans_lt bound)

/-! ### What is not finite -/

/-- A difference with a number leaves what is not finite as it is. -/
theorem isFinite_sub {x y : Float} {b : ℚ} (hy : value? y = some b) (h : x.isFinite = false) :
    (x - y).isFinite = false := by
  change (Float.Model.pack (UnpackedFloat.sub Format.binary64 _ _)).unpack.isFinite = false
  change x.toModel.unpack.isFinite = false at h
  have hv := holds_of_value? hy
  generalize y.toModel.unpack = v at hv
  generalize x.toModel.unpack = u at h
  have kept : UnpackedFloat.sub Format.binary64 u v = u := by
    cases u with
    | notANumber => rfl
    | infinity s => cases hv <;> rfl
    | zero s => cases h
    | finite s m e hm => cases h
  rw [kept]
  cases u with
  | notANumber => rfl
  | infinity s => cases s <;> rfl
  | zero s => cases h
  | finite s m e hm => cases h

/-- Nothing times what is not finite is not a number. -/
theorem isNaN_mul_of_zero {x y : Float} (hx : value? x = some 0) (h : y.isFinite = false) :
    (x * y).isNaN = true := by
  obtain ⟨s, hu⟩ := (holds_of_value? hx).exists_zero
  change (Float.Model.pack (UnpackedFloat.mul Format.binary64 _ _)).unpack.isNaN = true
  change y.toModel.unpack.isFinite = false at h
  rw [isNaN_pack, hu]
  generalize y.toModel.unpack = v at h
  cases v with
  | notANumber => rfl
  | infinity s => rfl
  | zero s => cases h
  | finite s m e hm => cases h

theorem isNaN_add_right (x : Float) {y : Float} (h : y.isNaN = true) : (x + y).isNaN = true := by
  change (Float.Model.pack (UnpackedFloat.add Format.binary64 _ _)).unpack.isNaN = true
  change y.toModel.unpack.isNaN = true at h
  rw [isNaN_pack]
  generalize y.toModel.unpack = v at h
  cases v with
  | notANumber => cases x.toModel.unpack <;> rfl
  | _ => cases h

end Drivetrain.Machine
