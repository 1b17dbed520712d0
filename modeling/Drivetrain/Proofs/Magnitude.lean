/-
Magnitudes of machine numbers: comparison by value, and bounds that rounding does not pass.

Where a result cannot be held it is rounded, but not past a bound that can be held itself: what is
rounded lies on one side of the bound, and so does the nearest number to it.  A product by a factor
of at most one is therefore no larger than the other factor, and a quotient by something at least as
large is at most one.

Main definitions:

* `Drivetrain.Machine.Level`, `Drivetrain.Machine.level?` — where a machine number stands: its
  value, or beyond all values;
* `Drivetrain.Machine.Fraction` — at most one in magnitude, or not a number.

Main results:

* `Drivetrain.Machine.lt_iff_level`, `Drivetrain.Machine.le_iff_level` — machine numbers compare as
  they stand;
* `Drivetrain.Machine.round_le` — **rounding does not pass a bound that can be held**;
* `Drivetrain.Machine.value?_mul_within`, `Drivetrain.Machine.value?_div_within` — so a product or a
  quotient under such a bound is under it as it is rounded;
* `Drivetrain.Machine.value?_mul_le`, `Drivetrain.Machine.fraction_div` — the bounds of one;
* `Drivetrain.Machine.isNaN_sub`, `Drivetrain.Machine.isNaN_mul` — arithmetic with a finite number
  makes no number of what is none, and the other way round;
* `Drivetrain.Machine.natAbs_truncate_le` — dropping the fraction makes no number larger.
-/

import Mathlib
import Drivetrain.Proofs.Machine

set_option relaxedAutoImplicit false
set_option autoImplicit false

namespace Drivetrain.Machine

open Float.Model (Format UnpackedFloat totalExponent)
open Float.Model.UnpackedFloat

/-! ### Comparison by value -/

/-- Of two numbers as they are kept the one with the larger exponent is larger. -/
theorem Canonical.lt_of_exponent_lt {m m' : ℕ} {e e' : ℤ} (h : Canonical m e)
    (h' : Canonical m' e') (lt : e < e') : (m : ℚ) * 2 ^ e < m' * 2 ^ e' := by
  obtain ⟨high, least, -⟩ := h.bounds
  have full : 2 ^ 52 ≤ m' := h'.bounds.2.2.resolve_right (by omega)
  obtain ⟨k, rfl⟩ := Int.le.dest (show e + 1 ≤ e' from lt)
  have mantissa : (m : ℚ) < 2 ^ 53 := by exact_mod_cast high
  have mantissa' : (2 : ℚ) ^ 52 ≤ m' := by exact_mod_cast full
  calc (m : ℚ) * 2 ^ e < 2 ^ 53 * 2 ^ e := by gcongr
    _ = 2 ^ 52 * 2 ^ (e + 1) := by rw [zpow_add₀ two_ne_zero]; ring
    _ ≤ m' * 2 ^ (e + 1 + (k : ℤ)) := by
        have wider : (2 : ℚ) ^ (e + 1) ≤ 2 ^ (e + 1 + (k : ℤ)) :=
          zpow_le_zpow_right₀ (by norm_num) (by omega)
        gcongr

/-- Numbers as they are kept compare by exponent, then by mantissa. -/
theorem Canonical.compare_eq_lt {m m' : ℕ} {e e' : ℤ} (h : Canonical m e) (h' : Canonical m' e') :
    (compare e e').then (compare m m') = .lt ↔ (m : ℚ) * 2 ^ e < m' * 2 ^ e' := by
  rcases lt_trichotomy e e' with lt | rfl | lt
  · rw [compare_lt_iff_lt.2 lt]
    exact iff_of_true rfl (h.lt_of_exponent_lt h' lt)
  · have positive : (0 : ℚ) < 2 ^ e := by positivity
    rw [compare_eq_iff_eq.2 rfl, mul_lt_mul_iff_left₀ positive]
    exact compare_lt_iff_lt.trans Nat.cast_lt.symm
  · rw [compare_gt_iff_gt.2 lt]
    exact iff_of_false nofun (h'.lt_of_exponent_lt h lt).not_gt

theorem Holds.lt_iff {u v : UnpackedFloat} {a b : ℚ} (hu : Holds u a) (hv : Holds v b) :
    u.lt v = true ↔ a < b := by
  have positive : ∀ {m : ℕ} {e : ℤ}, Canonical m e → (0 : ℚ) < m * 2 ^ e := fun h =>
    mul_pos (by exact_mod_cast h.pos) (by positivity)
  cases hu with
  | zero s =>
      cases hv with
      | zero s' => exact iff_of_false Bool.false_ne_true (lt_irrefl _)
      | finite s' h' most' =>
          have p' := positive h'
          cases s' with
          | positive => exact iff_of_true rfl (by simpa [Sign.apply] using p')
          | negative =>
              exact iff_of_false Bool.false_ne_true (by simpa [Sign.apply] using p'.le)
  | finite s h most =>
      have p := positive h
      cases hv with
      | zero s' =>
          cases s with
          | positive => exact iff_of_false Bool.false_ne_true (by simpa [Sign.apply] using p.le)
          | negative => exact iff_of_true rfl (by simpa [Sign.apply] using p)
      | @finite s' m' e' h' most' =>
          have p' := positive h'
          cases s with
          | positive =>
              cases s' with
              | positive =>
                  simpa [UnpackedFloat.lt, UnpackedFloat.compare, Sign.apply] using
                    h.compare_eq_lt h'
              | negative =>
                  refine iff_of_false Bool.false_ne_true (le_of_lt ?_).not_gt
                  simp only [Sign.apply, Int.cast_neg, Int.cast_natCast, neg_mul]
                  linarith
          | negative =>
              cases s' with
              | positive =>
                  refine iff_of_true rfl ?_
                  simp only [Sign.apply, Int.cast_neg, Int.cast_natCast, neg_mul]
                  linarith
              | negative =>
                  have turned := h'.compare_eq_lt h
                  rw [Std.OrientedOrd.eq_swap (a := e'), Std.OrientedOrd.eq_swap (a := m'),
                    ← Ordering.swap_then] at turned
                  simpa [UnpackedFloat.lt, UnpackedFloat.compare, Sign.apply] using turned

/-! ### Where machine numbers stand -/

/-- **Where a machine number can stand**: at a value, or beyond all values on either side. -/
abbrev Level : Type := WithBot (WithTop ℚ)

/-- **Where an unpacked number stands**, if it is one. -/
inductive Stands : UnpackedFloat → Level → Prop where
  | below : Stands (.infinity .negative) ⊥
  | value {u : UnpackedFloat} {a : ℚ} (h : Holds u a) : Stands u (a : WithTop ℚ)
  | above : Stands (.infinity .positive) ⊤

theorem Holds.amount?_eq {u : UnpackedFloat} {a : ℚ} (h : Holds u a) :
    Machine.amount? u = some a := by
  cases h <;> rfl

theorem value?_of_holds {x : Float} {a : ℚ} (h : Holds x.toModel.unpack a) : value? x = some a :=
  h.amount?_eq

theorem Holds.isNaN {u : UnpackedFloat} {a : ℚ} (h : Holds u a) : u.isNaN = false := by
  cases h <;> rfl

/-- A machine number stands somewhere, unless it is not a number. -/
theorem stands_of_isNaN {x : Float} (h : x.isNaN = false) :
    ∃ a, Stands x.toModel.unpack a := by
  change x.toModel.unpack.isNaN = false at h
  cases hu : x.toModel.unpack with
  | zero s => exact ⟨_, .value (.zero s)⟩
  | finite s m e hm =>
      obtain ⟨canonical, most⟩ := canonical_unpack hu
      exact ⟨_, .value (.finite s canonical most)⟩
  | infinity s =>
      cases s with
      | negative => exact ⟨_, .below⟩
      | positive => exact ⟨_, .above⟩
  | notANumber => rw [hu] at h; cases h

theorem Stands.isNaN {u : UnpackedFloat} {a : Level} (h : Stands u a) : u.isNaN = false := by
  cases h with
  | below | above => rfl
  | value h => exact h.isNaN

theorem Stands.lt_iff {u v : UnpackedFloat} {a b : Level} (hu : Stands u a) (hv : Stands v b) :
    u.lt v = true ↔ a < b := by
  cases hu with
  | below =>
      cases hv with
      | below => exact iff_of_false Bool.false_ne_true (lt_irrefl _)
      | value h => cases h <;> exact iff_of_true rfl (WithBot.bot_lt_coe _)
      | above => exact iff_of_true rfl (WithBot.bot_lt_coe _)
  | @value _ a h =>
      cases hv with
      | below => cases h with
        | zero s => exact iff_of_false Bool.false_ne_true not_lt_bot
        | finite s h most => cases s <;> exact iff_of_false Bool.false_ne_true not_lt_bot
      | value h' => rw [h.lt_iff h', WithBot.coe_lt_coe, WithTop.coe_lt_coe]
      | above =>
          have beyond : ((a : WithTop ℚ) : Level) < ⊤ :=
            WithBot.coe_lt_coe.2 (WithTop.coe_lt_top a)
          cases h with
          | zero s => exact iff_of_true rfl beyond
          | finite s h most => cases s <;> exact iff_of_true rfl beyond
  | above =>
      cases hv with
      | below => exact iff_of_false Bool.false_ne_true not_lt_bot
      | value h => cases h <;> exact iff_of_false Bool.false_ne_true not_top_lt
      | above => exact iff_of_false Bool.false_ne_true (lt_irrefl _)

/-- **Machine numbers compare as they stand.** -/
theorem lt_iff_level {x y : Float} {a b : Level} (hx : Stands x.toModel.unpack a)
    (hy : Stands y.toModel.unpack b) : x < y ↔ a < b := by
  change decide (UnpackedFloat.lt _ _ = true) = true ↔ _
  rw [decide_eq_true_iff]
  exact hx.lt_iff hy

theorem le_iff_level {x y : Float} {a b : Level} (hx : Stands x.toModel.unpack a)
    (hy : Stands y.toModel.unpack b) : x ≤ y ↔ a ≤ b := by
  rw [← not_lt hy.isNaN hx.isNaN, lt_iff_level hy hx]
  exact ⟨le_of_not_gt, fun h => h.not_gt⟩

theorem isNaN_of_le_left {x y : Float} (h : x ≤ y) : x.isNaN = false := by
  change decide (UnpackedFloat.le x.toModel.unpack y.toModel.unpack = true) = true at h
  change x.toModel.unpack.isNaN = false
  cases hu : x.toModel.unpack with
  | notANumber => rw [hu] at h; cases h
  | _ => rfl

protected theorem le_refl {x : Float} (h : x.isNaN = false) : x ≤ x := by
  obtain ⟨a, stands⟩ := stands_of_isNaN h
  exact (le_iff_level stands stands).2 le_rfl

protected theorem le_of_lt {x y : Float} (h : x < y) : x ≤ y := by
  change decide (UnpackedFloat.lt x.toModel.unpack y.toModel.unpack = true) = true at h
  change decide (UnpackedFloat.le x.toModel.unpack y.toModel.unpack = true) = true
  rw [decide_eq_true_iff, UnpackedFloat.lt, beq_iff_eq] at h
  rw [decide_eq_true_iff, UnpackedFloat.le, h]
  rfl

protected theorem not_lt_of_le {x y : Float} (h : x ≤ y) : ¬ y < x :=
  (not_lt (isNaN_of_le h) (isNaN_of_le_left h)).2 h

protected theorem lt_asymm {x y : Float} (h : x < y) : ¬ y < x :=
  Machine.not_lt_of_le (Machine.le_of_lt h)

protected theorem le_trans {x y z : Float} (hxy : x ≤ y) (hyz : y ≤ z) : x ≤ z := by
  obtain ⟨a, hx⟩ := stands_of_isNaN (isNaN_of_le_left hxy)
  obtain ⟨b, hy⟩ := stands_of_isNaN (isNaN_of_le hxy)
  obtain ⟨c, hz⟩ := stands_of_isNaN (isNaN_of_le hyz)
  rw [le_iff_level hx hy] at hxy
  rw [le_iff_level hy hz] at hyz
  exact (le_iff_level hx hz).2 (hxy.trans hyz)

theorem le_of_value? {x y : Float} {a b : ℚ} (hx : value? x = some a) (hy : value? y = some b) :
    x ≤ y ↔ a ≤ b := by
  rw [le_iff_level (.value (holds_of_value? hx)) (.value (holds_of_value? hy)),
    WithBot.coe_le_coe, WithTop.coe_le_coe]

theorem lt_of_value? {x y : Float} {a b : ℚ} (hx : value? x = some a) (hy : value? y = some b) :
    x < y ↔ a < b := by
  rw [lt_iff_level (.value (holds_of_value? hx)) (.value (holds_of_value? hy)),
    WithBot.coe_lt_coe, WithTop.coe_lt_coe]

/-! ### Magnitudes -/

/-- The magnitude of a number in canonical form. -/
theorem abs_apply (s : Sign) (m : ℕ) (e : ℤ) :
    |((s.apply m : ℤ) : ℚ) * 2 ^ e| = m * 2 ^ e := by
  rw [abs_mul, abs_of_pos (by positivity : (0 : ℚ) < 2 ^ e)]
  cases s <;> simp [Sign.apply]

theorem Holds.abs {u : UnpackedFloat} {a : ℚ} (h : Holds u a) : Holds u.abs |a| := by
  cases h with
  | zero s => rw [abs_zero]; exact .zero _
  | @finite s m e h most =>
      rw [abs_apply]
      exact .finite .positive h most

theorem value?_abs {x : Float} {a : ℚ} (h : value? x = some a) : value? (Float.abs x) = some |a| :=
  (holds_of_value? h).abs.amount?

/-! ### Rounding under a bound -/

/-- Shifting to the right divides the mantissa. -/
theorem mantissa_shiftRight (x : ExtendedMantissa) (k : ℕ) :
    (x >>> k).mantissa = x.mantissa / 2 ^ k := by
  change (Nat.repeat ExtendedMantissa.shiftRightOne k x).mantissa = _
  induction k with
  | zero => simp [Nat.repeat]
  | succ k ih =>
      rw [Nat.repeat, pow_succ, ← Nat.div_div_eq_div_mul, ← ih]
      rfl

theorem mantissa_ofMantissaAndAccuracy (m : ℕ) (acc : Accuracy) :
    (ExtendedMantissa.ofMantissaAndAccuracy m acc).mantissa = m := by
  rcases acc with _ | ⟨_ | _ | _⟩ <;> rfl

/-- What is rounded goes up by one at most. -/
theorem roundedMantissa_le (x : ExtendedMantissa) : x.roundedMantissa ≤ x.mantissa + 1 := by
  have parity := Nat.mod_lt x.mantissa two_pos
  rcases x with ⟨m, _ | _, _ | _⟩ <;>
    simp only [ExtendedMantissa.roundedMantissa, ExtendedMantissa.accuracy,
      Accuracy.roundToNearestEven] at parity ⊢ <;> omega

theorem mantissa_le_roundedMantissa (x : ExtendedMantissa) : x.mantissa ≤ x.roundedMantissa := by
  rcases x with ⟨m, _ | _, _ | _⟩ <;>
    simp only [ExtendedMantissa.roundedMantissa, ExtendedMantissa.accuracy,
      Accuracy.roundToNearestEven] <;> omega

theorem place_mono {m m' : ℕ} (le : m ≤ m') (e : ℤ) : place m e ≤ place m' e := by
  have digits : m.log2 ≤ m'.log2 := by
    rw [Nat.log2_eq_log_two, Nat.log2_eq_log_two]
    exact Nat.log_mono_right le
  rw [place, place]
  omega

/-- The place of a number under a bound is not above that of the bound. -/
theorem Canonical.place_le {q : ℕ} {E : ℤ} (h : Canonical q E) {m k : ℕ} {e : ℤ}
    (exponent : e + k = E) (under : m ≤ q * 2 ^ k) : Machine.place m e ≤ E := by
  calc Machine.place m e ≤ Machine.place (q * 2 ^ k) e := place_mono under e
    _ = Machine.place q E := by rw [place_mul_two_pow h.pos, exponent]
    _ = E := h.place

/-- Whether a mantissa of some accuracy, the last digit of which it is sure of, lies under a
bound. -/
def Under (m : ℕ) (acc : Accuracy) (bound : ℕ) : Prop :=
  m < bound ∨ m = bound ∧ acc = .exact

theorem Under.le {m bound : ℕ} {acc : Accuracy} (h : Under m acc bound) : m ≤ bound :=
  h.elim le_of_lt fun h => h.1.le

/-- **A mantissa under a bound stays there when it is shifted and rounded.** -/
theorem Under.rounded {m b k : ℕ} {acc : Accuracy} (h : Under m acc (b * 2 ^ k)) :
    (ExtendedMantissa.ofMantissaAndAccuracy m acc >>> k).roundedMantissa ≤ b := by
  rcases h with lt | ⟨rfl, rfl⟩
  · have shifted : (ExtendedMantissa.ofMantissaAndAccuracy m acc >>> k).mantissa < b := by
      rw [mantissa_shiftRight, mantissa_ofMantissaAndAccuracy]
      exact Nat.div_lt_of_lt_mul (by rwa [mul_comm])
    exact (roundedMantissa_le _).trans shifted
  · exact (congrArg ExtendedMantissa.roundedMantissa (shiftRight_exact b k)).le

/-- A mantissa brought to its place has at most fifty-three bits, and that many unless it is at the
least exponent. -/
theorem shifted_bounds {m k : ℕ} {e : ℤ} (hk : place m e = e + k) :
    m / 2 ^ k < 2 ^ 53 ∧ (2 ^ 52 ≤ m / 2 ^ k ∨ e + k = -1074) := by
  rw [place] at hk
  constructor
  · rw [Nat.div_lt_iff_lt_mul (by positivity), ← pow_add]
    exact lt_of_lt_of_le Nat.lt_log2_self (Nat.pow_le_pow_right two_pos (by omega))
  · by_cases least : e + k = -1074
    · exact .inr least
    · have hm : m ≠ 0 := by
        rintro rfl
        rw [Nat.log2_zero] at hk
        omega
      refine .inl ((Nat.le_div_iff_mul_le (by positivity)).2 ?_)
      rw [← pow_add]
      exact (Nat.pow_le_pow_right two_pos (by omega)).trans (Nat.log2_self_le hm)

theorem shiftToTargetExponent_eq {m k : ℕ} {e : ℤ} (acc : Accuracy) (hk : place m e = e + k) :
    shiftToTargetExponent Format.binary64 m e acc =
      (ExtendedMantissa.ofMantissaAndAccuracy m acc >>> k, e + k) := by
  have amount : (place m e - e).toNat = k := by omega
  rw [shiftToTargetExponent, targetExponent_eq, shiftToExponent, amount]

/-- **What rounding comes to**: the rounded mantissa in canonical form. -/
theorem roundWithAccuracy_eq (s : Sign) {m k r : ℕ} {e : ℤ} {acc : Accuracy}
    (hk : place m e = e + k)
    (hr : (ExtendedMantissa.ofMantissaAndAccuracy m acc >>> k).roundedMantissa = r) (pos : 0 < r) :
    ∃ (q : ℕ) (i : ℤ) (h : Canonical q i), (q : ℚ) * 2 ^ i = r * 2 ^ (e + k) ∧
      roundWithAccuracy Format.binary64 s m e acc = .finite s q i h.pos := by
  obtain ⟨bits, full⟩ := shifted_bounds hk
  have least : -1074 ≤ e + k := by rw [← hk, place]; omega
  have low := mantissa_le_roundedMantissa (ExtendedMantissa.ofMantissaAndAccuracy m acc >>> k)
  have high := roundedMantissa_le (ExtendedMantissa.ofMantissaAndAccuracy m acc >>> k)
  rw [hr, mantissa_shiftRight, mantissa_ofMantissaAndAccuracy] at low high
  -- rounding up may give one bit too many, which is shifted out again
  obtain ⟨q, j, canonical, rfl⟩ :
      ∃ q j : ℕ, Canonical q (e + k + j) ∧ r = q * 2 ^ j := by
    rcases Nat.lt_or_ge r (2 ^ 53) with room | carry
    · refine ⟨r, 0, ?_, (mul_one r).symm⟩
      rw [Nat.cast_zero, add_zero]
      exact canonical_of_bounds pos room least (full.imp_left (·.trans low))
    · have whole : Canonical (2 ^ 52) (e + k + (1 : ℕ)) :=
        canonical_of_bounds (by positivity) (by norm_num) (by omega) (.inl le_rfl)
      exact ⟨2 ^ 52, 1, whole, by omega⟩
  have again : place (q * 2 ^ j) (e + k) = e + k + j := by
    rw [place_mul_two_pow canonical.pos, canonical.place]
  have exact : ExtendedMantissa.ofMantissaAndAccuracy (q * 2 ^ j) .exact >>> j =
      ⟨q, false, false⟩ := shiftRight_exact q j
  refine ⟨q, e + k + j, canonical, ?_, ?_⟩
  · rw [zpow_add₀ two_ne_zero (e + k), zpow_natCast]
    push_cast
    ring
  · rw [roundWithAccuracy, shiftToTargetExponent_eq acc hk]
    simp only [hr, shiftToTargetExponent_eq .exact again, exact]
    rw [dif_neg (Nat.ne_of_gt canonical.pos)]

theorem roundWithAccuracy_zero (s : Sign) {m k : ℕ} {e : ℤ} {acc : Accuracy}
    (hk : place m e = e + k)
    (hr : (ExtendedMantissa.ofMantissaAndAccuracy m acc >>> k).roundedMantissa = 0) :
    roundWithAccuracy Format.binary64 s m e acc = .zero s := by
  have nothing : ∀ n : ℕ, (ExtendedMantissa.mk 0 false false >>> n).mantissa = 0 := fun n => by
    rw [mantissa_shiftRight, Nat.zero_div]
  rw [roundWithAccuracy, shiftToTargetExponent_eq acc hk]
  simp only [hr, shiftToTargetExponent, shiftToExponent]
  exact dif_pos (nothing _)

/-- **Rounding does not pass a bound that can be held.** -/
theorem round_le (s : Sign) {m q n : ℕ} {e i : ℤ} {acc : Accuracy} (h : Canonical q i)
    (most : i ≤ 971) (exponent : e + n = i) (under : Under m acc (q * 2 ^ n))
    (room : e ≤ place m e) :
    ∃ c : ℚ, Holds (roundWithAccuracy Format.binary64 s m e acc) c ∧ |c| ≤ q * 2 ^ i := by
  obtain ⟨k, hk⟩ := Int.le.dest room
  obtain ⟨j, hj⟩ := Int.le.dest (h.place_le exponent under.le)
  rw [← hk] at hj
  have bound :
      (ExtendedMantissa.ofMantissaAndAccuracy m acc >>> k).roundedMantissa ≤ q * 2 ^ j := by
    refine Under.rounded ?_
    rwa [mul_assoc, ← pow_add, show j + k = n by omega]
  generalize hr : (ExtendedMantissa.ofMantissaAndAccuracy m acc >>> k).roundedMantissa = r at bound
  rcases Nat.eq_zero_or_pos r with rfl | pos
  · rw [roundWithAccuracy_zero s hk.symm hr]
    exact ⟨0, .zero s, by rw [abs_zero]; positivity⟩
  · obtain ⟨p, l, canonical, value, rounded⟩ := roundWithAccuracy_eq s hk.symm hr pos
    have le : (p : ℚ) * 2 ^ l ≤ q * 2 ^ i := by
      have cast : (r : ℚ) ≤ q * 2 ^ j := by exact_mod_cast bound
      rw [value, ← hj, zpow_add₀ two_ne_zero (e + k), zpow_natCast]
      calc (r : ℚ) * 2 ^ (e + k) ≤ q * 2 ^ j * 2 ^ (e + k) := by gcongr
        _ = q * (2 ^ (e + k) * 2 ^ j) := by ring
    have exponents : l ≤ i := by
      by_contra above
      exact (h.lt_of_exponent_lt canonical (by omega)).not_ge le
    rw [rounded]
    refine ⟨_, .finite s canonical (by omega), ?_⟩
    rw [abs_mul, abs_of_pos (by positivity : (0 : ℚ) < 2 ^ l)]
    cases s <;> simpa [Sign.apply] using le

/-! ### Products and quotients -/

theorem Holds.exists_zero {u : UnpackedFloat} (h : Holds u 0) : ∃ s, u = .zero s := by
  generalize ha : (0 : ℚ) = a at h
  cases h with
  | zero s => exact ⟨s, rfl⟩
  | @finite s m e h most =>
      have magnitude := abs_apply s m e
      rw [← ha, abs_zero] at magnitude
      have positive : (0 : ℚ) < m := by exact_mod_cast h.pos
      exact absurd magnitude (by positivity)

/-- A finite number has a value. -/
theorem exists_value? {x : Float} (h : x.isFinite = true) : ∃ a, value? x = some a := by
  change x.toModel.unpack.isFinite = true at h
  rw [value?]
  cases hu : x.toModel.unpack with
  | zero s => exact ⟨_, rfl⟩
  | finite s m e hm => exact ⟨_, rfl⟩
  | _ => rw [hu] at h; cases h

/-- What is not equal to zero does not have the value zero. -/
theorem ne_zero_of_beq {x : Float} {a : ℚ} (h : (x == 0) = false) (hx : value? x = some a) :
    a ≠ 0 := by
  rintro rfl
  obtain ⟨s, hu⟩ := (holds_of_value? hx).exists_zero
  change UnpackedFloat.beq x.toModel.unpack (0 : Float).toModel.unpack = false at h
  rw [hu] at h
  cases s <;> cases h

theorem canonical_one : Canonical (2 ^ 52) (-52) :=
  canonical_of_bounds (by norm_num) (by norm_num) (by norm_num) (.inl le_rfl)

theorem value_one : ((2 ^ 52 : ℕ) : ℚ) * 2 ^ (-52 : ℤ) = 1 := by norm_num

theorem log2_div_ge {a b : ℕ} (ha : b ≤ a) (hb : 0 < b) : a.log2 ≤ (a / b).log2 + b.log2 + 1 := by
  have whole : 0 < a / b := Nat.div_pos ha hb
  have above : a < (a / b + 1) * b := Nat.lt_mul_of_div_lt (Nat.lt_succ_self _) hb
  have wide : a / b + 1 ≤ 2 ^ ((a / b).log2 + 1) := Nat.lt_log2_self
  have bits : a < 2 ^ ((a / b).log2 + b.log2 + 2) := by
    calc a < (a / b + 1) * b := above
      _ ≤ 2 ^ ((a / b).log2 + 1) * 2 ^ (b.log2 + 1) :=
        Nat.mul_le_mul wide Nat.lt_log2_self.le
      _ = 2 ^ ((a / b).log2 + b.log2 + 2) := by rw [← pow_add]; congr 1; ring
  have := (Nat.log2_lt (by omega)).2 bits
  omega

theorem log2_add_le {a b : ℕ} {i j : ℤ} (ha : 0 < a)
    (le : (a : ℚ) * 2 ^ i ≤ b * 2 ^ j) : (a.log2 : ℤ) + i ≤ b.log2 + j := by
  by_contra above
  have low : (2 : ℚ) ^ (a.log2 + i : ℤ) ≤ a * 2 ^ i := by
    rw [zpow_add₀ two_ne_zero, zpow_natCast]
    have : ((2 ^ a.log2 : ℕ) : ℚ) ≤ a := by exact_mod_cast Nat.log2_self_le (Nat.ne_of_gt ha)
    push_cast at this
    gcongr
  have high : (b : ℚ) * 2 ^ j < 2 ^ (b.log2 + 1 + j : ℤ) := by
    rw [zpow_add₀ two_ne_zero]
    have : (b : ℚ) < ((2 ^ (b.log2 + 1) : ℕ) : ℚ) := by exact_mod_cast Nat.lt_log2_self
    push_cast at this
    have cast : (2 : ℚ) ^ ((b.log2 : ℤ) + 1) = 2 ^ (b.log2 + 1) := by exact_mod_cast rfl
    rw [cast]
    gcongr
  have wider : (2 : ℚ) ^ (b.log2 + 1 + j : ℤ) ≤ 2 ^ (a.log2 + i : ℤ) :=
    zpow_le_zpow_right₀ (by norm_num) (by omega)
  linarith

/-- The exponent of a number under a bound leaves room below that of the bound. -/
theorem Canonical.le_of_value_le {q : ℕ} {i : ℤ} (h : Canonical q i) {m : ℕ} {e : ℤ} (hm : 0 < m)
    (room : e ≤ Machine.place m e) (le : (m : ℚ) * 2 ^ e ≤ q * 2 ^ i) : e ≤ i := by
  have order := log2_add_le hm le
  have place := h.place
  rw [Machine.place] at place room
  omega

/-- **A product under a bound that can be held** is rounded under it. -/
theorem Holds.mul_within {u v : UnpackedFloat} {a b : ℚ} (hu : Holds u a) (hv : Holds v b) {q : ℕ}
    {i : ℤ} (bound : Canonical q i) (top : i ≤ 971) (le : |a * b| ≤ q * 2 ^ i) :
    ∃ c : ℚ, Holds (UnpackedFloat.mul Format.binary64 u v) c ∧ |c| ≤ q * 2 ^ i := by
  have nothing : |(0 : ℚ)| ≤ q * 2 ^ i := by rw [abs_zero]; positivity
  cases hu with
  | zero s => cases hv <;> exact ⟨0, .zero _, nothing⟩
  | @finite s m e h most =>
      cases hv with
      | zero s' => exact ⟨0, .zero _, nothing⟩
      | @finite s' m' e' h' most' =>
          have product : ((m * m' : ℕ) : ℚ) * 2 ^ (e + e') ≤ q * 2 ^ i := by
            rw [abs_mul, abs_apply, abs_apply] at le
            rw [zpow_add₀ two_ne_zero]
            push_cast
            linarith
          have room := add_le_place h h' most most'
          obtain ⟨n, hn⟩ := Int.le.dest
            (bound.le_of_value_le (Nat.mul_pos h.pos h'.pos) room product)
          have under : m * m' ≤ q * 2 ^ n := by
            rw [← hn, zpow_add₀ two_ne_zero (e + e'), mul_left_comm, mul_comm,
              zpow_natCast] at product
            exact_mod_cast le_of_mul_le_mul_left product (by positivity)
          exact round_le _ bound top hn (under.lt_or_eq.imp_right (⟨·, rfl⟩)) room

/-- **A product by a factor of at most one** is no larger than the other factor. -/
theorem Holds.mul_le {u v : UnpackedFloat} {a b : ℚ} (hu : Holds u a) (hv : Holds v b)
    (ha : |a| ≤ 1) : ∃ c : ℚ, Holds (UnpackedFloat.mul Format.binary64 u v) c ∧ |c| ≤ |b| := by
  cases hv with
  | zero s' => cases hu <;> exact ⟨0, .zero _, le_rfl⟩
  | @finite s' m' e' h' most' =>
      have smaller : |a * (((s'.apply m' : ℤ) : ℚ) * 2 ^ e')| ≤ m' * 2 ^ e' := by
        rw [abs_mul, abs_apply]
        exact mul_le_of_le_one_left (by positivity) ha
      rw [abs_apply]
      exact hu.mul_within (.finite s' h' most') h' most' smaller

/-- What a division of mantissas leaves to be rounded, when the quotient is under a bound: a mantissa
with bits enough, under it. -/
theorem divCore_under {m m' q : ℕ} {e e' i : ℤ} (hm : 0 < m) (hm' : 0 < m') (bound : Canonical q i)
    (le : (m : ℚ) * 2 ^ e ≤ q * 2 ^ i * (m' * 2 ^ e')) :
    ∃ (p n : ℕ) (acc : Accuracy),
      divCore Format.binary64 m e m' e' = (p, i - (n : ℤ), acc) ∧
        Under p acc (q * 2 ^ n) ∧ i - (n : ℤ) ≤ place p (i - n) := by
  let t := min (e - e') (max (totalExponent m e - totalExponent m' e' - 53) (-1074))
  have product : (m : ℚ) * 2 ^ e ≤ (q * m' : ℕ) * 2 ^ (i + e') := by
    rw [zpow_add₀ two_ne_zero]
    push_cast
    linarith
  have low : t ≤ i := by
    have order := log2_add_le hm product
    have high := log2_mul_lt bound.pos hm'
    have place := bound.place
    simp only [t, totalExponent, Machine.place] at place ⊢
    omega
  obtain ⟨n, hn⟩ := Int.le.dest low
  obtain ⟨j, hj⟩ := Int.le.dest (min_le_left (e - e') _ : t ≤ e - e')
  have amount : (e - e' - t).toNat = j := by omega
  refine ⟨m * 2 ^ j / m', n, accuracyOfFraction (m * 2 ^ j % m') m', ?_, ?_, ?_⟩
  · change (m <<< (e - e' - t).toNat / m', t,
      accuracyOfFraction (m <<< (e - e' - t).toNat % m') m') = _
    rw [amount, Nat.shiftLeft_eq, show t = i - n by omega]
  · have scaled : m * 2 ^ j ≤ m' * (q * 2 ^ n) := by
      have left : (m : ℚ) * 2 ^ e = m * 2 ^ j * 2 ^ (t + e') := by
        rw [mul_assoc, ← zpow_natCast, ← zpow_add₀ two_ne_zero,
          show (j : ℤ) + (t + e') = e by omega]
      have right : ((q * m' : ℕ) : ℚ) * 2 ^ (i + e') = m' * (q * 2 ^ n) * 2 ^ (t + e') := by
        rw [show i + e' = n + (t + e') by omega, zpow_add₀ two_ne_zero, zpow_natCast]
        push_cast
        ring
      rw [left, right] at product
      exact_mod_cast le_of_mul_le_mul_right product (by positivity)
    -- less than the bound where the division leaves a rest
    rcases scaled.lt_or_eq with lt | whole
    · exact .inl (Nat.div_lt_of_lt_mul lt)
    · rw [whole, Nat.mul_div_cancel_left _ hm', Nat.mul_mod_right]
      exact .inr ⟨rfl, rfl⟩
  · rw [show i - (n : ℤ) = t by omega]
    rcases le_or_gt t (-1074) with least | normal
    · exact least.trans (le_max_right ..)
    · have bits : m'.log2 + 53 ≤ (m * 2 ^ j).log2 := by
        simp only [t, totalExponent] at normal hj
        rw [log2_mul_two_pow hm]
        omega
      have larger : m' ≤ m * 2 ^ j := by
        refine (Nat.lt_log2_self.le.trans ?_).trans
          (Nat.log2_self_le (Nat.ne_of_gt (Nat.mul_pos hm (by positivity))))
        exact Nat.pow_le_pow_right two_pos (by omega)
      have := log2_div_ge larger hm'
      rw [place]
      omega

/-- **A quotient under a bound that can be held** is rounded under it. -/
theorem Holds.div_within {u v : UnpackedFloat} {a b : ℚ} (hu : Holds u a) (hv : Holds v b)
    (hb : b ≠ 0) {q : ℕ} {i : ℤ} (bound : Canonical q i) (top : i ≤ 971)
    (le : |a| ≤ q * 2 ^ i * |b|) :
    ∃ c : ℚ, Holds (UnpackedFloat.div Format.binary64 u v) c ∧ |c| ≤ q * 2 ^ i := by
  cases hv with
  | zero s' => exact absurd rfl hb
  | @finite s' m' e' h' most' =>
      cases hu with
      | zero s => exact ⟨0, .zero _, by rw [abs_zero]; positivity⟩
      | @finite s m e h most =>
          rw [abs_apply, abs_apply] at le
          obtain ⟨p, n, acc, core, under, room⟩ := divCore_under h.pos h'.pos bound le
          rw [UnpackedFloat.div, core]
          exact round_le (s / s') bound top (sub_add_cancel _ _) under room

/-- **A quotient by something at least as large** is at most one. -/
theorem Holds.div_le {u v : UnpackedFloat} {a b : ℚ} (hu : Holds u a) (hv : Holds v b)
    (hb : b ≠ 0) (hab : |a| ≤ |b|) :
    ∃ c : ℚ, Holds (UnpackedFloat.div Format.binary64 u v) c ∧ |c| ≤ 1 := by
  have bound := hu.div_within hv hb canonical_one (by norm_num) (by rwa [value_one, one_mul])
  rwa [value_one] at bound

theorem value?_mul_le {x y : Float} {a b : ℚ} (hx : value? x = some a) (hy : value? y = some b)
    (ha : |a| ≤ 1) : ∃ c : ℚ, value? (x * y) = some c ∧ |c| ≤ |b| := by
  obtain ⟨c, held, le⟩ := (holds_of_value? hx).mul_le (holds_of_value? hy) ha
  exact ⟨c, held.amount?, le⟩

/-- **A product under a bound that can be held** is finite and under it. -/
theorem value?_mul_within {x y : Float} {a b top : ℚ} (hx : value? x = some a)
    (hy : value? y = some b) (positive : 0 < top) (held : Representable top) (le : |a * b| ≤ top) :
    ∃ c : ℚ, value? (x * y) = some c ∧ |c| ≤ top := by
  obtain ⟨q, i, bound, most, rfl⟩ := canonical_of_representable positive held
  obtain ⟨c, held, le⟩ := (holds_of_value? hx).mul_within (holds_of_value? hy) bound most le
  exact ⟨c, held.amount?, le⟩

theorem value?_div_within {x y : Float} {a b top : ℚ} (hx : value? x = some a)
    (hy : value? y = some b) (hb : b ≠ 0) (positive : 0 < top) (held : Representable top)
    (le : |a| ≤ top * |b|) : ∃ c : ℚ, value? (x / y) = some c ∧ |c| ≤ top := by
  obtain ⟨q, i, bound, most, rfl⟩ := canonical_of_representable positive held
  obtain ⟨c, held, le⟩ := (holds_of_value? hx).div_within (holds_of_value? hy) hb bound most le
  exact ⟨c, held.amount?, le⟩

/-- An unpacked number that holds nothing negative carries a plus, unless it is zero. -/
theorem Holds.nonneg_cases {u : UnpackedFloat} {a : ℚ} (h : Holds u a) (ha : 0 ≤ a) :
    (∃ s, u = .zero s) ∨ ∃ m e hm, u = .finite .positive m e hm := by
  cases h with
  | zero s => exact .inl ⟨s, rfl⟩
  | @finite s m e canonical most =>
      cases s with
      | positive => exact .inr ⟨m, e, canonical.pos, rfl⟩
      | negative =>
          have positive : (0 : ℚ) < m * 2 ^ e :=
            mul_pos (by exact_mod_cast canonical.pos) (by positivity)
          simp only [Sign.apply, Int.cast_neg, Int.cast_natCast, neg_mul] at ha
          linarith

theorem Holds.nonneg_of_positive {m : ℕ} {e : ℤ} {hm : 0 < m} {a : ℚ}
    (h : Holds (.finite .positive m e hm) a) : 0 ≤ a := by
  cases h
  simp only [Sign.apply, Int.cast_natCast]
  positivity

theorem Holds.mul_nonneg {u v : UnpackedFloat} {a b c : ℚ} (hu : Holds u a) (hv : Holds v b)
    (ha : 0 ≤ a) (hb : 0 ≤ b) (h : Holds (UnpackedFloat.mul Format.binary64 u v) c) : 0 ≤ c := by
  have zero : ∀ {s}, Holds (.zero s) c → 0 ≤ c := by
    intro s held
    cases held
    exact le_rfl
  rcases hu.nonneg_cases ha with ⟨s, rfl⟩ | ⟨m, e, hm, rfl⟩
  · rcases hv.nonneg_cases hb with ⟨s', rfl⟩ | ⟨m', e', hm', rfl⟩ <;> exact zero h
  · rcases hv.nonneg_cases hb with ⟨s', rfl⟩ | ⟨m', e', hm', rfl⟩
    · exact zero h
    · rw [UnpackedFloat.mul, roundWithAccuracy] at h
      dsimp only at h
      split at h
      · exact zero h
      · exact h.nonneg_of_positive

/-- **A product of numbers that are not negative**, one of them at most one, is not negative. -/
theorem value?_mul_nonneg {x y : Float} {a b : ℚ} (hx : value? x = some a) (hy : value? y = some b)
    (unit : |a| ≤ 1) (ha : 0 ≤ a) (hb : 0 ≤ b) : ∃ c : ℚ, value? (x * y) = some c ∧ 0 ≤ c := by
  have hx := holds_of_value? hx
  have hy := holds_of_value? hy
  obtain ⟨c, held, -⟩ := hx.mul_le hy unit
  exact ⟨c, held.amount?, hx.mul_nonneg hy ha hb held⟩

/-! ### What is not a number -/

/-- Packing makes a number of nothing else, and of a number nothing else. -/
theorem isNaN_pack (u : UnpackedFloat) : (Float.Model.pack u).unpack.isNaN = u.isNaN := by
  cases u with
  | notANumber => rfl
  | infinity s => cases s <;> rfl
  | zero s => cases s <;> rfl
  | finite s m e hm =>
      -- an exponent that is not all ones is that of a number
      have number : ∀ (i : BitVec 11) (n : BitVec 52), i ≠ -1#11 →
          (unpack Format.binary64 (packComponents Format.binary64 s i n)).isNaN = false := by
        intro i n hi
        rw [unpack]
        simp only [unpackExponent_packComponents]
        rw [if_neg hi]
        split
        · split <;> rfl
        · rfl
      change (unpack Format.binary64 (pack Format.binary64 (.finite s m e hm))).isNaN = false
      rw [pack]
      dsimp only
      split
      · cases s <;> rfl
      · rename_i small
        split
        · refine number _ _ fun ones => small ?_
          have all := congrArg BitVec.toNat ones
          rw [BitVec.toNat_ofNat, BitVec.toNat_neg] at all
          norm_num at all ⊢
          omega
        · exact number _ _ (by decide)

theorem isNaN_roundWithAccuracy (s : Sign) (m : ℕ) (e : ℤ) (acc : Accuracy) :
    (roundWithAccuracy Format.binary64 s m e acc).isNaN = false := by
  rw [roundWithAccuracy]
  dsimp only
  split <;> rfl

theorem isNaN_normalize (m e : ℤ) (s : Sign) :
    (UnpackedFloat.normalize Format.binary64 m e s).isNaN = false := by
  rw [UnpackedFloat.normalize]
  split
  · exact isNaN_roundWithAccuracy ..
  · rfl
  · exact isNaN_roundWithAccuracy ..

/-- A difference with a finite number is a number exactly when the other is one. -/
theorem isNaN_sub {x y : Float} {b : ℚ} (hy : value? y = some b) : (x - y).isNaN = x.isNaN := by
  change (Float.Model.pack (UnpackedFloat.sub Format.binary64 _ _)).unpack.isNaN =
    x.toModel.unpack.isNaN
  rw [isNaN_pack]
  have hv := holds_of_value? hy
  generalize y.toModel.unpack = v at hv
  cases hv with
  | zero s' =>
      cases x.toModel.unpack with
      | zero s => rw [UnpackedFloat.sub]; split <;> rfl
      | _ => rfl
  | finite s' h' most' =>
      cases x.toModel.unpack with
      | finite s m e hm => exact isNaN_normalize ..
      | _ => rfl

theorem isNaN_mul_left {x : Float} (h : x.isNaN = true) (y : Float) : (x * y).isNaN = true := by
  change (Float.Model.pack (UnpackedFloat.mul Format.binary64 _ _)).unpack.isNaN = true
  change x.toModel.unpack.isNaN = true at h
  rw [isNaN_pack]
  cases hu : x.toModel.unpack with
  | notANumber => rfl
  | _ => rw [hu] at h; cases h

/-- A product by zero is zero, or not a number. -/
theorem mul_of_zero {x : Float} (h : value? x = some 0) (y : Float) :
    (x * y).isNaN = true ∨ value? (x * y) = some 0 := by
  obtain ⟨s, hu⟩ := (holds_of_value? h).exists_zero
  have product : ∀ v, (UnpackedFloat.mul Format.binary64 (.zero s) v).isNaN = true ∨
      ∃ s', UnpackedFloat.mul Format.binary64 (.zero s) v = .zero s' := by
    intro v
    cases v with
    | notANumber | infinity => exact .inl rfl
    | zero | finite => exact .inr ⟨_, rfl⟩
  change (Float.Model.pack (UnpackedFloat.mul Format.binary64 _ _)).unpack.isNaN = true ∨
    amount? (Float.Model.pack (UnpackedFloat.mul Format.binary64 _ _)).unpack = some 0
  rw [isNaN_pack, hu]
  rcases product y.toModel.unpack with nan | ⟨s', zero⟩
  · exact .inl nan
  · rw [zero]
    exact .inr (amount?_zero s')

theorem isNaN_div_left {x : Float} (h : x.isNaN = true) (y : Float) : (x / y).isNaN = true := by
  change (Float.Model.pack (UnpackedFloat.div Format.binary64 _ _)).unpack.isNaN = true
  change x.toModel.unpack.isNaN = true at h
  rw [isNaN_pack]
  cases hu : x.toModel.unpack with
  | notANumber => rfl
  | _ => rw [hu] at h; cases h

/-- A product by a finite number that is not zero is a number exactly when the other factor is. -/
theorem isNaN_mul {x y : Float} {b : ℚ} (hy : value? y = some b) (hb : b ≠ 0) :
    (x * y).isNaN = x.isNaN := by
  change (Float.Model.pack (UnpackedFloat.mul Format.binary64 _ _)).unpack.isNaN =
    x.toModel.unpack.isNaN
  rw [isNaN_pack]
  have hv := holds_of_value? hy
  generalize y.toModel.unpack = v at hv
  cases hv with
  | zero s' => exact absurd rfl hb
  | finite s' h' most' =>
      cases x.toModel.unpack with
      | finite s m e hm => exact isNaN_roundWithAccuracy ..
      | _ => rfl

/-- So is a quotient by one. -/
theorem isNaN_div {x y : Float} {b : ℚ} (hy : value? y = some b) (hb : b ≠ 0) :
    (x / y).isNaN = x.isNaN := by
  change (Float.Model.pack (UnpackedFloat.div Format.binary64 _ _)).unpack.isNaN =
    x.toModel.unpack.isNaN
  rw [isNaN_pack]
  have hv := holds_of_value? hy
  generalize y.toModel.unpack = v at hv
  cases hv with
  | zero s' => exact absurd rfl hb
  | finite s' h' most' =>
      cases x.toModel.unpack with
      | finite s m e hm => exact isNaN_roundWithAccuracy ..
      | _ => rfl

/-- The magnitude of what is not a number is none either. -/
theorem isNaN_abs_eq (x : Float) : (Float.abs x).isNaN = x.isNaN := by
  change (Float.Model.pack x.toModel.unpack.abs).unpack.isNaN = x.toModel.unpack.isNaN
  rw [isNaN_pack]
  cases x.toModel.unpack <;> rfl

/-! ### Truncation -/

theorem natAbs_roundToInt_le (s : Sign) (m : ℕ) (e : ℤ) :
    ((roundToInt s m e).natAbs : ℚ) ≤ m * 2 ^ e := by
  have signless : (roundToInt s m e).natAbs = m * 2 ^ e.toNat / 2 ^ (-e).toNat := by
    have mantissa : (roundToInt s m e).natAbs =
        ((roundToInt .positive m e).natAbs) := by
      cases s with
      | positive => rfl
      | negative => exact Int.natAbs_neg _
    rw [mantissa]
    simp only [roundToInt, decreaseExponent, shiftToExponent, Sign.apply, Int.natAbs_natCast,
      mantissa_shiftRight, mantissa_ofMantissaAndAccuracy, Nat.shiftLeft_eq, sub_zero]
    congr 2
    omega
  rw [signless]
  refine Nat.cast_div_le.trans ?_
  rcases le_total 0 e with whole | part
  · obtain ⟨k, rfl⟩ := Int.eq_ofNat_of_zero_le whole
    simp
  · obtain ⟨k, hk⟩ := Int.le.dest part
    obtain rfl : e = -(k : ℤ) := by omega
    simp [div_eq_mul_inv]

/-- **Dropping the fraction makes no number larger.** -/
theorem toUInt64_le {x : Float} {a : ℚ} (h : value? x = some a) : (x.toUInt64.toNat : ℚ) ≤ |a| := by
  have clamped : ∀ n : ℕ, (UInt64.ofNatClamp n).toNat ≤ n := by
    intro n
    rw [UInt64.ofNatClamp]
    split
    · exact le_of_eq (UInt64.toNat_ofNatLT ..)
    · rename_i large
      exact (UInt64.toNat_lt _).le.trans (Nat.le_of_not_lt large)
  change ((UInt64.ofNatClamp (UnpackedFloat.toInt 0 _ x.toModel.unpack).toNat).toNat : ℚ) ≤ |a|
  have hu := holds_of_value? h
  generalize x.toModel.unpack = u at hu
  refine le_trans (Nat.cast_le.2 (clamped _)) ?_
  cases hu with
  | zero s => simp [UnpackedFloat.toInt]
  | @finite s m e canonical most =>
      rw [abs_apply]
      have integer :
          (UnpackedFloat.toInt 0 (↑UInt64.size - 1) (.finite s m e canonical.pos)).toNat ≤
            (roundToInt s m e).natAbs := Int.toNat_le.2 Int.le_natAbs
      exact (Nat.cast_le.2 integer).trans (natAbs_roundToInt_le s m e)

theorem natAbs_truncate_le {x : Float} {a : ℚ} (h : value? x = some a) :
    ((truncateFloat x).natAbs : ℚ) ≤ |a| := by
  rw [truncateFloat]
  split
  · rw [Int.natAbs_neg, Int.natAbs_natCast, ← abs_neg a]
    exact toUInt64_le (value?_neg h)
  · rw [Int.natAbs_natCast]
    exact toUInt64_le h

theorem truncate_of_isNaN {x : Float} (h : x.isNaN = true) : truncateFloat x = 0 := by
  have nothing : ∀ y : Float, y.isNaN = true → y.toUInt64 = 0 := by
    intro y hy
    change y.toModel.unpack.toUInt64 = 0
    change y.toModel.unpack.isNaN = true at hy
    cases hu : y.toModel.unpack with
    | notANumber => rfl
    | _ => rw [hu] at hy; cases hy
  have passes : ¬ x < 0 := by
    intro below
    change x.toModel.unpack.isNaN = true at h
    change decide (UnpackedFloat.lt x.toModel.unpack _ = true) = true at below
    cases hu : x.toModel.unpack with
    | notANumber => rw [hu] at below; cases below
    | _ => rw [hu] at h; cases h
  rw [truncateFloat, if_neg passes, nothing x h]
  rfl

/-! ### Fractions -/

/-- **At most one in magnitude, or not a number.** -/
def Fraction (x : Float) : Prop :=
  x.isNaN = true ∨ ∃ a : ℚ, value? x = some a ∧ |a| ≤ 1

theorem Fraction.neg {x : Float} (h : Fraction x) : Fraction (-x) := by
  rcases h with nan | ⟨a, value, le⟩
  · refine .inl ?_
    change (Float.Model.pack x.toModel.unpack.neg).unpack.isNaN = true
    change x.toModel.unpack.isNaN = true at nan
    rw [isNaN_pack]
    cases hu : x.toModel.unpack with
    | notANumber => rfl
    | _ => rw [hu] at nan; cases nan
  · exact .inr ⟨-a, value?_neg value, by rwa [abs_neg]⟩

theorem Stands.value?_of_bounds {x : Float} {l : Level} {lo hi : ℚ}
    (h : Stands x.toModel.unpack l) (low : ((lo : WithTop ℚ) : Level) ≤ l)
    (high : l ≤ (hi : WithTop ℚ)) : ∃ a : ℚ, value? x = some a ∧ lo ≤ a ∧ a ≤ hi := by
  generalize hu : x.toModel.unpack = u at h
  cases h with
  | below => exact absurd low (WithBot.not_coe_le_bot _)
  | above => exact absurd (WithBot.coe_le_coe.1 high) (WithTop.not_top_le_coe _)
  | @value _ a h =>
      rw [← hu] at h
      rw [WithBot.coe_le_coe, WithTop.coe_le_coe] at low high
      exact ⟨a, value?_of_holds h, low, high⟩

/-- What lies between two values has one. -/
theorem exists_value?_of_bounds {x lo hi : Float} {a b : ℚ} (hlo : value? lo = some a)
    (hhi : value? hi = some b) (low : lo ≤ x) (high : x ≤ hi) :
    ∃ c : ℚ, value? x = some c ∧ a ≤ c ∧ c ≤ b := by
  obtain ⟨l, stands⟩ := stands_of_isNaN (isNaN_of_le low)
  rw [le_iff_level (.value (holds_of_value? hlo)) stands] at low
  rw [le_iff_level stands (.value (holds_of_value? hhi))] at high
  exact stands.value?_of_bounds low high

/-- What passes neither bound of a range from minus one to one is a fraction. -/
theorem fraction_of_not_beyond {x lo hi : Float} (hlo : value? lo = some (-1))
    (hhi : value? hi = some 1) (low : ¬ x < lo) (high : ¬ hi < x) : Fraction x := by
  cases nan : x.isNaN with
  | true => exact .inl nan
  | false =>
      obtain ⟨a, value, le, ge⟩ := exists_value?_of_bounds hlo hhi
        ((not_lt nan (holds_of_value? hlo).isNaN).1 low)
        ((not_lt (holds_of_value? hhi).isNaN nan).1 high)
      exact .inr ⟨a, value, abs_le.2 ⟨le, ge⟩⟩

theorem stands_abs {x : Float} (h : x.isNaN = false) :
    (∃ s, x.toModel.unpack = .infinity s ∧ Stands (Float.abs x).toModel.unpack ⊤) ∨
      ∃ a : ℚ, value? x = some a ∧ value? (Float.abs x) = some |a| := by
  obtain ⟨l, stands⟩ := stands_of_isNaN h
  generalize hu : x.toModel.unpack = u at stands
  have infinite : ∀ s, u = .infinity s → Stands (Float.abs x).toModel.unpack ⊤ := by
    rintro s rfl
    change Stands (Float.Model.pack x.toModel.unpack.abs).unpack ⊤
    rw [hu]
    cases s <;> exact .above
  cases stands with
  | below => exact .inl ⟨_, rfl, infinite _ rfl⟩
  | above => exact .inl ⟨_, rfl, infinite _ rfl⟩
  | value h =>
      have value := value?_of_holds (x := x) (hu ▸ h)
      exact .inr ⟨_, value, value?_abs value⟩

theorem fraction_of_abs_le {x one : Float} (hone : value? one = some 1)
    (h : Float.abs x ≤ one) : Fraction x := by
  have unit := Stands.value (holds_of_value? hone)
  rcases stands_abs (isNaN_abs_eq x ▸ isNaN_of_le_left h) with
    ⟨s, infinite, top⟩ | ⟨a, value, magnitude⟩
  · rw [le_iff_level top unit] at h
    exact absurd (WithBot.coe_le_coe.1 h) (WithTop.not_top_le_coe _)
  · rw [le_of_value? magnitude hone] at h
    exact .inr ⟨a, value, h⟩

/-- **A quotient by something at least as large is a fraction**, also where both are infinite. -/
theorem fraction_div {x m : Float} (h : Float.abs x ≤ m) : Fraction (x / m) := by
  have quotient : ∀ u, UnpackedFloat.div Format.binary64 x.toModel.unpack m.toModel.unpack = u →
      (u.isNaN = true ∨ ∃ c : ℚ, Holds u c ∧ |c| ≤ 1) → Fraction (x / m) := by
    rintro u rfl (nan | ⟨c, held, le⟩)
    · exact .inl ((isNaN_pack _).trans nan)
    · exact .inr ⟨c, held.amount?, le⟩
  obtain ⟨l, stands⟩ := stands_of_isNaN (isNaN_of_le h)
  generalize hv : m.toModel.unpack = v at stands quotient
  rcases stands_abs (isNaN_abs_eq x ▸ isNaN_of_le_left h) with
    ⟨s, infinite, top⟩ | ⟨a, value, magnitude⟩
  · rw [le_iff_level top (hv ▸ stands), top_le_iff] at h
    subst h
    cases stands
    exact quotient .notANumber (by rw [infinite]; rfl) (.inl rfl)
  · rw [le_iff_level (.value (holds_of_value? magnitude)) (hv ▸ stands)] at h
    have held := holds_of_value? value
    generalize x.toModel.unpack = u at held quotient
    cases stands with
    | below => exact absurd h (WithBot.not_coe_le_bot _)
    | above => cases held <;> exact quotient _ rfl (.inr ⟨0, .zero _, by norm_num⟩)
    | @value _ b bound =>
        rw [WithBot.coe_le_coe, WithTop.coe_le_coe] at h
        rcases eq_or_ne b 0 with rfl | nonzero
        · obtain rfl : a = 0 := abs_eq_zero.1 (le_antisymm h (abs_nonneg a))
          obtain ⟨s, rfl⟩ := held.exists_zero
          obtain ⟨s', rfl⟩ := bound.exists_zero
          exact quotient .notANumber rfl (.inl rfl)
        · exact quotient _ rfl (.inr (held.div_le bound nonzero (h.trans (le_abs_self b))))

/-! ### Clamping -/

/-- **A number is clamped to one between the bounds.** -/
theorem exists_value?_clamp {r : Range Float} {a b : ℚ} (hlo : value? r.lo = some a)
    (hhi : value? r.hi = some b) (ordered : a ≤ b) {x : Float} (number : x.isNaN = false) :
    ∃ c : ℚ, value? (r.clamp x) = some c ∧ a ≤ c ∧ c ≤ b := by
  rw [Range.clamp]
  split
  · exact ⟨a, hlo, le_rfl, ordered⟩
  · rename_i low
    split
    · exact ⟨b, hhi, ordered, le_rfl⟩
    · rename_i high
      exact exists_value?_of_bounds hlo hhi ((not_lt number (holds_of_value? hlo).isNaN).1 low)
        ((not_lt (holds_of_value? hhi).isNaN number).1 high)

end Drivetrain.Machine
