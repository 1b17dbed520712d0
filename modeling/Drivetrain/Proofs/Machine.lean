/-
Machine numbers: what a binary of double width holds, and when arithmetic on it is exact.

A machine number is a word of sixty-four bits, and its arithmetic unpacks the word, computes and
rounds, and packs the result again.  This module gives every finite machine number its value, a
rational, and proves that an operation whose true result can be held has that result: nothing is
rounded away.  Comparison needs no value: two machine numbers compare as an order does unless one of
them is not a number.

Main definitions:

* `Drivetrain.Machine.value?` — the value of a machine number, if it is finite;
* `Drivetrain.Machine.Representable` — what can be held: fifty-three bits, shifted;
* `Drivetrain.Machine.Canonical` — mantissa and exponent as they are kept.

Main results:

* `Drivetrain.Machine.unpack_pack` — what is packed can be unpacked again;
* `Drivetrain.Machine.round_exact` — **a number that has a canonical form is rounded to it**;
* `Drivetrain.Machine.value?_add`, `Drivetrain.Machine.value?_sub`, `Drivetrain.Machine.value?_mul`,
  `Drivetrain.Machine.value?_div` — results that can be held are exact;
* `Drivetrain.Machine.value?_ofInt` — whole numbers of fifty-three bits are machine numbers;
* `Drivetrain.Machine.not_lt` — what is not below is at least as large, among numbers.
-/

import Mathlib
import Drivetrain.Scalar

set_option relaxedAutoImplicit false
set_option autoImplicit false

namespace Drivetrain.Machine

open Float.Model (Format UnpackedFloat totalExponent)
open Float.Model.UnpackedFloat

/-! ### Canonical numbers -/

/-- The exponent at which a positive number is kept: fifty-three bits of mantissa, or the smallest
exponent there is. -/
def place (m : ℕ) (e : ℤ) : ℤ := max ((m.log2 : ℤ) + 1 + e - 53) (-1074)

/-- **A mantissa and an exponent as machine numbers keep them.** -/
structure Canonical (m : ℕ) (e : ℤ) : Prop where
  pos : 0 < m
  place : place m e = e

theorem targetExponent_eq (m : ℕ) (e : ℤ) :
    Format.binary64.targetExponent (totalExponent m e) = place m e := rfl

theorem log2_mul_two_pow {m : ℕ} (hm : 0 < m) (k : ℕ) : (m * 2 ^ k).log2 = m.log2 + k := by
  rw [Nat.log2_eq_iff (by positivity)]
  have low := Nat.log2_self_le (Nat.ne_of_gt hm)
  have high : m < 2 ^ (m.log2 + 1) := Nat.lt_log2_self
  constructor
  · rw [pow_add]
    exact Nat.mul_le_mul_right _ low
  · rw [show m.log2 + k + 1 = m.log2 + 1 + k by omega, pow_add]
    exact Nat.mul_lt_mul_of_pos_right high (by positivity)

/-- The place of a number does not depend on how it is written. -/
theorem place_mul_two_pow {m : ℕ} (hm : 0 < m) (k : ℕ) (e : ℤ) :
    place (m * 2 ^ k) e = place m (e + k) := by
  rw [place, place, log2_mul_two_pow hm]
  push_cast
  congr 1
  ring

theorem Canonical.bounds {m : ℕ} {e : ℤ} (h : Canonical m e) :
    m < 2 ^ 53 ∧ -1074 ≤ e ∧ (2 ^ 52 ≤ m ∨ e = -1074) := by
  have place := h.place
  rw [Machine.place] at place
  have hm : m ≠ 0 := Nat.ne_of_gt h.pos
  refine ⟨(Nat.log2_lt hm).1 (by omega), by omega, ?_⟩
  by_cases he : e = -1074
  · exact .inr he
  · exact .inl ((Nat.le_log2 hm).1 (by omega))

theorem canonical_of_bounds {m : ℕ} {e : ℤ} (pos : 0 < m) (high : m < 2 ^ 53) (least : -1074 ≤ e)
    (full : 2 ^ 52 ≤ m ∨ e = -1074) : Canonical m e := by
  have hm : m ≠ 0 := Nat.ne_of_gt pos
  have bits := (Nat.log2_lt hm).2 high
  refine ⟨pos, ?_⟩
  rw [place]
  rcases full with full | rfl
  · have := (Nat.le_log2 hm).2 full
    omega
  · omega

/-! ### Packing -/

theorem sign_packComponents {spec : Format} (s : Sign) (e : BitVec spec.exponentBits)
    (m : BitVec spec.mantissaBitsWithoutImplicit) :
    Sign.ofBitVec (unpackSign (packComponents spec s e m)) = s := by
  have bit : unpackSign (packComponents spec s e m) = s.toBitVec := by
    ext i hi
    obtain rfl : i = 0 := by omega
    simp [unpackSign, packComponents, BitVec.getLsbD_append, BitVec.getElem_append]
  rw [bit]
  cases s <;> rfl

theorem toNat_one_append (v : BitVec 52) : (1#1 ++ v).toNat = 2 ^ 52 + v.toNat := by
  rw [BitVec.toNat_append, ← Nat.shiftLeft_add_eq_or_of_lt v.isLt]
  rfl

/-- A full mantissa is packed without its leading bit, which is put back again. -/
theorem unpack_full (s : Sign) {m : ℕ} {e : ℤ} (pos : 0 < m) (full : 2 ^ 52 ≤ m)
    (high : m < 2 ^ 53) (least : -1074 ≤ e) (most : e ≤ 971) :
    unpack Format.binary64 (packComponents Format.binary64 s
      (BitVec.ofNat 11 (e + 1023 + (52 : ℕ)).toNat) (BitVec.ofNat 52 m)) = .finite s m e pos := by
  have bias : (Format.binary64.exponentBias : ℤ) = 1023 := rfl
  have exponent : (BitVec.ofNat 11 (e + 1023 + (52 : ℕ)).toNat).toNat = (e + 1075).toNat := by
    rw [BitVec.toNat_ofNat, Nat.mod_eq_of_lt (by omega)]
    omega
  have mantissa : (1#1 ++ BitVec.ofNat 52 m).toNat = m := by
    rw [toNat_one_append, BitVec.toNat_ofNat]
    omega
  rw [unpack]
  simp only [unpackExponent_packComponents, unpackMantissa_packComponents, sign_packComponents]
  rw [if_neg, if_neg]
  · simp only [mantissa, exponent]
    congr 1
    rw [bias]
    omega
  · intro zero
    have := congrArg BitVec.toNat zero
    rw [exponent] at this
    simp at this
    omega
  · intro ones
    have := congrArg BitVec.toNat ones
    rw [exponent] at this
    simp at this
    omega

/-- At the least exponent a mantissa has no leading bit to leave out. -/
theorem unpack_least (s : Sign) {m : ℕ} (pos : 0 < m) (high : m < 2 ^ 52) :
    unpack Format.binary64 (packComponents Format.binary64 s (0#11) (BitVec.ofNat 52 m)) =
      .finite s m (-1074) pos := by
  have mantissa : (BitVec.ofNat 52 m).toNat = m := by
    rw [BitVec.toNat_ofNat]
    omega
  have nonzero : ¬ BitVec.ofNat 52 m = 0#52 := by
    intro zero
    have := congrArg BitVec.toNat zero
    rw [mantissa] at this
    exact Nat.ne_of_gt pos this
  rw [unpack]
  simp only [unpackExponent_packComponents, unpackMantissa_packComponents, sign_packComponents]
  rw [if_neg (by decide), if_pos trivial, dif_neg nonzero]
  simp only [mantissa]
  rfl

/-- **What is packed can be unpacked again.** -/
theorem unpack_pack {s : Sign} {m : ℕ} {e : ℤ} (h : Canonical m e) (he : e ≤ 971) :
    (Float.Model.pack (.finite s m e h.pos)).unpack = .finite s m e h.pos := by
  obtain ⟨high, least, full⟩ := h.bounds
  have bias : (Format.binary64.exponentBias : ℤ) = 1023 := rfl
  change unpack Format.binary64 (pack Format.binary64 (.finite s m e h.pos)) = _
  rw [pack]
  have biased : ¬ 2 ^ Format.binary64.exponentBits ≤
      (e + Format.binary64.exponentBias + (52 : ℕ)).toNat + 1 := by
    rw [bias]
    norm_num
    omega
  simp only [if_neg biased]
  by_cases hm : 2 ^ 52 ≤ m
  · have log : m.log2 + 1 = Format.binary64.mantissaBits := by
      rw [(Nat.log2_eq_iff (Nat.ne_of_gt h.pos)).2 ⟨hm, high⟩]
      rfl
    rw [if_pos log, bias]
    exact unpack_full s h.pos hm high least he
  · obtain rfl : e = -1074 := full.resolve_left hm
    have log : ¬ m.log2 + 1 = Format.binary64.mantissaBits := by
      have := (Nat.log2_lt (Nat.ne_of_gt h.pos)).2 (Nat.lt_of_not_le hm)
      change ¬ m.log2 + 1 = 53
      omega
    rw [if_neg log]
    exact unpack_least s h.pos (Nat.lt_of_not_le hm)

theorem canonical_unpack {x : Float.Model} {s : Sign} {m : ℕ} {e : ℤ} {hm : 0 < m}
    (h : x.unpack = .finite s m e hm) : Canonical m e ∧ e ≤ 971 := by
  have bias : (Format.binary64.exponentBias : ℤ) = 1023 := rfl
  have bits : ((52 : ℕ) : ℤ) = 52 := rfl
  have mantissa : (@unpackMantissa Format.binary64 x.toBits.toBitVec).toNat < 2 ^ 52 :=
    BitVec.isLt _
  have exponent : (@unpackExponent Format.binary64 x.toBits.toBitVec).toNat < 2 ^ 11 :=
    BitVec.isLt _
  rw [Float.Model.unpack, unpack] at h
  -- by the exponent field: all ones, all zeros, or between
  split at h
  · split at h <;> cases h
  · rename_i ones
    split at h
    · rename_i zero
      split at h
      · cases h
      · cases h
        rw [zero, bias]
        exact ⟨canonical_of_bounds hm (by omega) (by decide) (.inr rfl), by decide⟩
    · rename_i zero
      cases h
      have most : (@unpackExponent Format.binary64 x.toBits.toBitVec).toNat ≠ 2047 :=
        fun all => ones (BitVec.eq_of_toNat_eq all)
      have least : (@unpackExponent Format.binary64 x.toBits.toBitVec).toNat ≠ 0 :=
        fun none => zero (BitVec.eq_of_toNat_eq none)
      rw [toNat_one_append, bias, bits] at *
      refine ⟨canonical_of_bounds ?_ ?_ ?_ (.inl ?_), ?_⟩ <;> omega

/-! ### Rounding -/

theorem shiftRight_exact (q k : ℕ) :
    ExtendedMantissa.mk (q * 2 ^ k) false false >>> k = ⟨q, false, false⟩ := by
  change Nat.repeat ExtendedMantissa.shiftRightOne k _ = _
  induction k generalizing q with
  | zero => simp [Nat.repeat]
  | succ k ih =>
      have double : q * 2 ^ (k + 1) = 2 * q * 2 ^ k := by ring
      rw [Nat.repeat, double, ih]
      simp [ExtendedMantissa.shiftRightOne]

/-- **Rounding drops nothing but zeros** of a number that has a canonical form. -/
theorem roundWithAccuracy_exact (s : Sign) {q : ℕ} {e : ℤ} (h : Canonical q e) (k : ℕ) :
    roundWithAccuracy Format.binary64 s (q * 2 ^ k) (e - k) .exact = .finite s q e h.pos := by
  have first : shiftToTargetExponent Format.binary64 (q * 2 ^ k) (e - k) .exact =
      (⟨q, false, false⟩, e) := by
    have amount : (place (q * 2 ^ k) (e - k) - (e - k)).toNat = k := by
      rw [place_mul_two_pow h.pos, sub_add_cancel, h.place]
      omega
    rw [shiftToTargetExponent, targetExponent_eq, shiftToExponent, amount]
    exact Prod.ext (shiftRight_exact q k) (sub_add_cancel ..)
  have second : shiftToTargetExponent Format.binary64 q e .exact = (⟨q, false, false⟩, e) := by
    have amount : (place q e - e).toNat = 0 := by
      rw [h.place]
      omega
    rw [shiftToTargetExponent, targetExponent_eq, shiftToExponent, amount]
    exact Prod.ext rfl (add_zero e)
  have rounded : ExtendedMantissa.roundedMantissa ⟨q, false, false⟩ = q := rfl
  -- rounding shifts twice, and the second shift finds the mantissa where it belongs
  rw [roundWithAccuracy, first]
  simp only [rounded, second]
  rw [dif_neg (Nat.ne_of_gt h.pos)]

theorem eq_mul_two_pow {a b : ℕ} {i : ℤ} {k : ℕ} (same : (a : ℚ) * 2 ^ i = b * 2 ^ (i + k)) :
    a = b * 2 ^ k := by
  have nonzero : (2 : ℚ) ^ i ≠ 0 := by positivity
  rw [zpow_add₀ two_ne_zero, mul_comm ((2 : ℚ) ^ i), ← mul_assoc] at same
  exact_mod_cast mul_right_cancel₀ nonzero same

/-- Two ways to write a number put its leading bit in one place. -/
theorem log2_add_eq {a b : ℕ} {i j : ℤ} (ha : 0 < a) (hb : 0 < b)
    (same : (a : ℚ) * 2 ^ i = b * 2 ^ j) : (a.log2 : ℤ) + i = b.log2 + j := by
  wlog h : i ≤ j generalizing a b i j
  · exact (this hb ha same.symm (le_of_not_ge h)).symm
  obtain ⟨k, rfl⟩ := Int.le.dest h
  rw [eq_mul_two_pow same, log2_mul_two_pow hb]
  push_cast
  ring

theorem place_eq {a b : ℕ} {i j : ℤ} (ha : 0 < a) (hb : 0 < b)
    (same : (a : ℚ) * 2 ^ i = b * 2 ^ j) : place a i = place b j := by
  have := log2_add_eq ha hb same
  rw [place, place]
  omega

/-- **A number is rounded to its canonical form**, from whatever way it is written. -/
theorem round_exact (s : Sign) {q : ℕ} {e : ℤ} (h : Canonical q e) {m : ℕ} {i : ℤ} (hm : 0 < m)
    (same : (m : ℚ) * 2 ^ i = q * 2 ^ e) :
    UnpackedFloat.round Format.binary64 s m i = .finite s q e h.pos := by
  have target : Format.binary64.targetExponent (totalExponent m i) = e :=
    (place_eq hm h.pos same).trans h.place
  rw [UnpackedFloat.round, target, decreaseExponent]
  -- the exponent given lies below the canonical one, or above it
  rcases le_total i e with le | le
  · obtain ⟨k, rfl⟩ := Int.le.dest le
    have whole := eq_mul_two_pow same
    have still : (i - (i + (k : ℤ))).toNat = 0 := by omega
    have exact := roundWithAccuracy_exact s h k
    simp only [still, Nat.shiftLeft_zero, whole, Nat.cast_zero, sub_zero]
    rwa [add_sub_cancel_right] at exact
  · obtain ⟨k, rfl⟩ := Int.le.dest le
    have whole := eq_mul_two_pow same.symm
    have amount : (e + (k : ℤ) - e).toNat = k := by omega
    rw [amount, Nat.shiftLeft_eq, ← whole, add_sub_cancel_right]
    have exact := roundWithAccuracy_exact s h 0
    rwa [pow_zero, mul_one, Nat.cast_zero, sub_zero] at exact

/-! ### Values -/

/-- **What a binary of double width can hold**: fifty-three bits, shifted. -/
def Representable (x : ℚ) : Prop :=
  ∃ n e : ℤ, n.natAbs < 2 ^ 53 ∧ -1074 ≤ e ∧ e ≤ 971 ∧ x = n * 2 ^ e

theorem representable_int {n : ℤ} (h : n.natAbs < 2 ^ 53) : Representable n :=
  ⟨n, 0, h, by decide, by decide, by simp⟩

/-- A positive number that can be held has a canonical form that can be packed. -/
theorem canonical_of_representable {x : ℚ} (hx : 0 < x) (h : Representable x) :
    ∃ q e, Canonical q e ∧ e ≤ 971 ∧ x = q * 2 ^ e := by
  obtain ⟨n, e, bits, least, most, rfl⟩ := h
  obtain ⟨n, rfl⟩ : ∃ k : ℕ, n = k := by
    refine Int.eq_ofNat_of_zero_le (le_of_lt ?_)
    exact_mod_cast pos_of_mul_pos_left hx (by positivity)
  have hn : 0 < n := by
    rcases Nat.eq_zero_or_pos n with rfl | hn
    · simp at hx
    · exact hn
  have bits : n.log2 < 53 := (Nat.log2_lt (Nat.ne_of_gt hn)).2 (by simpa using bits)
  -- shifted to its place the mantissa is full, and the exponent no larger than before
  obtain ⟨k, hk⟩ := Int.le.dest (show place n e ≤ e by rw [place]; omega)
  refine ⟨n * 2 ^ k, place n e, ⟨by positivity, ?_⟩, by omega, ?_⟩
  · rw [place_mul_two_pow hn, hk]
  · have split : (2 : ℚ) ^ e = 2 ^ place n e * 2 ^ k := by
      rw [← zpow_natCast, ← zpow_add₀ two_ne_zero, hk]
    rw [split]
    push_cast
    ring

/-- The value of an unpacked number, if it is finite. -/
def amount? : UnpackedFloat → Option ℚ
  | .zero _ => some 0
  | .finite s m e _ => some (((s.apply m : ℤ) : ℚ) * 2 ^ e)
  | .infinity _ | .notANumber => none

/-- **The value of a machine number**, if it is finite. -/
def value? (x : Float) : Option ℚ := amount? x.toModel.unpack

theorem apply_eq (s : Sign) (m : ℕ) : ((s.apply m : ℤ) : ℚ) = (s.apply 1 : ℤ) * m := by
  cases s <;> simp [Sign.apply]

/-- A number that can be held has its own value after it is rounded and packed. -/
theorem amount?_finite {s : Sign} {m q : ℕ} {i e : ℤ} (h : Canonical q e) (he : e ≤ 971)
    (same : (m : ℚ) * 2 ^ i = q * 2 ^ e) :
    amount? (Float.Model.pack (.finite s q e h.pos)).unpack =
      some (((s.apply m : ℤ) : ℚ) * 2 ^ i) := by
  rw [unpack_pack h he, amount?, apply_eq s m, apply_eq s q, mul_assoc, mul_assoc, same]

theorem amount?_zero (s : Sign) : amount? (Float.Model.pack (.zero s)).unpack = some 0 := by
  cases s <;> rfl

/-- **A number that can be held is rounded to itself.** -/
theorem amount?_round (s : Sign) {m : ℕ} {i : ℤ} (hm : 0 < m) (h : Representable (m * 2 ^ i)) :
    amount? (Float.Model.pack (UnpackedFloat.round Format.binary64 s m i)).unpack =
      some (((s.apply m : ℤ) : ℚ) * 2 ^ i) := by
  obtain ⟨q, e, canonical, most, same⟩ := canonical_of_representable (by positivity) h
  rw [round_exact s canonical hm same]
  exact amount?_finite canonical most same

theorem Representable.neg {x : ℚ} (h : Representable x) : Representable (-x) := by
  obtain ⟨n, e, bits, least, most, rfl⟩ := h
  exact ⟨-n, e, by rwa [Int.natAbs_neg], least, most, by push_cast; ring⟩

theorem amount?_normalize {m i : ℤ} (z : Sign) (h : Representable ((m : ℚ) * 2 ^ i)) :
    amount? (Float.Model.pack (UnpackedFloat.normalize Format.binary64 m i z)).unpack =
      some ((m : ℚ) * 2 ^ i) := by
  rw [UnpackedFloat.normalize]
  rcases lt_trichotomy m 0 with hm | rfl | hm
  · obtain ⟨k, rfl⟩ : ∃ k : ℕ, m = -k := ⟨m.natAbs, by omega⟩
    rw [compare_lt_iff_lt.2 hm]
    have positive : Representable ((k : ℚ) * 2 ^ i) := by
      have := h.neg
      rwa [Int.cast_neg, Int.cast_natCast, neg_mul, neg_neg] at this
    have exact := amount?_round .negative (show 0 < k by omega) positive
    simpa [Sign.apply] using exact
  · simp [amount?_zero]
  · obtain ⟨k, rfl⟩ := Int.eq_ofNat_of_zero_le hm.le
    rw [compare_gt_iff_gt.2 hm]
    have exact := amount?_round .positive (show 0 < k by omega) (by exact_mod_cast h)
    simpa [Sign.apply] using exact

/-- **An unpacked number that holds a value** in its canonical form. -/
inductive Holds : UnpackedFloat → ℚ → Prop where
  | zero (s : Sign) : Holds (.zero s) 0
  | finite (s : Sign) {m : ℕ} {e : ℤ} (h : Canonical m e) (he : e ≤ 971) :
      Holds (.finite s m e h.pos) (((s.apply m : ℤ) : ℚ) * 2 ^ e)

theorem holds_of_value? {x : Float} {a : ℚ} (h : value? x = some a) :
    Holds x.toModel.unpack a := by
  rw [value?] at h
  cases hu : x.toModel.unpack with
  | zero s =>
      rw [hu] at h
      cases h
      exact .zero s
  | finite s m e hm =>
      rw [hu] at h
      obtain ⟨canonical, most⟩ := canonical_unpack hu
      cases h
      exact .finite s canonical most
  | infinity s => rw [hu] at h; cases h
  | notANumber => rw [hu] at h; cases h

theorem Holds.amount? {u : UnpackedFloat} {a : ℚ} (h : Holds u a) :
    amount? (Float.Model.pack u).unpack = some a := by
  cases h with
  | zero s => exact amount?_zero s
  | finite s h he => exact amount?_finite h he rfl

theorem apply_neg (s : Sign) (n : ℤ) : (-s).apply n = -s.apply n := by
  cases s with
  | negative => exact (neg_neg n).symm
  | positive => rfl

theorem Holds.neg {u : UnpackedFloat} {a : ℚ} (h : Holds u a) : Holds u.neg (-a) := by
  cases h with
  | zero s => rw [neg_zero]; exact .zero _
  | finite s h he =>
      have held := Holds.finite (-s) h he
      rwa [apply_neg, Int.cast_neg, neg_mul] at held

/-! ### Sums -/

/-- A mantissa brought down to a smaller exponent writes the same number. -/
theorem decreaseExponent_value (s : Sign) (m : ℕ) {e i : ℤ} (h : i ≤ e) :
    ((s.apply (decreaseExponent m e i).1 : ℤ) : ℚ) * 2 ^ i = ((s.apply m : ℤ) : ℚ) * 2 ^ e := by
  obtain ⟨k, rfl⟩ := Int.le.dest h
  have amount : (i + (k : ℤ) - i).toNat = k := by omega
  have split : (2 : ℚ) ^ (i + k) = 2 ^ i * 2 ^ k := by
    rw [zpow_add₀ two_ne_zero, zpow_natCast]
  rw [decreaseExponent, amount, Nat.shiftLeft_eq, apply_eq s, apply_eq s m, split]
  push_cast
  ring

/-- The mantissas of a sum, brought to the smaller exponent, add up to it. -/
theorem sum_value (s s' : Sign) (m m' : ℕ) (e e' : ℤ) :
    ((s.apply (decreaseExponent m e (min e e')).1 +
      s'.apply (decreaseExponent m' e' (min e e')).1 : ℤ) : ℚ) * 2 ^ min e e' =
      ((s.apply m : ℤ) : ℚ) * 2 ^ e + ((s'.apply m' : ℤ) : ℚ) * 2 ^ e' := by
  rw [Int.cast_add, add_mul, decreaseExponent_value s m (min_le_left e e'),
    decreaseExponent_value s' m' (min_le_right e e')]

/-- **A sum that can be held is exact.** -/
theorem Holds.add {u v : UnpackedFloat} {a b : ℚ} (hu : Holds u a) (hv : Holds v b)
    (h : Representable (a + b)) :
    Machine.amount? (Float.Model.pack (UnpackedFloat.add Format.binary64 u v)).unpack =
      some (a + b) := by
  cases hu with
  | zero s =>
      cases hv with
      | zero s' =>
          rw [UnpackedFloat.add, add_zero]
          split <;> exact amount?_zero _
      | finite s' h' most' =>
          rw [zero_add]
          exact amount?_finite h' most' rfl
  | @finite s m e h₁ most =>
      cases hv with
      | zero s' =>
          rw [add_zero]
          exact amount?_finite h₁ most rfl
      | @finite s' m' e' h₂ most' =>
          rw [← sum_value] at h ⊢
          exact amount?_normalize .positive h

/-- A difference is a sum with the opposite. -/
theorem sub_eq (u v : UnpackedFloat) :
    UnpackedFloat.sub Format.binary64 u v = UnpackedFloat.add Format.binary64 u v.neg := by
  cases u with
  | notANumber => rfl
  | infinity s => cases v <;> rfl
  | zero s => cases v <;> rfl
  | finite s m e hm =>
      cases v with
      | finite s' m' e' hm' =>
          simp only [UnpackedFloat.sub, UnpackedFloat.neg, UnpackedFloat.add, apply_neg,
            Int.sub_eq_add_neg]
      | _ => rfl

theorem value?_add {x y : Float} {a b : ℚ} (hx : value? x = some a) (hy : value? y = some b)
    (h : Representable (a + b)) : value? (x + y) = some (a + b) :=
  (holds_of_value? hx).add (holds_of_value? hy) h

/-- **A difference that can be held is exact.** -/
theorem value?_sub {x y : Float} {a b : ℚ} (hx : value? x = some a) (hy : value? y = some b)
    (h : Representable (a - b)) : value? (x - y) = some (a - b) := by
  have hx := holds_of_value? hx
  have hy := holds_of_value? hy
  rw [sub_eq_add_neg] at h ⊢
  have exact := hx.add hy.neg h
  rwa [← sub_eq] at exact

theorem value?_neg {x : Float} {a : ℚ} (hx : value? x = some a) : value? (-x) = some (-a) :=
  (holds_of_value? hx).neg.amount?

/-! ### Products and quotients -/

theorem Representable.of_apply {s : Sign} {x : ℚ} (h : Representable (((s.apply 1 : ℤ) : ℚ) * x)) :
    Representable x := by
  cases s with
  | positive => simpa [Sign.apply] using h
  | negative => simpa [Sign.apply] using h.neg

theorem mul_apply (s s' : Sign) (n : ℤ) : (s * s').apply n = s.apply (s'.apply n) := by
  cases s with
  | negative =>
      cases s' with
      | negative => exact (neg_neg n).symm
      | positive => rfl
  | positive => cases s' <;> rfl

theorem div_eq_mul (s s' : Sign) : s / s' = s * s' := by
  cases s <;> cases s' <;> rfl

/-- The numbers of a product multiply, and so do their signs. -/
theorem apply_mul_apply (s s' : Sign) (x y : ℚ) :
    ((s.apply 1 : ℤ) : ℚ) * x * (((s'.apply 1 : ℤ) : ℚ) * y) =
      (((s * s').apply 1 : ℤ) : ℚ) * (x * y) := by
  rw [mul_apply]
  cases s <;> cases s' <;> simp [Sign.apply]

/-- The exponents of two canonical numbers add up to one that leaves room for their product. -/
theorem add_le_place {m m' : ℕ} {e e' : ℤ} (h : Canonical m e) (h' : Canonical m' e')
    (most : e ≤ 971) (most' : e' ≤ 971) : e + e' ≤ place (m * m') (e + e') := by
  obtain ⟨-, least, full⟩ := h.bounds
  obtain ⟨-, least', full'⟩ := h'.bounds
  have product : m * m' ≠ 0 := Nat.ne_of_gt (Nat.mul_pos h.pos h'.pos)
  have wide : 2 ^ 52 ≤ m * m' ∨ e + e' ≤ -1074 := by
    rcases full with full | rfl
    · exact .inl (full.trans (Nat.le_mul_of_pos_right m h'.pos))
    · rcases full' with full' | rfl
      · exact .inl (full'.trans (Nat.le_mul_of_pos_left m' h.pos))
      · exact .inr (by decide)
  rw [place]
  rcases wide with wide | small
  · have := (Nat.le_log2 product).2 wide
    omega
  · omega

/-- **A product that can be held is exact.** -/
theorem Holds.mul {u v : UnpackedFloat} {a b : ℚ} (hu : Holds u a) (hv : Holds v b)
    (h : Representable (a * b)) :
    Machine.amount? (Float.Model.pack (UnpackedFloat.mul Format.binary64 u v)).unpack =
      some (a * b) := by
  cases hu with
  | zero s =>
      rw [zero_mul]
      cases hv <;> exact amount?_zero _
  | @finite s m e h₁ most =>
      cases hv with
      | zero s' => rw [mul_zero]; exact amount?_zero _
      | @finite s' m' e' h₂ most' =>
          have value : ((s.apply m : ℤ) : ℚ) * 2 ^ e * (((s'.apply m' : ℤ) : ℚ) * 2 ^ e') =
              (((s * s').apply 1 : ℤ) : ℚ) * ((m * m' : ℕ) * 2 ^ (e + e')) := by
            rw [apply_eq s m, apply_eq s' m', mul_assoc _ (m : ℚ), mul_assoc _ (m' : ℚ),
              apply_mul_apply, zpow_add₀ two_ne_zero]
            push_cast
            ring
          rw [value] at h ⊢
          have pos : 0 < m * m' := Nat.mul_pos h₁.pos h₂.pos
          obtain ⟨q, E, canonical, hE, same⟩ :=
            canonical_of_representable (by positivity) h.of_apply
          have room := add_le_place h₁ h₂ most most'
          rw [place_eq pos canonical.pos same, canonical.place] at room
          obtain ⟨k, hk⟩ := Int.le.dest room
          have whole : m * m' = q * 2 ^ k := eq_mul_two_pow (by rw [same, hk])
          have rounded := roundWithAccuracy_exact (s * s') canonical k
          rw [← whole, show E - (k : ℤ) = e + e' by omega] at rounded
          rw [UnpackedFloat.mul, rounded, amount?_finite canonical hE same, apply_eq, mul_assoc]

theorem log2_mul_lt {a b : ℕ} (ha : 0 < a) (hb : 0 < b) :
    (a * b).log2 < a.log2 + b.log2 + 2 := by
  rw [Nat.log2_lt (Nat.ne_of_gt (Nat.mul_pos ha hb))]
  have widths : a.log2 + b.log2 + 2 = (a.log2 + 1) + (b.log2 + 1) := by omega
  rw [widths, pow_add]
  exact Nat.mul_lt_mul'' Nat.lt_log2_self Nat.lt_log2_self

/-- **The division of mantissas leaves no rest** when the quotient has a canonical form. -/
theorem divCore_exact {m m' q : ℕ} {e e' i : ℤ} (hm : 0 < m) (hm' : 0 < m') (h : Canonical q i)
    (same : (m : ℚ) * 2 ^ e = (q * m' : ℕ) * 2 ^ (i + e')) :
    ∃ k : ℕ, divCore Format.binary64 m e m' e' = (q * 2 ^ k, i - k, .exact) := by
  let t := min (e - e') (max (totalExponent m e - totalExponent m' e' - 53) (-1074))
  -- the exponent aimed at lies no higher than that of the quotient
  have aim : t ≤ i := by
    have high := log2_mul_lt h.pos hm'
    have order := log2_add_eq hm (Nat.mul_pos h.pos hm') same
    have least := h.bounds.2.1
    have place := h.place
    simp only [t, totalExponent, Machine.place] at place ⊢
    omega
  obtain ⟨k, hk⟩ := Int.le.dest aim
  obtain ⟨j, hj⟩ := Int.le.dest (min_le_left (e - e') _ : t ≤ e - e')
  have whole : m * 2 ^ j = q * 2 ^ k * m' := by
    have scaled : (m : ℚ) * 2 ^ j * 2 ^ (t + e') = (q * m' : ℕ) * 2 ^ k * 2 ^ (t + e') := by
      rw [mul_assoc, mul_assoc, ← zpow_natCast, ← zpow_natCast, ← zpow_add₀ two_ne_zero,
        ← zpow_add₀ two_ne_zero, show (j : ℤ) + (t + e') = e by omega,
        show (k : ℤ) + (t + e') = i + e' by omega]
      exact same
    have nonzero : (2 : ℚ) ^ (t + e') ≠ 0 := by positivity
    have cancelled := mul_right_cancel₀ nonzero scaled
    have cast : m * 2 ^ j = q * m' * 2 ^ k := by exact_mod_cast cancelled
    rw [cast]
    ring
  have amount : (e - e' - t).toNat = j := by omega
  refine ⟨k, ?_⟩
  change (m <<< (e - e' - t).toNat / m', t, accuracyOfFraction (m <<< (e - e' - t).toNat % m') m') =
    _
  rw [amount, Nat.shiftLeft_eq, whole, Nat.mul_div_cancel _ hm', Nat.mul_mod_left,
    accuracyOfFraction, if_pos rfl, show t = i - k by omega]

/-- **A quotient that can be held is exact.** -/
theorem Holds.div {u v : UnpackedFloat} {a b : ℚ} (hu : Holds u a) (hv : Holds v b) (hb : b ≠ 0)
    (h : Representable (a / b)) :
    Machine.amount? (Float.Model.pack (UnpackedFloat.div Format.binary64 u v)).unpack =
      some (a / b) := by
  cases hv with
  | zero s' => exact absurd rfl hb
  | @finite s' m' e' h₂ most' =>
      cases hu with
      | zero s => rw [zero_div]; exact amount?_zero _
      | @finite s m e h₁ most =>
          have value : ((s.apply m : ℤ) : ℚ) * 2 ^ e / (((s'.apply m' : ℤ) : ℚ) * 2 ^ e') =
              (((s * s').apply 1 : ℤ) : ℚ) * (m * 2 ^ e / (m' * 2 ^ e')) := by
            rw [apply_eq s m, apply_eq s' m', mul_apply]
            cases s <;> cases s' <;> simp [Sign.apply] <;> ring
          rw [value] at h ⊢
          have pos : (0 : ℚ) < m := by exact_mod_cast h₁.pos
          have pos' : (0 : ℚ) < m' := by exact_mod_cast h₂.pos
          have positive : (0 : ℚ) < m * 2 ^ e / (m' * 2 ^ e') :=
            div_pos (by positivity) (by positivity)
          obtain ⟨q, i, canonical, hi, same⟩ := canonical_of_representable positive h.of_apply
          have product : (m : ℚ) * 2 ^ e = (q * m' : ℕ) * 2 ^ (i + e') := by
            rw [div_eq_iff (by positivity)] at same
            rw [same, zpow_add₀ two_ne_zero]
            push_cast
            ring
          obtain ⟨k, exact⟩ := divCore_exact h₁.pos h₂.pos canonical product
          rw [UnpackedFloat.div, exact]
          simp only [div_eq_mul]
          rw [roundWithAccuracy_exact _ canonical k, amount?_finite canonical hi rfl, same,
            apply_eq, mul_assoc]

theorem value?_mul {x y : Float} {a b : ℚ} (hx : value? x = some a) (hy : value? y = some b)
    (h : Representable (a * b)) : value? (x * y) = some (a * b) :=
  (holds_of_value? hx).mul (holds_of_value? hy) h

theorem value?_div {x y : Float} {a b : ℚ} (hx : value? x = some a) (hy : value? y = some b)
    (hb : b ≠ 0) (h : Representable (a / b)) : value? (x / y) = some (a / b) :=
  (holds_of_value? hx).div (holds_of_value? hy) hb h

/-! ### Whole numbers -/

theorem value?_one : value? 1 = some 1 := by
  have unpacked : (1 : Float).toModel.unpack = .finite .positive (2 ^ 52) (-52) (by decide) := rfl
  rw [value?, unpacked]
  norm_num [amount?, Sign.apply]

/-- **Whole numbers of fifty-three bits are machine numbers.** -/
theorem value?_ofInt {n : ℤ} (h : n.natAbs < 2 ^ 53) : value? (Float.ofInt n) = some (n : ℚ) := by
  have natural : ∀ k : ℕ, k < 2 ^ 53 → value? (Float.ofNat k) = some (k : ℚ) := by
    intro k hk
    have converted : value? k.toUInt64.toFloat = some (k : ℚ) := by
      have small : k.toUInt64.toNat = k := by
        rw [Nat.toUInt64, UInt64.toNat_ofNat', Nat.mod_eq_of_lt (by omega)]
      have whole := amount?_normalize (i := 0) .positive (m := k)
        (by simpa using representable_int (n := (k : ℤ)) (by simpa using hk))
      rw [zpow_zero, mul_one] at whole
      change amount? (Float.Model.pack (UnpackedFloat.normalize Format.binary64
        (k.toUInt64.toNat : ℤ) 0 .positive)).unpack = _
      rw [small, whole]
      simp
    have fast : Float.ofNat k = k.toUInt64.toFloat * 1 := by
      change Float.ofScientific k false 0 = _
      rw [Float.ofScientific, dif_pos ⟨hk, by decide⟩]
      rfl
    have held : Representable ((k : ℚ) * 1) := by
      simpa using representable_int (n := (k : ℤ)) (by simpa using hk)
    have exact := value?_mul converted value?_one held
    rwa [← fast, mul_one] at exact
  cases n with
  | ofNat k => exact natural k (by simpa using h)
  | negSucc k =>
      have opposite := value?_neg (natural (k + 1) (by simpa using h))
      rw [Int.cast_negSucc]
      exact opposite

/-! ### Comparison -/

theorem compare_swap (u v : UnpackedFloat) :
    UnpackedFloat.compare v u = (UnpackedFloat.compare u v).map Ordering.swap := by
  have signs : ∀ s s' : Sign, compare s' s = (compare s s').swap := by
    intro s s'
    cases s <;> cases s' <;> rfl
  have pairs : ∀ (e e' : ℤ) (m m' : ℕ), (compare e' e).then (compare m' m) =
      ((compare e e').then (compare m m')).swap := by
    intro e e' m m'
    rw [Ordering.swap_then, ← Std.OrientedOrd.eq_swap, ← Std.OrientedOrd.eq_swap]
  cases u with
  | notANumber => cases v <;> rfl
  | infinity s =>
      cases v with
      | infinity s' => exact congrArg some (signs s s')
      | _ => cases s <;> rfl
  | zero s =>
      cases v with
      | infinity s' => cases s' <;> rfl
      | finite s' m' e' h' => cases s' <;> rfl
      | _ => rfl
  | finite s m e h =>
      cases v with
      | infinity s' => cases s' <;> cases s <;> rfl
      | notANumber => cases s <;> rfl
      | zero s' => cases s <;> rfl
      | finite s' m' e' h' =>
          cases s with
          | negative =>
              cases s' with
              | negative => exact congrArg (some ·.swap) (pairs e e' m m')
              | positive => rfl
          | positive =>
              cases s' with
              | negative => rfl
              | positive => exact congrArg some (pairs e e' m m')

theorem compare_notANumber (u : UnpackedFloat) : UnpackedFloat.compare u .notANumber = none := by
  cases u with
  | finite s m e h => cases s <;> rfl
  | infinity s => cases s <;> rfl
  | _ => rfl

theorem compare_isSome {u v : UnpackedFloat} (hu : u.isNaN = false) (hv : v.isNaN = false) :
    (UnpackedFloat.compare u v).isSome = true := by
  cases u with
  | notANumber => cases hu
  | infinity s =>
      cases v with
      | notANumber => cases hv
      | _ => cases s <;> rfl
  | zero s =>
      cases v with
      | notANumber => cases hv
      | zero s' => rfl
      | infinity s' => cases s' <;> rfl
      | finite s' m' e' h' => cases s' <;> rfl
  | finite s m e h =>
      cases v with
      | notANumber => cases hv
      | zero s' => cases s <;> rfl
      | infinity s' => cases s' <;> cases s <;> rfl
      | finite s' m' e' h' => cases s <;> cases s' <;> rfl

/-- **What is not below is at least as large**, among machine numbers that are numbers. -/
theorem not_lt {x y : Float} (hx : x.isNaN = false) (hy : y.isNaN = false) :
    ¬ x < y ↔ y ≤ x := by
  obtain ⟨order, compared⟩ := Option.isSome_iff_exists.1 (compare_isSome hx hy)
  have swapped := compare_swap x.toModel.unpack y.toModel.unpack
  rw [compared] at swapped
  have below : x < y ↔ order = .lt := by
    change decide (UnpackedFloat.lt _ _ = true) = true ↔ _
    rw [UnpackedFloat.lt, compared]
    simp
  have above : y ≤ x ↔ order.swap.isLE = true := by
    change decide (UnpackedFloat.le _ _ = true) = true ↔ _
    rw [UnpackedFloat.le, swapped]
    simp
  rw [below, above]
  cases order <;> decide

theorem isNaN_of_le {x y : Float} (h : x ≤ y) : y.isNaN = false := by
  change decide (UnpackedFloat.le x.toModel.unpack y.toModel.unpack = true) = true at h
  change y.toModel.unpack.isNaN = false
  cases hv : y.toModel.unpack with
  | notANumber =>
      rw [hv] at h
      simp [UnpackedFloat.le, compare_notANumber] at h
  | _ => rfl

theorem isNaN_abs {x : Float} (h : x.isFinite = true) : (Float.abs x).isNaN = false := by
  change (Float.Model.pack x.toModel.unpack.abs).unpack.isNaN = false
  change x.toModel.unpack.isFinite = true at h
  cases hu : x.toModel.unpack with
  | zero s =>
      change (Float.Model.pack (.zero .positive)).unpack.isNaN = false
      decide
  | finite s m e hm =>
      obtain ⟨canonical, most⟩ := canonical_unpack hu
      rw [UnpackedFloat.abs, unpack_pack canonical most]
      rfl
  | infinity s => rw [hu] at h; cases h
  | notANumber => rw [hu] at h; cases h

end Drivetrain.Machine
