/-
Blending: what the driver's two axes make of the two sides, over exact numbers.

Vector mixing adds and subtracts the axes and divides what passes full speed; arcade mixing chooses
in each quadrant which side gets the larger axis.  Either way the sides lean as the axes do: their
sum goes the way of the forward axis and their difference the way of the yaw.

What is said of two axes mostly stays true when the yaw is reversed, once the sides are swapped, and
when both axes are reversed, once the sides are reversed with them.  So it is enough to see it where
both axes point onward, and the borders between the quadrants are no cases of their own.

Main definitions:

* `Drivetrain.Mixing.Leans` — whether the sides lean as the axes do;
* `Drivetrain.Mixing.taken` — what arcade mixing takes of an axis;
* `Drivetrain.Mixing.blend` — the sides of arcade mixing, before they are held to full speed.

Main results:

* `Drivetrain.Mixing.quadrants` — what survives both reversals holds of **all axes** once it holds
  of those that point onward;
* `Drivetrain.Mixing.max_abs_add_abs_sub` — the larger magnitude of a sum and a difference is the
  sum of the magnitudes;
* `Drivetrain.Mixing.vector_keeps_ratio` — vector mixing **keeps the ratio of the sides** within
  full speed, and changes nothing that is within it already;
* `Drivetrain.Mixing.blend_neg_yaw`, `Drivetrain.Mixing.blend_neg` — a reversed yaw swaps the sides
  of a blend, and reversed axes reverse them;
* `Drivetrain.Mixing.arcade_blends` — arcade mixing gives one side **the larger axis**, and holding
  the sides to full speed changes nothing.
-/

import Drivetrain.Proofs.Gathering
import Drivetrain.Proofs.Rolling

set_option relaxedAutoImplicit false
set_option autoImplicit false

namespace Drivetrain

/-! ### Numbers among the infinities -/

namespace Scalar

theorem larger_coe (x y : ℝ) : larger (x : EReal) (y : EReal) = (larger x y : ℝ) := by
  rcases lt_or_ge x y with h | h
  · rw [larger, if_pos (EReal.coe_lt_coe_iff.2 h), larger, if_pos h]
  · have least : ¬ (x : EReal) < y := not_lt.2 (EReal.coe_le_coe_iff.2 h)
    rw [larger, if_neg least, larger, if_neg h.not_gt]
    rfl

theorem abs_coe (x : ℝ) : Scalar.abs (x : EReal) = (|x| : ℝ) := by
  rw [abs_eq_max_neg, EReal.coe_strictMono.monotone.map_max]
  rfl

end Scalar

theorem Range.clamp_coe (r : Range ℝ) (x : ℝ) :
    Range.clamp ⟨(r.lo : EReal), (r.hi : EReal)⟩ x = (r.clamp x : ℝ) := by
  rw [clamp, clamp]
  by_cases below : x < r.lo
  · rw [if_pos (EReal.coe_lt_coe_iff.2 below), if_pos below]
  · rw [if_neg (mt EReal.coe_lt_coe_iff.1 below), if_neg below]
    by_cases past : r.hi < x
    · rw [if_pos (EReal.coe_lt_coe_iff.2 past), if_pos past]
    · rw [if_neg (mt EReal.coe_lt_coe_iff.1 past), if_neg past]

namespace Mixing

open Scalar (larger underSign)

variable {f y : ℝ}

/-! ### The quadrants -/

/-- **The quadrants.**  What survives a reversal of the yaw and a reversal of both axes holds of all
axes once it holds of those that point onward. -/
theorem quadrants {P : ℝ → ℝ → Prop} (onward : ∀ {f y}, 0 ≤ f → 0 ≤ y → P f y)
    (swap : ∀ {f y}, P f y → P f (-y)) (turn : ∀ {f y}, P f y → P (-f) (-y)) (f y : ℝ) :
    P f y := by
  have ahead : ∀ {f y}, 0 ≤ f → P f y := by
    intro f y hf
    rcases le_total 0 y with hy | hy
    · exact onward hf hy
    · have reversed := swap (onward hf (neg_nonneg.2 hy))
      rwa [neg_neg] at reversed
  rcases le_total 0 f with hf | hf
  · exact ahead hf
  · have reversed := turn (ahead (y := -y) (neg_nonneg.2 hf))
    rwa [neg_neg, neg_neg] at reversed

/-- The larger magnitude of a sum and a difference is the sum of the magnitudes. -/
theorem max_abs_add_abs_sub (f y : ℝ) : max |f + y| |f - y| = |f| + |y| := by
  refine quadrants (P := fun f y => max |f + y| |f - y| = |f| + |y|) ?_ ?_ ?_ f y
  · intro f y hf hy
    rw [abs_of_nonneg (add_nonneg hf hy), abs_of_nonneg hf, abs_of_nonneg hy, max_eq_left]
    exact abs_le.2 ⟨by linarith, by linarith⟩
  · intro f y h
    rw [← sub_eq_add_neg, sub_neg_eq_add, max_comm, abs_neg, h]
  · intro f y h
    rw [← neg_add, neg_sub_neg, abs_neg, abs_neg, abs_neg, ← abs_sub_comm f y, h]

/-! ### Leaning -/

/-- **The sides lean as the axes do**: together they go the way of the forward axis, and apart the
way of the yaw. -/
structure Leans (f y : ℝ) (s : Sides ℝ) : Prop where
  onward : SignType.sign (s.left + s.right) = SignType.sign f
  turning : SignType.sign (s.left - s.right) = SignType.sign y

namespace Leans

variable {s : Sides ℝ}

theorem swap (h : Leans f y s) : Leans f (-y) s.swap where
  onward := by rw [Sides.swap, add_comm, h.onward]
  turning := by rw [Sides.swap, ← neg_sub, Left.sign_neg, h.turning, Left.sign_neg]

theorem neg (h : Leans f y s) : Leans (-f) (-y) (s.map fun side => -side) where
  onward := by rw [Sides.map, ← neg_add, Left.sign_neg, h.onward, Left.sign_neg]
  turning := by rw [Sides.map, ← neg_sub', Left.sign_neg, h.turning, Left.sign_neg]

/-- Equal shares of the sum and of the difference lean as the axes do. -/
theorem of_shares {whole : ℝ} (h : 0 < whole) :
    Leans f y ⟨(f + y) / whole, (f - y) / whole⟩ := by
  have twice : 0 < 2 / whole := by positivity
  constructor
  · have sum : (f + y) / whole + (f - y) / whole = 2 / whole * f := by ring
    rw [sum, sign_mul, sign_pos twice, one_mul]
  · have difference : (f + y) / whole - (f - y) / whole = 2 / whole * y := by ring
    rw [difference, sign_mul, sign_pos twice, one_mul]

end Leans

/-! ### Vector mixing -/

/-- Clamping treats both directions alike. -/
theorem max_min_neg (x : ℝ) : max (-1) (min 1 (-x)) = -max (-1) (min 1 x) := by
  calc max (-1) (min 1 (-x)) = max (-1) (-max (-1) x) := by rw [← min_neg_neg, neg_neg]
    _ = -min 1 (max (-1) x) := max_neg_neg 1 _
    _ = -max (-1) (min 1 x) := by
      rw [max_min_distrib_left, max_eq_right (by norm_num : (-1 : ℝ) ≤ 1)]

/-- Vector mixing divides by the magnitude of both axes together, unless that is within full
speed. -/
theorem vector_real (forward yaw : ℝ) :
    let f := max (-1) (min 1 forward)
    let y := max (-1) (min 1 yaw)
    vector forward yaw = ⟨(f + y) / max 1 (|f| + |y|), (f - y) / max 1 (|f| + |y|)⟩ := by
  intro f y
  simp only [vector, clampUnit_real, Scalar.abs_real, Scalar.larger_real, max_abs_add_abs_sub]
  split
  · rename_i past
    rw [max_eq_right past.le]
  · rename_i within
    rw [max_eq_left (not_lt.1 within), div_one, div_one]

/-- **Vector mixing keeps the ratio of the sides.**  A reversed yaw swaps them.  The axes are
clamped first.  Within full speed their sum and their difference pass unchanged; beyond it the
faster side goes at full speed.  No side passes full speed, and the sides lean as the axes do. -/
theorem vector_keeps_ratio (forward yaw : ℝ) :
    vector forward (-yaw) = (vector forward yaw).swap ∧
      let f := max (-1) (min 1 forward)
      let y := max (-1) (min 1 yaw)
      let sides := vector forward yaw
      sides = ⟨(f + y) / max 1 (|f| + |y|), (f - y) / max 1 (|f| + |y|)⟩ ∧
        (|f| + |y| ≤ 1 → sides = ⟨f + y, f - y⟩) ∧
        (1 < |f| + |y| → max |sides.left| |sides.right| = 1) ∧
        (|sides.left| ≤ 1 ∧ |sides.right| ≤ 1) ∧
        sides.left * (f - y) = sides.right * (f + y) ∧
        SignType.sign (sides.left + sides.right) = SignType.sign f ∧
        SignType.sign (sides.left - sides.right) = SignType.sign y := by
  refine ⟨?swap, ?_⟩
  case swap =>
    rw [vector_real, vector_real, max_min_neg, abs_neg, Sides.swap, sub_neg_eq_add,
      ← sub_eq_add_neg]
  intro f y sides
  set whole := max 1 (|f| + |y|)
  have positive : 0 < whole := lt_max_of_lt_left one_pos
  have shares : sides = ⟨(f + y) / whole, (f - y) / whole⟩ := vector_real forward yaw
  have faster : max |sides.left| |sides.right| = (|f| + |y|) / whole := by
    rw [shares, abs_div, abs_div, abs_of_pos positive, max_div_div_right positive.le,
      max_abs_add_abs_sub]
  have full : max |sides.left| |sides.right| ≤ 1 := by
    rw [faster, div_le_one positive]
    exact le_max_right ..
  have leans : Leans f y sides := shares ▸ Leans.of_shares positive
  refine ⟨shares, ?within, ?past, max_le_iff.1 full, ?ratio, leans.onward, leans.turning⟩
  case within =>
    intro within
    rw [shares, show whole = 1 from max_eq_left within, div_one, div_one]
  case past =>
    intro past
    rw [faster, show whole = |f| + |y| from max_eq_right past.le, div_self (one_pos.trans past).ne']
  case ratio =>
    rw [shares]
    ring

/-! ### Two axes on one stick -/

/-- **What arcade mixing takes of an axis**: its clamped value, or nothing at the threshold or
below it. -/
noncomputable def taken (threshold : EReal) (x : ℝ) : ℝ :=
  let fraction := max (-1) (min 1 x)
  if (|fraction| : ℝ) ≤ threshold then 0 else fraction

theorem abs_taken_le_one (threshold : EReal) (x : ℝ) : |taken threshold x| ≤ 1 := by
  rw [taken]
  split
  · rw [abs_zero]
    exact zero_le_one
  · exact abs_le.2 ⟨le_max_left .., max_le (by norm_num) (min_le_left ..)⟩

theorem taken_neg (threshold : EReal) (x : ℝ) : taken threshold (-x) = -taken threshold x := by
  simp only [taken, max_min_neg, abs_neg]
  split
  · rw [neg_zero]
  · rfl

/-- **The sides of arcade mixing**, before they are held to full speed: the larger axis under the
sign of the forward axis, for the side outside the turn, and the sum or the difference for the
other. -/
noncomputable def blend (f y : ℝ) : Sides ℝ :=
  let outer := if f < 0 then -max |f| |y| else max |f| |y|
  if 0 ≤ f ↔ 0 ≤ y then ⟨outer, f - y⟩ else ⟨f + y, outer⟩

theorem blend_of_nonneg (hf : 0 ≤ f) (hy : 0 ≤ y) : blend f y = ⟨max f y, f - y⟩ := by
  rw [blend, if_pos (iff_of_true hf hy), if_neg hf.not_gt, abs_of_nonneg hf, abs_of_nonneg hy]

/-- Straight ahead both sides get the forward axis. -/
theorem blend_straight (f : ℝ) : blend f 0 = ⟨f, f⟩ := by
  rcases le_or_gt 0 f with hf | hf
  · rw [blend_of_nonneg hf le_rfl, max_eq_left hf, sub_zero]
  · rw [blend, if_neg (by simp [hf]), if_pos hf, abs_zero, max_eq_left (abs_nonneg f),
      abs_of_neg hf, neg_neg, add_zero]

/-- On the spot the sides get the yaw, against each other. -/
theorem blend_spot (y : ℝ) : blend 0 y = ⟨y, -y⟩ := by
  rcases le_or_gt 0 y with hy | hy
  · rw [blend_of_nonneg le_rfl hy, max_eq_right hy, zero_sub]
  · rw [blend, if_neg (by simp [hy]), if_neg (lt_irrefl 0), abs_zero, max_eq_right (abs_nonneg y),
      abs_of_neg hy, zero_add]

theorem neg_nonneg_iff {x : ℝ} (moved : x ≠ 0) : 0 ≤ -x ↔ ¬ 0 ≤ x := by
  rw [neg_nonneg, not_le]
  exact ⟨fun h => lt_of_le_of_ne h moved, le_of_lt⟩

/-- **A reversed yaw swaps the sides**, also where there is none. -/
theorem blend_neg_yaw (f y : ℝ) : blend f (-y) = (blend f y).swap := by
  rcases eq_or_ne y 0 with rfl | moved
  · rw [neg_zero, blend_straight, Sides.swap]
  · by_cases same : 0 ≤ f ↔ 0 ≤ y
    · have other : ¬ (0 ≤ f ↔ 0 ≤ -y) := by rw [neg_nonneg_iff moved]; tauto
      rw [blend, blend, if_neg other, if_pos same, abs_neg, Sides.swap, ← sub_eq_add_neg]
    · have other : 0 ≤ f ↔ 0 ≤ -y := by rw [neg_nonneg_iff moved]; tauto
      rw [blend, blend, if_pos other, if_neg same, abs_neg, Sides.swap, sub_neg_eq_add]

/-- **Reversed axes reverse the sides**, also where one of them is at rest. -/
theorem blend_neg (f y : ℝ) : blend (-f) (-y) = (blend f y).map fun side => -side := by
  -- at rest the order of an axis does not turn around, so these two cases stand apart
  rcases eq_or_ne f 0 with rfl | ahead
  · rw [neg_zero, blend_spot, blend_spot, Sides.map]
  rcases eq_or_ne y 0 with rfl | moved
  · rw [neg_zero, blend_straight, blend_straight, Sides.map]
  have same : (0 ≤ -f ↔ 0 ≤ -y) ↔ (0 ≤ f ↔ 0 ≤ y) := by
    rw [neg_nonneg_iff ahead, neg_nonneg_iff moved, not_iff_not]
  have outer : (if -f < 0 then -max |f| |y| else max |f| |y|) =
      -(if f < 0 then -max |f| |y| else max |f| |y|) := by
    rcases lt_or_gt_of_ne ahead with back | on
    · rw [if_neg (by linarith), if_pos back, neg_neg]
    · rw [if_pos (by linarith), if_neg on.not_gt]
  rw [blend, blend, abs_neg, abs_neg]
  simp only [same, outer]
  split
  · simp only [Sides.map, neg_sub, neg_sub_neg]
  · rw [Sides.map, neg_add]

/-- **One side gets the larger axis**, and the other no more. -/
theorem max_abs_blend (f y : ℝ) : max |(blend f y).left| |(blend f y).right| = max |f| |y| := by
  refine quadrants (P := fun f y => max |(blend f y).left| |(blend f y).right| = max |f| |y|)
    ?_ ?_ ?_ f y
  · intro f y hf hy
    have most : |f - y| ≤ max f y :=
      abs_le.2 ⟨by linarith [le_max_right f y], by linarith [le_max_left f y]⟩
    rw [blend_of_nonneg hf hy, abs_of_nonneg (le_max_of_le_left hf), max_eq_left most,
      abs_of_nonneg hf, abs_of_nonneg hy]
  · intro f y h
    rw [blend_neg_yaw, Sides.swap, max_comm, h, abs_neg]
  · intro f y h
    simp only [blend_neg, Sides.map, abs_neg, h]

theorem abs_blend_le_one (hf : |f| ≤ 1) (hy : |y| ≤ 1) :
    |(blend f y).left| ≤ 1 ∧ |(blend f y).right| ≤ 1 := by
  rw [← max_le_iff, max_abs_blend]
  exact max_le hf hy

theorem sign_add_sub {x y : ℝ} (hx : 0 ≤ x) (h : x ≤ y) :
    SignType.sign (y + (y - x)) = SignType.sign y := by
  rcases (hx.trans h).eq_or_lt with rfl | positive
  · rw [le_antisymm h hx, sub_zero, add_zero]
  · rw [sign_pos (by linarith), sign_pos positive]

theorem leans_blend (f y : ℝ) : Leans f y (blend f y) := by
  refine quadrants (P := fun f y => Leans f y (blend f y)) ?_ ?_ ?_ f y
  · intro f y hf hy
    rw [blend_of_nonneg hf hy]
    -- the sides give the smaller axis back as it is, and the larger one grown by what it leads
    rcases le_total f y with h | h
    · rw [max_eq_right h]
      constructor
      · rw [add_sub_cancel]
      · rw [sub_sub_eq_add_sub, add_sub_assoc, sign_add_sub hf h]
    · rw [max_eq_left h]
      constructor
      · rw [sign_add_sub hy h]
      · rw [sub_sub_cancel]
  · intro f y h
    rw [blend_neg_yaw]
    exact h.swap
  · intro f y h
    rw [blend_neg]
    exact h.neg

/-! ### Arcade mixing -/

theorem clampUnit_coe (x : ℝ) : clampUnit (x : EReal) = (clampUnit x : ℝ) :=
  Range.clamp_coe Range.unit x

theorem clampUnit_of_abs_le {x : ℝ} (h : |x| ≤ 1) : clampUnit (x : EReal) = x := by
  obtain ⟨least, most⟩ := abs_le.1 h
  rw [clampUnit_coe, clampUnit_real, min_eq_right most, max_eq_right least]

theorem inclusiveDeadband_coe (threshold : EReal) (x : ℝ) :
    inclusiveDeadband threshold (clampUnit (x : EReal)) = (taken threshold x : ℝ) := by
  rw [clampUnit_coe, inclusiveDeadband, Scalar.abs_coe, taken, clampUnit_real]
  split <;> rfl

theorem underSign_coe (f y : ℝ) (back : Bool) :
    underSign (Axis.isNegative ⟨(f : EReal), back⟩)
        (larger (Scalar.abs (f : EReal)) (Scalar.abs (y : EReal))) =
      ((if f < 0 then -max |f| |y| else max |f| |y| : ℝ) : EReal) := by
  have sign : Axis.isNegative ⟨(f : EReal), back⟩ = decide (f < 0) :=
    decide_eq_decide.2 EReal.coe_lt_coe_iff
  rw [Scalar.abs_coe, Scalar.abs_coe, Scalar.larger_coe, Scalar.larger_real, sign, underSign,
    Scalar.abs_coe, abs_of_nonneg (le_max_of_le_left (abs_nonneg f))]
  simp only [decide_eq_true_eq]
  split <;> rfl

/-- Arcade mixing blends what it takes of the axes, and holding the sides to full speed changes
nothing. -/
theorem arcade_coe (forward yaw : ℝ) (threshold : EReal) (back : Bool) :
    arcade ⟨(forward : EReal), back⟩ (yaw : EReal) threshold =
      (blend (taken threshold forward) (taken threshold yaw)).map (↑) := by
  set f := taken threshold forward with taken_f
  set y := taken threshold yaw with taken_y
  have ahead : 0 ≤ (f : EReal) ↔ 0 ≤ f := EReal.coe_le_coe_iff
  have moved : 0 ≤ (y : EReal) ↔ 0 ≤ y := EReal.coe_le_coe_iff
  have mixed : arcade ⟨(forward : EReal), back⟩ (yaw : EReal) threshold =
      ((blend f y).map (↑)).map (clampUnit (α := EReal)) := by
    simp only [arcade, Axis.map, inclusiveDeadband_coe, underSign_coe, ← taken_f, ← taken_y, ahead,
      moved, blend]
    by_cases hf : 0 ≤ f <;> by_cases hy : 0 ≤ y <;>
      simp only [hf, hy, decide_true, decide_false] <;> rfl
  obtain ⟨left, right⟩ := abs_blend_le_one (abs_taken_le_one threshold forward)
    (abs_taken_le_one threshold yaw)
  rw [mixed, Sides.map, Sides.map, clampUnit_of_abs_le left, clampUnit_of_abs_le right]

/-- **Arcade mixing gives one side the larger axis.**  A reversed yaw swaps the sides, and reversed
axes reverse them.  Of each axis it takes the clamped value, or nothing within the threshold, which
may be infinite.  Holding the sides to full speed changes nothing, since one of them has the
magnitude of the larger axis and the other no more.  They lean as the axes do. -/
theorem arcade_blends (forward yaw : ℝ) (threshold : EReal) (back : Bool) :
    arcade ⟨(forward : EReal), back⟩ (-yaw : EReal) threshold =
        (arcade ⟨(forward : EReal), back⟩ (yaw : EReal) threshold).swap ∧
      (∀ turned, arcade ⟨(-forward : EReal), turned⟩ (-yaw : EReal) threshold =
        (arcade ⟨(forward : EReal), back⟩ (yaw : EReal) threshold).map fun side => -side) ∧
      let f := taken threshold forward
      let y := taken threshold yaw
      let sides := blend f y
      arcade ⟨(forward : EReal), back⟩ (yaw : EReal) threshold = sides.map (↑) ∧
        max |sides.left| |sides.right| = max |f| |y| ∧
        (|sides.left| ≤ 1 ∧ |sides.right| ≤ 1) ∧
        SignType.sign (sides.left + sides.right) = SignType.sign f ∧
        SignType.sign (sides.left - sides.right) = SignType.sign y := by
  refine ⟨?swap, ?reverse, ?_⟩
  case swap =>
    rw [← EReal.coe_neg, arcade_coe, arcade_coe, taken_neg, blend_neg_yaw]
    rfl
  case reverse =>
    intro turned
    rw [← EReal.coe_neg, ← EReal.coe_neg, arcade_coe, arcade_coe, taken_neg, taken_neg, blend_neg]
    rfl
  intro f y sides
  have full : |sides.left| ≤ 1 ∧ |sides.right| ≤ 1 :=
    abs_blend_le_one (abs_taken_le_one threshold forward) (abs_taken_le_one threshold yaw)
  obtain ⟨onward, turning⟩ := leans_blend f y
  exact ⟨arcade_coe .., max_abs_blend f y, full, onward, turning⟩

end Mixing

end Drivetrain
