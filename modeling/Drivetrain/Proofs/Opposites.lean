/-
Opposites: what a change of sign does to machine arithmetic.

Rounding treats both signs alike, so a sum, a product or a quotient of opposites is the opposite of
the sum, the product or the quotient.  Only zero stands out: a difference that comes to nothing is
the positive zero whichever way it is taken.  Opposites are therefore taken up to the sign of zero,
and whatever is said of them is said of numbers that are the same up to that sign as well, so that
one relation, with a sign for its parameter, serves for both.

Main definitions:

* `Drivetrain.Machine.Mirrors`, `Drivetrain.Machine.Image` — the image of a number under a sign, of
  unpacked numbers and of machine numbers;
* `Drivetrain.Machine.Opposite` — one number is the other with its sign changed, or neither is a
  number;
* `Drivetrain.Machine.Balanced`, `Drivetrain.Machine.Within` — a range that goes as far to one side
  as to the other, and what lies in a range.

Main results:

* `Drivetrain.Machine.Image.add`, `Drivetrain.Machine.Image.sub`, `Drivetrain.Machine.Image.mul`,
  `Drivetrain.Machine.Image.div`, `Drivetrain.Machine.Balanced.clamp` — **arithmetic and clamping
  keep images**;
* `Drivetrain.Machine.Image.sub_swap` — a difference the other way round is the opposite;
* `Drivetrain.Machine.Image.abs_eq`, `Drivetrain.Machine.Image.truncate_eq` — images have one
  magnitude, and those under a plus are truncated alike;
* `Drivetrain.Machine.image_negative_iff` — images under a minus are opposites;
* `Drivetrain.Machine.Image.isNegative_eq` — opposites **carry opposite signs**, unless they are
  zero;
* `Drivetrain.Machine.larger_abs_comm` — the larger of two magnitudes does not depend on their
  order.
-/

import Mathlib
import Drivetrain.Proofs.Magnitude

set_option relaxedAutoImplicit false
set_option autoImplicit false

namespace Drivetrain.Machine

open Float.Model (Format UnpackedFloat totalExponent)
open Float.Model.UnpackedFloat

/-! ### Images of unpacked numbers -/

/-- **One unpacked number is the image of another** under a sign: its own sign is multiplied by it,
but for that of zero, which may be any. -/
inductive Mirrors (σ : Sign) : UnpackedFloat → UnpackedFloat → Prop where
  | notANumber : Mirrors σ .notANumber .notANumber
  | infinity (s : Sign) : Mirrors σ (.infinity s) (.infinity (σ * s))
  | zero (s s' : Sign) : Mirrors σ (.zero s) (.zero s')
  | finite (s : Sign) (m : ℕ) (e : ℤ) (hm : 0 < m) :
      Mirrors σ (.finite s m e hm) (.finite (σ * s) m e hm)

theorem positive_mul (s : Sign) : .positive * s = s := by
  cases s <;> rfl

theorem negative_mul (s : Sign) : .negative * s = -s := by
  cases s <;> rfl

theorem sign_mul_mul (σ τ s s' : Sign) : σ * s * (τ * s') = σ * τ * (s * s') := by
  cases σ <;> cases τ <;> cases s <;> cases s' <;> rfl

theorem Mirrors.refl (u : UnpackedFloat) : Mirrors .positive u u := by
  cases u with
  | notANumber => exact .notANumber
  | infinity s => simpa only [positive_mul] using Mirrors.infinity (σ := .positive) s
  | zero s => exact .zero s s
  | finite s m e hm => simpa only [positive_mul] using Mirrors.finite (σ := .positive) s m e hm

theorem mirrors_neg (u : UnpackedFloat) : Mirrors .negative u u.neg := by
  cases u with
  | notANumber => exact .notANumber
  | infinity s => rw [UnpackedFloat.neg, ← negative_mul]; exact .infinity s
  | zero s => exact .zero s (-s)
  | finite s m e hm => rw [UnpackedFloat.neg, ← negative_mul]; exact .finite ..

theorem Mirrors.positive_cases {u v : UnpackedFloat} (h : Mirrors .positive u v) :
    v = u ∨ ∃ s s', u = .zero s ∧ v = .zero s' := by
  cases h with
  | notANumber => exact .inl rfl
  | infinity s => rw [positive_mul]; exact .inl rfl
  | zero s s' => exact .inr ⟨s, s', rfl, rfl⟩
  | finite s m e hm => exact .inl (by simp only [positive_mul])

theorem Mirrors.symm {σ : Sign} {u v : UnpackedFloat} (h : Mirrors σ u v) : Mirrors σ v u := by
  have twice : ∀ s : Sign, σ * (σ * s) = s := by
    intro s
    cases σ <;> cases s <;> rfl
  cases h with
  | notANumber => exact .notANumber
  | infinity s => simpa only [twice] using Mirrors.infinity (σ := σ) (σ * s)
  | zero s s' => exact .zero ..
  | finite s m e hm => simpa only [twice] using Mirrors.finite (σ := σ) (σ * s) m e hm

theorem Mirrors.trans {σ τ : Sign} {u v w : UnpackedFloat} (h : Mirrors σ u v)
    (h' : Mirrors τ v w) : Mirrors (τ * σ) u w := by
  have joined : ∀ s : Sign, τ * (σ * s) = τ * σ * s := by
    intro s
    cases τ <;> cases σ <;> cases s <;> rfl
  cases h with
  | notANumber => cases h'; exact .notANumber
  | infinity s => cases h'; rw [joined]; exact .infinity s
  | zero s s' => cases h'; exact .zero ..
  | finite s m e hm => cases h'; rw [joined]; exact .finite ..

/-! ### Rounding and arithmetic -/

theorem mirrors_roundWithAccuracy (σ s : Sign) (m : ℕ) (e : ℤ) (acc : Accuracy) :
    Mirrors σ (roundWithAccuracy Format.binary64 s m e acc)
      (roundWithAccuracy Format.binary64 (σ * s) m e acc) := by
  rw [roundWithAccuracy, roundWithAccuracy]
  dsimp only
  split
  · exact .zero ..
  · exact .finite ..

theorem mirrors_round (σ s : Sign) (m : ℕ) (e : ℤ) :
    Mirrors σ (UnpackedFloat.round Format.binary64 s m e)
      (UnpackedFloat.round Format.binary64 (σ * s) m e) :=
  mirrors_roundWithAccuracy ..

theorem mirrors_normalize (σ : Sign) (m e : ℤ) (z z' : Sign) :
    Mirrors σ (UnpackedFloat.normalize Format.binary64 m e z)
      (UnpackedFloat.normalize Format.binary64 (σ.apply m) e z') := by
  rw [UnpackedFloat.normalize, UnpackedFloat.normalize]
  cases σ with
  | positive =>
      rw [show Sign.positive.apply m = m from rfl]
      cases compare m 0 with
      | lt => exact mirrors_round .positive .negative ..
      | eq => exact .zero ..
      | gt => exact mirrors_round .positive .positive ..
  | negative =>
      rw [show Sign.negative.apply m = -m from rfl]
      rcases lt_trichotomy m 0 with below | rfl | above
      · rw [compare_lt_iff_lt.2 below, compare_gt_iff_gt.2 (neg_pos.2 below)]
        exact mirrors_round .negative .negative ..
      · exact .zero ..
      · rw [compare_gt_iff_gt.2 above, compare_lt_iff_lt.2 (neg_lt_zero.2 above), neg_neg]
        exact mirrors_round .negative .positive ..

theorem apply_add (s : Sign) (a b : ℤ) : s.apply (a + b) = s.apply a + s.apply b := by
  cases s with
  | positive => rfl
  | negative => exact neg_add a b

theorem sign_beq_mul (σ s s' : Sign) : (σ * s == σ * s') = (s == s') := by
  cases σ <;> cases s <;> cases s' <;> rfl

namespace Mirrors

variable {σ τ : Sign} {u u' v v' : UnpackedFloat}

theorem neg (h : Mirrors σ u u') : Mirrors σ u.neg u'.neg := by
  have commutes : ∀ s : Sign, -(σ * s) = σ * -s := by
    intro s
    cases σ <;> cases s <;> rfl
  cases h with
  | notANumber => exact .notANumber
  | infinity s => rw [UnpackedFloat.neg, UnpackedFloat.neg, commutes]; exact .infinity _
  | zero s s' => exact .zero _ _
  | finite s m e hm => rw [UnpackedFloat.neg, UnpackedFloat.neg, commutes]; exact .finite ..

/-- A sum of images is the image of the sum. -/
theorem add (h : Mirrors σ u u') (h' : Mirrors σ v v') :
    Mirrors σ (UnpackedFloat.add Format.binary64 u v)
      (UnpackedFloat.add Format.binary64 u' v') := by
  cases h with
  | notANumber => exact .notANumber
  | infinity s =>
      cases h' with
      | notANumber => exact .notANumber
      | infinity s' =>
          rw [UnpackedFloat.add, UnpackedFloat.add, sign_beq_mul]
          split
          · exact .infinity s
          · exact .notANumber
      | _ => exact .infinity s
  | zero s t =>
      cases h' with
      | notANumber => exact .notANumber
      | infinity s' => exact .infinity s'
      | zero s' t' =>
          rw [UnpackedFloat.add, UnpackedFloat.add]
          split <;> split <;> exact .zero ..
      | finite s' m' e' hm' => exact .finite ..
  | finite s m e hm =>
      cases h' with
      | notANumber => exact .notANumber
      | infinity s' => exact .infinity s'
      | zero s' t' => exact .finite ..
      | finite s' m' e' hm' =>
          simp only [UnpackedFloat.add, mul_apply, ← apply_add]
          exact mirrors_normalize ..

/-- A product of images is an image of the product, under the product of the signs. -/
theorem mul (h : Mirrors σ u u') (h' : Mirrors τ v v') :
    Mirrors (σ * τ) (UnpackedFloat.mul Format.binary64 u v)
      (UnpackedFloat.mul Format.binary64 u' v') := by
  cases h with
  | notANumber => exact .notANumber
  | infinity s =>
      cases h' with
      | notANumber => exact .notANumber
      | infinity s' =>
          rw [UnpackedFloat.mul, UnpackedFloat.mul, sign_mul_mul]
          exact .infinity _
      | zero s' t' => exact .notANumber
      | finite s' m' e' hm' =>
          rw [UnpackedFloat.mul, UnpackedFloat.mul, sign_mul_mul]
          exact .infinity _
  | zero s t =>
      cases h' with
      | notANumber => exact .notANumber
      | infinity s' => exact .notANumber
      | zero s' t' => exact .zero ..
      | finite s' m' e' hm' => exact .zero ..
  | finite s m e hm =>
      cases h' with
      | notANumber => exact .notANumber
      | infinity s' =>
          rw [UnpackedFloat.mul, UnpackedFloat.mul, sign_mul_mul]
          exact .infinity _
      | zero s' t' => exact .zero ..
      | finite s' m' e' hm' =>
          rw [UnpackedFloat.mul, UnpackedFloat.mul, sign_mul_mul]
          exact mirrors_roundWithAccuracy ..

/-- Images divided by one number are images of the quotient. -/
theorem div (h : Mirrors σ u u') (v : UnpackedFloat) :
    Mirrors σ (UnpackedFloat.div Format.binary64 u v) (UnpackedFloat.div Format.binary64 u' v) := by
  have signs : ∀ s s' : Sign, σ * s / s' = σ * (s / s') := by
    intro s s'
    cases σ <;> cases s <;> cases s' <;> rfl
  cases h with
  | notANumber => exact .notANumber
  | infinity s =>
      cases v with
      | notANumber => exact .notANumber
      | infinity s' => exact .notANumber
      | zero s' => rw [UnpackedFloat.div, UnpackedFloat.div, signs]; exact .infinity _
      | finite s' m' e' hm' => rw [UnpackedFloat.div, UnpackedFloat.div, signs]; exact .infinity _
  | zero s t =>
      cases v with
      | notANumber => exact .notANumber
      | infinity s' => exact .zero ..
      | zero s' => exact .notANumber
      | finite s' m' e' hm' => exact .zero ..
  | finite s m e hm =>
      cases v with
      | notANumber => exact .notANumber
      | infinity s' => exact .zero ..
      | zero s' => rw [UnpackedFloat.div, UnpackedFloat.div, signs]; exact .infinity _
      | finite s' m' e' hm' =>
          simp only [UnpackedFloat.div, signs]
          exact mirrors_roundWithAccuracy ..

end Mirrors

/-! ### Comparison -/

/-- Images compare as their originals do with the sides changed, where the sign is a minus. -/
theorem Mirrors.compare {u u' v v' : UnpackedFloat} (h : Mirrors .negative u u')
    (h' : Mirrors .negative v v') :
    UnpackedFloat.compare u' v' = UnpackedFloat.compare v u := by
  cases h with
  | notANumber => rw [compare_notANumber]; rfl
  | infinity s =>
      cases h' with
      | notANumber => cases s <;> rfl
      | infinity s' => cases s <;> cases s' <;> rfl
      | zero s' t' => cases s <;> rfl
      | finite s' m' e' hm' => cases s <;> cases s' <;> rfl
  | zero s t =>
      cases h' with
      | notANumber => rfl
      | infinity s' => cases s' <;> rfl
      | zero s' t' => rfl
      | finite s' m' e' hm' => cases s' <;> rfl
  | finite s m e hm =>
      cases h' with
      | notANumber => cases s <;> rfl
      | infinity s' => cases s' <;> cases s <;> rfl
      | zero s' t' => cases s <;> rfl
      | finite s' m' e' hm' =>
          cases s with
          | positive =>
              cases s' with
              | positive =>
                  exact (compare_swap (.finite .positive m e hm) (.finite .positive m' e' hm')).symm
              | negative => rfl
          | negative =>
              cases s' with
              | positive => rfl
              | negative =>
                  exact compare_swap (.finite .positive m' e' hm') (.finite .positive m e hm)

/-- Two numbers that compare equal are the same, up to the sign of zero. -/
theorem mirrors_of_compare {u v : UnpackedFloat} (h : UnpackedFloat.compare u v = some .eq) :
    Mirrors .positive u v := by
  have pairs : ∀ {e e' : ℤ} {m m' : ℕ}, (compare e e').then (compare m m') = .eq →
      e = e' ∧ m = m' := by
    intro e e' m m' equal
    obtain ⟨exponents, mantissas⟩ := Ordering.then_eq_eq.1 equal
    exact ⟨compare_eq_iff_eq.1 exponents, compare_eq_iff_eq.1 mantissas⟩
  cases u with
  | notANumber => cases h
  | infinity s =>
      cases v with
      | infinity s' =>
          cases s <;> cases s' <;> first | exact .refl _ | cases h
      | _ => cases s <;> cases h
  | zero s =>
      cases v with
      | zero s' => exact .zero ..
      | notANumber => cases h
      | infinity s' => cases s' <;> cases h
      | finite s' m' e' hm' => cases s' <;> cases h
  | finite s m e hm =>
      cases v with
      | finite s' m' e' hm' =>
          cases s with
          | positive =>
              cases s' with
              | positive =>
                  obtain ⟨rfl, rfl⟩ := pairs (Option.some.inj h)
                  exact .refl _
              | negative => cases h
          | negative =>
              cases s' with
              | positive => cases h
              | negative =>
                  have turned := congrArg Ordering.swap (Option.some.inj h)
                  rw [Ordering.swap_swap] at turned
                  obtain ⟨rfl, rfl⟩ := pairs turned
                  exact .refl _
      | notANumber => cases s <;> cases h
      | infinity s' => cases s' <;> cases s <;> cases h
      | zero s' => cases s <;> cases h

/-- What is not a number apart, images compare equal where the sign is a plus. -/
theorem compare_of_mirrors {u v : UnpackedFloat} (h : Mirrors .positive u v)
    (number : u.isNaN = false) : UnpackedFloat.compare u v = some .eq := by
  rcases h.positive_cases with rfl | ⟨s, s', rfl, rfl⟩
  · have pairs : ∀ (e : ℤ) (m : ℕ), (compare e e).then (compare m m) = .eq := by
      intro e m
      rw [compare_eq_iff_eq.2 rfl, compare_eq_iff_eq.2 rfl]
      rfl
    cases v with
    | notANumber => cases number
    | infinity s => cases s <;> rfl
    | zero s => rfl
    | finite s m e hm =>
        cases s with
        | positive => exact congrArg some (pairs e m)
        | negative => exact congrArg (some ·.swap) (pairs e m)
  · rfl

/-! ### Packing -/

/-- The sign that is packed comes back as the sign of what is unpacked, and as nothing else. -/
theorem unpack_pack_neg (u : UnpackedFloat) :
    (Float.Model.pack u.neg).unpack = (Float.Model.pack u).unpack.neg := by
  have components : ∀ (s : Sign) (i : BitVec 11) (n : BitVec 52),
      unpack Format.binary64 (packComponents Format.binary64 (-s) i n) =
        (unpack Format.binary64 (packComponents Format.binary64 s i n)).neg := by
    intro s i n
    rw [unpack, unpack]
    simp only [unpackExponent_packComponents, unpackMantissa_packComponents, sign_packComponents]
    split
    · split <;> rfl
    · split
      · split <;> rfl
      · rfl
  cases u with
  | notANumber => rfl
  | infinity s => exact components ..
  | zero s => exact components ..
  | finite s m e hm =>
      change unpack Format.binary64 (pack Format.binary64 (.finite (-s) m e hm)) =
        (unpack Format.binary64 (pack Format.binary64 (.finite s m e hm))).neg
      rw [pack, pack]
      dsimp only
      split
      · exact components ..
      · split <;> exact components ..

/-- What is packed and unpacked again is still an image. -/
theorem Mirrors.unpack_pack {σ : Sign} {u v : UnpackedFloat} (h : Mirrors σ u v) :
    Mirrors σ (Float.Model.pack u).unpack (Float.Model.pack v).unpack := by
  cases h with
  | notANumber => exact .notANumber
  | zero s t => cases s <;> cases t <;> exact .zero ..
  | infinity s =>
      cases σ with
      | positive => rw [positive_mul]; exact .refl _
      | negative => cases s <;> exact mirrors_neg _
  | finite s m e hm =>
      cases σ with
      | positive => rw [positive_mul]; exact .refl _
      | negative =>
          have image := mirrors_neg (Float.Model.pack (.finite s m e hm)).unpack
          rw [← unpack_pack_neg, UnpackedFloat.neg, ← negative_mul] at image
          exact image

theorem abs_neg_unpacked (u : UnpackedFloat) : u.neg.abs = u.abs := by
  cases u <;> rfl

theorem abs_abs_unpacked (u : UnpackedFloat) : u.abs.abs = u.abs := by
  cases u <;> rfl

/-- What differs from a word by no more than its sign can be packed and unpacked again. -/
theorem unpack_pack_of_abs {x : Float.Model} {u : UnpackedFloat} (h : u.abs = x.unpack.abs) :
    (Float.Model.pack u).unpack = u := by
  cases hx : x.unpack with
  | notANumber =>
      rw [hx] at h
      cases u with
      | notANumber => rfl
      | _ => cases h
  | infinity t =>
      rw [hx] at h
      cases u with
      | infinity s => cases s <;> rfl
      | _ => cases h
  | zero t =>
      rw [hx] at h
      cases u with
      | zero s => cases s <;> rfl
      | _ => cases h
  | finite t m e hm =>
      rw [hx] at h
      obtain ⟨canonical, most⟩ := canonical_unpack hx
      cases u with
      | finite s m' e' hm' => cases h; exact unpack_pack canonical most
      | _ => cases h

theorem unpack_neg (x : Float) : (-x).toModel.unpack = x.toModel.unpack.neg :=
  unpack_pack_of_abs (abs_neg_unpacked _)

theorem unpack_abs (x : Float) : (Float.abs x).toModel.unpack = x.toModel.unpack.abs :=
  unpack_pack_of_abs (abs_abs_unpacked _)

/-! ### Images of machine numbers -/

/-- **One machine number is the image of another** under a sign. -/
def Image (σ : Sign) (x y : Float) : Prop := Mirrors σ x.toModel.unpack y.toModel.unpack

theorem add_swap (u v : UnpackedFloat) :
    UnpackedFloat.add Format.binary64 u v = UnpackedFloat.add Format.binary64 v u := by
  cases u with
  | notANumber => cases v <;> rfl
  | infinity s =>
      cases v with
      | infinity s' => cases s <;> cases s' <;> rfl
      | _ => rfl
  | zero s =>
      cases v with
      | zero s' => cases s <;> cases s' <;> rfl
      | _ => rfl
  | finite s m e hm =>
      cases v with
      | finite s' m' e' hm' =>
          simp only [UnpackedFloat.add, min_comm e e']
          rw [add_comm]
      | _ => rfl

protected theorem add_comm (x y : Float) : x + y = y + x := by
  have swapped := add_swap x.toModel.unpack y.toModel.unpack
  exact congrArg (fun u => Float.ofModel (Float.Model.pack u)) swapped

protected theorem sub_eq_add_neg (x y : Float) : x - y = x + -y := by
  change Float.ofModel (Float.Model.pack (UnpackedFloat.sub Format.binary64 _ _)) =
    Float.ofModel (Float.Model.pack (UnpackedFloat.add Format.binary64 _ _))
  rw [sub_eq, ← unpack_neg]

namespace Image

variable {σ τ : Sign} {x x' y y' z : Float}

theorem refl (x : Float) : Image .positive x x := Mirrors.refl _

theorem symm (h : Image σ x y) : Image σ y x := Mirrors.symm h

theorem trans (h : Image σ x y) (h' : Image τ y z) : Image (τ * σ) x z := Mirrors.trans h h'

theorem neg_self (x : Float) : Image .negative x (-x) := by
  rw [Image, unpack_neg]
  exact mirrors_neg _

theorem neg (h : Image σ x x') : Image σ (-x) (-x') := by
  rw [Image, unpack_neg, unpack_neg]
  exact Mirrors.neg h

theorem add (h : Image σ x x') (h' : Image σ y y') : Image σ (x + y) (x' + y') :=
  (Mirrors.add h h').unpack_pack

theorem sub (h : Image σ x x') (h' : Image σ y y') : Image σ (x - y) (x' - y') := by
  rw [Machine.sub_eq_add_neg, Machine.sub_eq_add_neg]
  exact h.add h'.neg

theorem mul (h : Image σ x x') (h' : Image τ y y') : Image (σ * τ) (x * y) (x' * y') :=
  (Mirrors.mul h h').unpack_pack

theorem div (h : Image σ x x') (y : Float) : Image σ (x / y) (x' / y) :=
  (Mirrors.div h _).unpack_pack

/-- A difference the other way round is the opposite. -/
theorem sub_swap (x y : Float) : Image .negative (x - y) (y - x) := by
  rw [Machine.sub_eq_add_neg, Machine.sub_eq_add_neg, Machine.add_comm y]
  exact (neg_self x).add (neg_self y).symm

/-- Adding the opposite subtracts. -/
theorem add_opposite (hx : Image .positive x x') (hy : Image .negative y y') :
    Image .positive (x - y) (x' + y') := by
  rw [Machine.sub_eq_add_neg]
  exact hx.add ((neg_self y).symm.trans hy)

/-- Subtracting the opposite adds. -/
theorem sub_opposite (hx : Image .positive x x') (hy : Image .negative y y') :
    Image .positive (x + y) (x' - y') := by
  rw [Machine.sub_eq_add_neg]
  exact hx.add (hy.trans (.neg_self y'))

theorem abs_eq (h : Image σ x x') : Float.abs x' = Float.abs x := by
  have same : x'.toModel.unpack.abs = x.toModel.unpack.abs := by
    rw [Image] at h
    generalize x.toModel.unpack = u at h
    generalize x'.toModel.unpack = u' at h
    cases h <;> rfl
  exact congrArg (fun u => Float.ofModel (Float.Model.pack u)) same

theorem lt_iff (h : Image .negative x x') (h' : Image .negative y y') : x' < y' ↔ y < x := by
  change decide (UnpackedFloat.lt _ _ = true) = true ↔ decide (UnpackedFloat.lt _ _ = true) = true
  rw [UnpackedFloat.lt, UnpackedFloat.lt, Mirrors.compare h h']

theorem isNaN_eq (h : Image σ x x') : x'.isNaN = x.isNaN := by
  change x'.toModel.unpack.isNaN = x.toModel.unpack.isNaN
  rw [Image] at h
  generalize x.toModel.unpack = u at h
  generalize x'.toModel.unpack = u' at h
  cases h <;> rfl

theorem isFinite_eq (h : Image σ x x') : x'.isFinite = x.isFinite := by
  change x'.toModel.unpack.isFinite = x.toModel.unpack.isFinite
  rw [Image] at h
  generalize x.toModel.unpack = u at h
  generalize x'.toModel.unpack = u' at h
  cases h <;> rfl

theorem value?_eq (h : Image .negative x x') {a : ℚ} (hx : value? x = some a) :
    value? x' = some (-a) := by
  have held := holds_of_value? hx
  rw [Image] at h
  rw [value?]
  generalize x.toModel.unpack = u at h held
  generalize x'.toModel.unpack = u' at h
  cases h with
  | notANumber => cases held
  | infinity s => cases held
  | zero s t => cases held; exact congrArg some neg_zero.symm
  | finite s m e hm =>
      cases held
      rw [amount?, negative_mul, apply_neg, Int.cast_neg, neg_mul]

theorem toUInt64_eq (h : Image .positive x y) : y.toUInt64 = x.toUInt64 := by
  change y.toModel.unpack.toUInt64 = x.toModel.unpack.toUInt64
  rcases Mirrors.positive_cases h with same | ⟨s, s', hx, hy⟩
  · rw [same]
  · rw [hx, hy]
    rfl

/-- **Numbers that differ by no more than the sign of zero are truncated alike.** -/
theorem truncate_eq (h : Image .positive x y) : truncateFloat y = truncateFloat x := by
  have below : y < 0 ↔ x < 0 := by
    change decide (UnpackedFloat.lt y.toModel.unpack _ = true) = true ↔
      decide (UnpackedFloat.lt x.toModel.unpack _ = true) = true
    rcases Mirrors.positive_cases h with same | ⟨s, s', hx, hy⟩
    · rw [same]
    · rw [hx, hy]
      exact Iff.rfl
  simp only [truncateFloat, below, h.toUInt64_eq, h.neg.toUInt64_eq]

theorem of_isNaN (hx : x.isNaN = true) (hy : y.isNaN = true) : Image σ x y := by
  change x.toModel.unpack.isNaN = true at hx
  change y.toModel.unpack.isNaN = true at hy
  rw [Image]
  generalize x.toModel.unpack = u at hx
  generalize y.toModel.unpack = v at hy
  cases u with
  | notANumber =>
      cases v with
      | notANumber => exact .notANumber
      | _ => cases hy
  | _ => cases hx

theorem of_zero (hx : value? x = some 0) (hy : value? y = some 0) : Image σ x y := by
  obtain ⟨s, hx⟩ := (holds_of_value? hx).exists_zero
  obtain ⟨s', hy⟩ := (holds_of_value? hy).exists_zero
  rw [Image, hx, hy]
  exact .zero ..

/-- What is its own opposite is zero, if it is a number. -/
theorem value?_eq_zero (h : Image .negative x x) (number : x.isNaN = false) :
    value? x = some 0 := by
  change x.toModel.unpack.isNaN = false at number
  rw [Image] at h
  rw [value?]
  generalize x.toModel.unpack = u at h number
  cases u with
  | notANumber => cases number
  | zero s => rfl
  | infinity s => cases s <;> cases h
  | finite s m e hm => cases s <;> cases h

end Image

theorem image_of_beq {x y : Float} (h : (x == y) = true) : Image .positive x y := by
  change UnpackedFloat.beq x.toModel.unpack y.toModel.unpack = true at h
  rw [UnpackedFloat.beq, beq_iff_eq] at h
  exact mirrors_of_compare h

theorem isNaN_of_beq {x y : Float} (h : (x == y) = true) : x.isNaN = false := by
  change UnpackedFloat.beq x.toModel.unpack y.toModel.unpack = true at h
  change x.toModel.unpack.isNaN = false
  rw [UnpackedFloat.beq, beq_iff_eq] at h
  generalize x.toModel.unpack = u at h ⊢
  cases u with
  | notANumber => rw [UnpackedFloat.compare] at h; cases h
  | _ => rfl

theorem value?_of_beq_zero {x : Float} (h : (x == 0) = true) : value? x = some 0 := by
  have zero : (0 : Float).toModel.unpack = .zero .positive := rfl
  have same := (image_of_beq h).symm
  rw [Image, zero] at same
  rw [value?]
  generalize x.toModel.unpack = u at same
  cases same
  rfl

/-- **One number is the other with its sign changed**, or neither is a number. -/
def Opposite (x y : Float) : Prop := (x.isNaN = true ∧ y.isNaN = true) ∨ (y == -x) = true

theorem image_negative_iff {x y : Float} : Image .negative x y ↔ Opposite x y := by
  constructor
  · intro h
    cases nan : x.isNaN with
    | true => exact .inl ⟨nan, h.isNaN_eq.trans nan⟩
    | false =>
        have same : Image .positive y (-x) := h.symm.trans (.neg_self x)
        refine .inr ?_
        change UnpackedFloat.beq y.toModel.unpack (-x).toModel.unpack = true
        rw [UnpackedFloat.beq, compare_of_mirrors same (h.isNaN_eq.trans nan)]
        rfl
  · rintro (⟨hx, hy⟩ | same)
    · exact .of_isNaN hx hy
    · exact (Image.neg_self x).trans (image_of_beq same).symm

theorem beq_zero_iff {x : Float} : (x == 0) = true ↔ value? x = some 0 := by
  refine ⟨value?_of_beq_zero, fun h => ?_⟩
  have same : Image .positive x 0 := .of_zero h rfl
  change UnpackedFloat.beq x.toModel.unpack (0 : Float).toModel.unpack = true
  rw [UnpackedFloat.beq, compare_of_mirrors same (holds_of_value? h).isNaN]
  rfl

theorem value?_ne_zero_of_beq {x : Float} (h : (x == 0) = false) : value? x ≠ some 0 := by
  intro zero
  rw [beq_zero_iff.2 zero] at h
  cases h

theorem representable_zero : Representable 0 := by
  simpa using representable_int (n := 0) (by decide)

theorem value?_zero_mul {x y : Float} {b : ℚ} (hx : value? x = some 0) (hy : value? y = some b) :
    value? (x * y) = some 0 := by
  have product := value?_mul hx hy (by rw [zero_mul]; exact representable_zero)
  rwa [zero_mul] at product

theorem value?_mul_zero {x y : Float} {a : ℚ} (hx : value? x = some a) (hy : value? y = some 0) :
    value? (x * y) = some 0 := by
  have product := value?_mul hx hy (by rw [mul_zero]; exact representable_zero)
  rwa [mul_zero] at product

theorem value?_add_zero {x y : Float} (hx : value? x = some 0) (hy : value? y = some 0) :
    value? (x + y) = some 0 := by
  have sum := value?_add hx hy (by rw [add_zero]; exact representable_zero)
  rwa [add_zero] at sum

/-- Adding zero changes no more than the sign of zero. -/
theorem image_add_zero (x : Float) {z : Float} (hz : value? z = some 0) :
    Image .positive x (x + z) := by
  obtain ⟨t, zero⟩ := (holds_of_value? hz).exists_zero
  have sum : (x + z).toModel.unpack = (Float.Model.pack
      (UnpackedFloat.add Format.binary64 x.toModel.unpack z.toModel.unpack)).unpack := rfl
  have kept : Mirrors .positive x.toModel.unpack
      (UnpackedFloat.add Format.binary64 x.toModel.unpack (.zero t)) := by
    generalize x.toModel.unpack = u
    cases u with
    | notANumber => exact .notANumber
    | infinity s => exact .refl _
    | zero s =>
        rw [UnpackedFloat.add]
        split
        · exact .zero ..
        · exact .zero ..
    | finite s m e hm => exact .refl _
  have packed := kept.unpack_pack
  rw [unpack_pack_of_abs (x := x.toModel) rfl] at packed
  rw [Image, sum, zero]
  exact packed

/-- The opposite of what is at most zero is at least zero. -/
protected theorem neg_nonneg {x : Float} (h : x ≤ 0) : 0 ≤ -x := by
  have number := isNaN_of_le_left h
  have opposite := Image.neg_self x
  have zero : Image .negative (0 : Float) 0 := .of_zero rfl rfl
  rw [← not_lt (opposite.isNaN_eq.trans number) rfl, opposite.lt_iff zero]
  exact (not_lt rfl number).2 h

/-! ### Bounds -/

/-- A number that passes neither bound of a range. -/
structure Within (r : Range Float) (x : Float) : Prop where
  low : ¬ x < r.lo
  high : ¬ r.hi < x

theorem Within.clamp_eq {r : Range Float} {x : Float} (h : Within r x) : r.clamp x = x := by
  rw [Range.clamp, if_neg h.low, if_neg h.high]

/-- Numbers that differ by no more than the sign of zero are within the same bounds. -/
theorem Within.image {r : Range Float} {x y : Float} (h : Within r x) (same : Image .positive x y) :
    Within r y := by
  have negated : Image .negative (-x) x := (Image.neg_self x).symm
  have negated' : Image .negative (-x) y := negated.trans same
  have lo := (Image.neg_self r.lo).symm
  have hi := (Image.neg_self r.hi).symm
  exact ⟨fun below => h.low ((negated.lt_iff lo).2 ((negated'.lt_iff lo).1 below)),
    fun above => h.high ((hi.lt_iff negated).2 ((hi.lt_iff negated').1 above))⟩

/-- **A range that goes as far to one side as to the other.** -/
structure Balanced (r : Range Float) : Prop where
  opposite : (r.hi == -r.lo) = true
  ordered : r.lo ≤ r.hi

theorem balanced_unit : Balanced .unit := ⟨by decide +kernel, by decide +kernel⟩

namespace Balanced

variable {r : Range Float} {x x' : Float}

theorem image (h : Balanced r) : Image .negative r.lo r.hi :=
  image_negative_iff.2 (.inr h.opposite)

/-- Clamping opposites gives opposites. -/
theorem clamp (h : Balanced r) (opposite : Image .negative x x') :
    Image .negative (r.clamp x) (r.clamp x') := by
  have below : x' < r.lo ↔ r.hi < x := opposite.lt_iff h.image.symm
  have above : r.hi < x' ↔ x < r.lo := h.image.lt_iff opposite
  have apart : x < r.lo → ¬ r.hi < x := by
    intro low high
    have le := Machine.le_trans (Machine.le_of_lt low) h.ordered
    exact Machine.not_lt_of_le le high
  simp only [Range.clamp, below, above]
  by_cases low : x < r.lo
  · rw [if_pos low, if_neg (apart low), if_pos low]
    exact h.image
  · by_cases high : r.hi < x
    · rw [if_neg low, if_pos high, if_pos high]
      exact h.image.symm
    · rw [if_neg low, if_neg high, if_neg high, if_neg low]
      exact opposite

theorem value?_clamp (h : Balanced r) (zero : value? x = some 0) : value? (r.clamp x) = some 0 := by
  refine Image.value?_eq_zero (h.clamp (.of_zero zero zero)) ?_
  have number := (holds_of_value? zero).isNaN
  unfold Range.clamp
  split
  · exact isNaN_of_le_left h.ordered
  · split
    · exact isNaN_of_le h.ordered
    · exact number

theorem not_hi_lt_lo (h : Balanced r) : ¬ r.hi < r.lo := Machine.not_lt_of_le h.ordered

theorem within_zero (h : Balanced r) : Within r 0.0 := by
  have sides : r.hi < 0.0 ↔ (0.0 : Float) < r.lo := h.image.lt_iff (.of_zero rfl rfl)
  have above : ¬ (0.0 : Float) < r.lo := by
    intro positive
    have le := Machine.le_trans (Machine.le_of_lt positive) h.ordered
    exact Machine.not_lt_of_le le (sides.2 positive)
  exact ⟨above, mt sides.1 above⟩

theorem within_clamp (h : Balanced r) (x : Float) : Within r (r.clamp x) := by
  have irreflexive : ∀ {y : Float}, y.isNaN = false → ¬ y < y := fun number =>
    Machine.not_lt_of_le (Machine.le_refl number)
  rw [Range.clamp]
  split
  · exact ⟨irreflexive (isNaN_of_le_left h.ordered), h.not_hi_lt_lo⟩
  · rename_i low
    split
    · exact ⟨h.not_hi_lt_lo, irreflexive (isNaN_of_le h.ordered)⟩
    · rename_i high
      exact ⟨low, high⟩

end Balanced

/-! ### The larger of two magnitudes -/

theorem abs_abs (x : Float) : Float.abs (Float.abs x) = Float.abs x := by
  have same : (Float.abs x).toModel.unpack.abs = x.toModel.unpack.abs := by
    rw [unpack_abs, abs_abs_unpacked]
  exact congrArg (fun u => Float.ofModel (Float.Model.pack u)) same

/-- Numbers of which neither is below the other differ by no more than the sign of zero. -/
theorem image_of_not_lt {x y : Float} (hx : x.isNaN = false) (hy : y.isNaN = false)
    (low : ¬ x < y) (high : ¬ y < x) : Image .positive x y := by
  obtain ⟨order, compared⟩ := Option.isSome_iff_exists.1 (compare_isSome hx hy)
  have swapped := compare_swap x.toModel.unpack y.toModel.unpack
  change ¬ decide (UnpackedFloat.lt _ _ = true) = true at low high
  rw [UnpackedFloat.lt, compared] at low
  rw [UnpackedFloat.lt, swapped, compared] at high
  cases order with
  | lt => exact absurd rfl low
  | eq => exact mirrors_of_compare compared
  | gt => exact absurd rfl high

theorem Image.truncate_of_neg {x x' : Float} (h : Image .negative x x') (negative : x < 0) :
    truncateFloat x' = -truncateFloat x := by
  have positive : ¬ x' < 0 := by
    intro below
    exact Machine.lt_asymm negative ((h.lt_iff (.of_zero (x := 0) (y := 0) rfl rfl)).1 below)
  have same : Image .positive (-x) x' := (Image.neg_self x).symm.trans h
  rw [truncateFloat, truncateFloat, if_pos negative, if_neg positive, same.toUInt64_eq, neg_neg]

/-- **Opposites are truncated to opposites.** -/
theorem Image.truncate_opposite {x x' : Float} (h : Image .negative x x') :
    truncateFloat x' = -truncateFloat x := by
  have zero : Image .negative (0 : Float) 0 := .of_zero rfl rfl
  cases nan : x.isNaN with
  | true =>
      rw [truncate_of_isNaN nan, truncate_of_isNaN (h.isNaN_eq.trans nan)]
      rfl
  | false =>
      by_cases negative : x < 0
      · exact h.truncate_of_neg negative
      by_cases positive : 0 < x
      · rw [h.symm.truncate_of_neg ((h.lt_iff zero).2 positive), neg_neg]
      · have nothing : Image .positive 0 x := (image_of_not_lt nan rfl negative positive).symm
        have nothing' : Image .positive 0 x' := zero.trans (nothing.trans h)
        rw [nothing.truncate_eq, nothing'.truncate_eq]
        rfl

theorem abs_eq_of_not_lt {x y : Float} (hx : (Float.abs x).isNaN = false)
    (hy : (Float.abs y).isNaN = false) (low : ¬ Float.abs x < Float.abs y)
    (high : ¬ Float.abs y < Float.abs x) : Float.abs x = Float.abs y := by
  have same := (image_of_not_lt hx hy low high).abs_eq
  rw [abs_abs, abs_abs] at same
  exact same.symm

/-- **The larger of two magnitudes** does not depend on their order. -/
theorem larger_abs_comm (x y : Float) :
    Scalar.larger (Float.abs x) (Float.abs y) = Scalar.larger (Float.abs y) (Float.abs x) := by
  change (if Float.abs x < Float.abs y then Float.abs y
      else if (Float.abs x).isNaN then Float.abs y else Float.abs x) =
    if Float.abs y < Float.abs x then Float.abs x
      else if (Float.abs y).isNaN then Float.abs x else Float.abs y
  by_cases low : Float.abs x < Float.abs y
  · have number := isNaN_of_le (Machine.le_of_lt low)
    rw [if_pos low, if_neg (Machine.lt_asymm low), if_neg (Bool.eq_false_iff.1 number)]
  · by_cases high : Float.abs y < Float.abs x
    · have number := isNaN_of_le (Machine.le_of_lt high)
      rw [if_neg low, if_pos high, if_neg (Bool.eq_false_iff.1 number)]
    · rw [if_neg low, if_neg high]
      cases nan : (Float.abs x).isNaN with
      | true =>
          cases nan' : (Float.abs y).isNaN with
          | true =>
              have same := (Image.of_isNaN (σ := .positive) nan nan').abs_eq
              rw [abs_abs, abs_abs] at same
              exact same
          | false => rfl
      | false =>
          cases nan' : (Float.abs y).isNaN with
          | true => rfl
          | false => exact abs_eq_of_not_lt nan nan' low high

/-! ### Signs of products and quotients -/

theorem roundWithAccuracy_neg (s : Sign) (m : ℕ) (e : ℤ) (acc : Accuracy) :
    roundWithAccuracy Format.binary64 (-s) m e acc =
      (roundWithAccuracy Format.binary64 s m e acc).neg := by
  rw [roundWithAccuracy, roundWithAccuracy]
  dsimp only
  split <;> rfl

theorem mul_neg_left (u v : UnpackedFloat) : UnpackedFloat.mul Format.binary64 u.neg v =
    (UnpackedFloat.mul Format.binary64 u v).neg := by
  have signs : ∀ s s' : Sign, -s * s' = -(s * s') := by
    intro s s'
    cases s <;> cases s' <;> rfl
  cases u <;> cases v <;>
    simp only [UnpackedFloat.mul, UnpackedFloat.neg, signs, roundWithAccuracy_neg]

theorem mul_neg_right (u v : UnpackedFloat) : UnpackedFloat.mul Format.binary64 u v.neg =
    (UnpackedFloat.mul Format.binary64 u v).neg := by
  have signs : ∀ s s' : Sign, s * -s' = -(s * s') := by
    intro s s'
    cases s <;> cases s' <;> rfl
  cases u <;> cases v <;>
    simp only [UnpackedFloat.mul, UnpackedFloat.neg, signs, roundWithAccuracy_neg]

theorem div_neg_left (u v : UnpackedFloat) : UnpackedFloat.div Format.binary64 u.neg v =
    (UnpackedFloat.div Format.binary64 u v).neg := by
  have signs : ∀ s s' : Sign, -s / s' = -(s / s') := by
    intro s s'
    cases s <;> cases s' <;> rfl
  cases u <;> cases v <;>
    simp only [UnpackedFloat.div, UnpackedFloat.neg, signs, roundWithAccuracy_neg]

section Exact

variable {x x' : Float} (h : x'.toModel.unpack = x.toModel.unpack.neg) (y : Float)

include h

theorem unpack_mul_of_neg : (x' * y).toModel.unpack = (x * y).toModel.unpack.neg := by
  change (Float.Model.pack (UnpackedFloat.mul Format.binary64 _ _)).unpack =
    (Float.Model.pack (UnpackedFloat.mul Format.binary64 _ _)).unpack.neg
  rw [h, mul_neg_left, unpack_pack_neg]

theorem unpack_div_of_neg : (x' / y).toModel.unpack = (x / y).toModel.unpack.neg := by
  change (Float.Model.pack (UnpackedFloat.div Format.binary64 _ _)).unpack =
    (Float.Model.pack (UnpackedFloat.div Format.binary64 _ _)).unpack.neg
  rw [h, div_neg_left, unpack_pack_neg]

/-- **A change of sign may be moved from one factor to the other**, down to the sign of zero. -/
theorem mul_of_neg : x' * y = x * -y := by
  change Float.ofModel (Float.Model.pack (UnpackedFloat.mul Format.binary64 _ _)) =
    Float.ofModel (Float.Model.pack (UnpackedFloat.mul Format.binary64 _ _))
  rw [h, unpack_neg, mul_neg_left, mul_neg_right]

end Exact

/-! ### The sign that a number carries -/

/-- The sign of an unpacked number; what is not a number is given a plus. -/
def signOf : UnpackedFloat → Sign
  | .notANumber => .positive
  | .infinity s => s
  | .zero s => s
  | .finite s _ _ _ => s

/-- The sign that is unpacked is the uppermost bit. -/
theorem ofBitVec_unpackSign (b : UInt64) :
    (Sign.ofBitVec (@unpackSign Format.binary64 b.toBitVec) == .negative) =
      (b >>> 63 == 1) := by
  have small := b.toNat_lt
  have bit : (@unpackSign Format.binary64 b.toBitVec).toNat = b.toNat / 2 ^ 63 := by
    simp only [unpackSign, BitVec.toNat_cast, BitVec.extractLsb_toNat]
    show b.toNat >>> 63 % 2 ^ 1 = _
    rw [Nat.shiftRight_eq_div_pow]
    omega
  have plus : @unpackSign Format.binary64 b.toBitVec = 0#1 ↔ b.toNat / 2 ^ 63 = 0 := by
    rw [← BitVec.toNat_inj, bit]
    rfl
  have minus : b >>> 63 = 1 ↔ b.toNat / 2 ^ 63 = 1 := by
    rw [← UInt64.toNat_inj, UInt64.toNat_shiftRight, Nat.shiftRight_eq_div_pow]
    rfl
  rw [Sign.ofBitVec]
  by_cases none : b.toNat / 2 ^ 63 = 0
  · rw [if_pos (plus.2 none), beq_eq_false_iff_ne.2 (mt minus.1 (by omega))]
    rfl
  · rw [if_neg (mt plus.1 none), beq_iff_eq.2 (minus.2 (by omega))]
    rfl

theorem isNegative_eq {x : Float} (number : x.isNaN = false) :
    Scalar.isNegative x = (signOf x.toModel.unpack == .negative) := by
  refine (ofBitVec_unpackSign x.toModel.toBits).symm.trans ?_
  change x.toModel.unpack.isNaN = false at number
  rw [Float.Model.unpack, UnpackedFloat.unpack] at number ⊢
  dsimp only at number ⊢
  split
  · rename_i full
    split
    · rfl
    · rename_i payload
      rw [if_pos full, if_neg payload] at number
      cases number
  · split
    · split <;> rfl
    · rfl

/-- **Opposites carry opposite signs**, unless they are zero. -/
theorem Image.isNegative_eq {x x' : Float} (h : Image .negative x x') (number : x.isNaN = false)
    (nonzero : value? x ≠ some 0) : Scalar.isNegative x' = !Scalar.isNegative x := by
  rw [Machine.isNegative_eq number, Machine.isNegative_eq (h.isNaN_eq.trans number)]
  change x.toModel.unpack.isNaN = false at number
  rw [value?] at nonzero
  rw [Image] at h
  generalize x.toModel.unpack = u at h number nonzero
  generalize x'.toModel.unpack = u' at h
  cases h with
  | notANumber => cases number
  | infinity s => cases s <;> rfl
  | zero s s' => exact absurd rfl nonzero
  | finite s m e hm => cases s <;> rfl

/-- Opposites that carry one sign are zero. -/
theorem Image.value?_of_isNegative_eq {x x' : Float} (h : Image .negative x x')
    (number : x.isNaN = false) (same : Scalar.isNegative x' = Scalar.isNegative x) :
    value? x = some 0 := by
  by_contra nonzero
  have flipped := h.isNegative_eq number nonzero
  rw [same] at flipped
  exact Bool.not_ne_self _ flipped.symm

end Drivetrain.Machine
