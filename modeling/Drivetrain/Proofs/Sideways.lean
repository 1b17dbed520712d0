/-
Sideways: what holonomic arcade sends to the corners.

Three axes go to four corners under twelve signs, and on their way they pass deadbands, clamping and
truncation.  None of these tells one direction from the other, and the sums under the signs are made
of the same parts, so whatever the signs make alike the voltages have alike: the corners of a chassis
that is mirrored change sides, and those of one that is reversed change their direction.

Main definitions:

* `Drivetrain.Mixing.heeded` — what holonomic arcade takes of an axis;
* `Drivetrain.Mixing.push` — what a motor is told for a share of a maximum;
* `Drivetrain.Drive.voltages` — the voltages that a maneuver sends, in the order of the wheels.

Main results:

* `Drivetrain.Mixing.push_opposite`, `Drivetrain.Mixing.push_sign` — **the opposite share is the
  opposite order**, and an order goes the way of its share, if the maximum has a place in sixteen
  bits on both sides of zero;
* `Drivetrain.Drive.voltages_holonomic` — the shares of the four corners;
* `Drivetrain.Drive.holonomic_symmetric` — mirrored axes swap the sides, reversed axes reverse the
  voltages, without the sideways axis both motors of a side are sent the same, and with nothing else
  the corners push crosswise, as they turn for strafing.
-/

import Drivetrain.Proofs.Reflection

set_option relaxedAutoImplicit false
set_option autoImplicit false

namespace Drivetrain

open Machine (Image value? balanced_unit)

/-! ### Shares of full voltage -/

namespace Mixing

/-- **What holonomic arcade takes of an axis**: its clamped value, or nothing below the threshold. -/
def heeded {α : Type} [Scalar α] (threshold x : α) : α := strictDeadband threshold (clampUnit x)

variable {threshold x x' : Float}

theorem clampUnit_congr (h : Image .positive x x') :
    Image .positive (clampUnit x) (clampUnit x') := by
  have there : Image .negative (clampUnit x) (clampUnit (-x)) :=
    balanced_unit.clamp (.neg_self x)
  exact there.trans (balanced_unit.clamp ((Image.neg_self x).symm.trans h))

theorem heeded_opposite (threshold : Float) (h : Image .negative x x') :
    Image .negative (heeded threshold x) (heeded threshold x') := by
  have clamped : Image .negative (clampUnit x) (clampUnit x') := balanced_unit.clamp h
  rw [heeded, heeded, strictDeadband, strictDeadband,
    show Scalar.abs (clampUnit x') = Scalar.abs (clampUnit x) from clamped.abs_eq]
  split
  · exact image_zero
  · exact clamped

/-- Nothing is taken below the threshold, or of an axis at rest. -/
theorem value?_heeded (h : Float.abs (clampUnit x) < threshold ∨ (x == 0) = true) :
    value? (heeded threshold x) = some 0 := by
  rw [heeded, strictDeadband]
  split
  · exact value?_zero
  · rename_i beyond
    rcases h with below | rest
    · exact absurd below beyond
    · exact balanced_unit.value?_clamp (Machine.value?_of_beq_zero rest)

theorem clampUnit_nonneg (h : 0 ≤ x) : 0 ≤ clampUnit x := by
  have unit : ¬ (0.0 : Float) ≤ -1.0 := by decide +kernel
  rw [clampUnit, Range.clamp]
  split
  · rename_i below
    exact absurd (Machine.le_trans h (Machine.le_of_lt below)) unit
  · split
    · decide +kernel
    · exact h

theorem heeded_nonneg (threshold : Float) (h : 0 ≤ x) : 0 ≤ heeded threshold x := by
  rw [heeded, strictDeadband]
  split
  · exact Machine.le_refl rfl
  · exact clampUnit_nonneg h

/-- **What a motor is told for a share of a maximum**: millivolts of full voltage, or turns a minute
of full velocity. -/
def push {α : Type} [Scalar α] (maximum share : α) : ℤ := (command (clampUnit share) maximum).toInt

variable {maximum s s' : Float}

theorem push_congr (maximum : Float) (h : Image .positive s s') :
    push maximum s' = push maximum s := by
  rw [push, push, command_eq (clampUnit_congr h)]

/-- A maximum between bounds has a value between them. -/
theorem exists_value?_maximum (least : 0 ≤ maximum) (most : maximum ≤ 32767) :
    ∃ b : ℚ, value? maximum = some b ∧ 0 ≤ b ∧ b ≤ 32767 :=
  Machine.exists_value?_of_bounds rfl (Machine.value?_ofInt (n := 32767) (by decide)) least most

/-- Sixteen bits cut nothing off a share. -/
theorem push_eq (least : 0 ≤ maximum) (most : maximum ≤ 32767) (s : Float) :
    push maximum s = Scalar.truncate (clampUnit s * maximum) := by
  obtain ⟨b, value, nonneg, bound⟩ := exists_value?_maximum least most
  have small : (Scalar.truncate (clampUnit s * maximum)).natAbs ≤ 32767 := by
    rcases fraction_clampUnit s with none | ⟨a, value', unit⟩
    · rw [show Scalar.truncate (clampUnit s * maximum) = 0 from
        Machine.truncate_of_isNaN (Machine.isNaN_mul_left none _)]
      decide
    · obtain ⟨c, product, le⟩ := Machine.value?_mul_le value' value unit
      have whole := (Machine.natAbs_truncate_le product).trans le
      rw [abs_of_nonneg nonneg] at whole
      exact_mod_cast whole.trans bound
  rw [push, command, toInt_ofIntClamp]
  omega

/-- **The opposite share is the opposite order.** -/
theorem push_opposite (least : 0 ≤ maximum) (most : maximum ≤ 32767)
    (h : Image .negative s s') : push maximum s' = -push maximum s := by
  have clamped : Image .negative (clampUnit s) (clampUnit s') := balanced_unit.clamp h
  have product : Image .negative (clampUnit s * maximum) (clampUnit s' * maximum) :=
    clamped.mul (.refl maximum)
  rw [push_eq least most, push_eq least most]
  exact product.truncate_opposite

theorem push_nonneg (least : 0 ≤ maximum) (most : maximum ≤ 32767) (h : 0 ≤ s) :
    0 ≤ push maximum s := by
  obtain ⟨b, value, nonneg, -⟩ := exists_value?_maximum least most
  have clamped := clampUnit_nonneg h
  obtain ⟨a, value', unit⟩ := (fraction_clampUnit s).resolve_left
    (ne_true_of_eq_false (Machine.isNaN_of_le clamped))
  have above : 0 ≤ a := (Machine.le_of_value? value?_zero value').1 clamped
  obtain ⟨c, product, result⟩ := Machine.value?_mul_nonneg value' value unit above nonneg
  have notBelow : ¬ clampUnit s * maximum < 0 :=
    mt (Machine.lt_of_value? product value?_zero).1 result.not_gt
  rw [push_eq least most, show Scalar.truncate (clampUnit s * maximum) =
    ((clampUnit s * maximum).toUInt64.toNat : ℤ) from if_neg notBelow]
  exact Int.natCast_nonneg _

/-- The opposite of a share that is not negative is never pushed onward. -/
theorem push_nonpos (least : 0 ≤ maximum) (most : maximum ≤ 32767) (h : Image .negative s s')
    (opposite : 0 ≤ s') : push maximum s ≤ 0 := by
  have onward := push_nonneg least most opposite
  rw [push_opposite least most h] at onward
  exact Int.neg_nonneg.1 onward

/-- **An order goes the way of its share.** -/
theorem push_sign (least : 0 ≤ maximum) (most : maximum ≤ 32767) (s : Float) :
    (0 ≤ s → 0 ≤ push maximum s) ∧ (s ≤ 0 → push maximum s ≤ 0) :=
  ⟨push_nonneg least most,
    fun h => push_nonpos least most (Image.neg_self s) (Machine.neg_nonneg h)⟩

/-- What is taken of an axis goes its way. -/
theorem push_heeded_sign (least : 0 ≤ maximum) (most : maximum ≤ 32767) (x threshold : Float) :
    (0 ≤ x → 0 ≤ push maximum (heeded threshold x)) ∧
      (x ≤ 0 → push maximum (heeded threshold x) ≤ 0) :=
  ⟨fun h => push_nonneg least most (heeded_nonneg threshold h),
    fun h => push_nonpos least most (heeded_opposite threshold (Image.neg_self x))
      (heeded_nonneg threshold (Machine.neg_nonneg h))⟩

end Mixing

/-! ### The corners -/

/-- The voltage of an order, in millivolts, if it is one to push. -/
def MotorOrder.millivolts? : MotorOrder → Option ℤ
  | .velocity _ => none
  | .voltage millivolts => some millivolts.toInt

namespace Drive

open Mixing (command clampUnit heeded push)

/-- **The voltages that a maneuver sends**, in millivolts, in the order in which the wheels are
listed. -/
def voltages {α : Type} [Scalar α] (d : Drive α) (m : Maneuver α) : List ℤ :=
  (d.orders (.steer m)).filterMap MotorOrder.millivolts?

variable {d : Drive Float} {m₁ m₂ m₃ m₄ : Motor Float}

/-- **The shares of the four corners.** -/
theorem voltages_holonomic {α : Type} [Scalar α] {d : Drive α} {m₁ m₂ m₃ m₄ : Motor α}
    (layout : d.motors = .corners m₁ m₂ m₃ m₄) (sideways forward yaw threshold : α) :
    let x := heeded threshold sideways
    let f := heeded threshold forward
    let y := heeded threshold yaw
    d.voltages (.holonomic sideways forward yaw threshold) =
      [push d.full.voltage (f + x + y), push d.full.voltage (f - x - y),
        push d.full.voltage (f + x - y), push d.full.voltage (f - x + y)] := by
  rw [voltages, orders, layout]
  rfl

/-- What goes to the corners of a diagonal alike, and to those of the other diagonal reversed. -/
def crosswise {β : Type} [Neg β] (x : β) : List β := [x, -x, x, -x]

/-- **Strafing turns the corners crosswise**, the top left one by its share of full velocity. -/
theorem orders_strafe {α : Type} [Scalar α] {d : Drive α} {m₁ m₂ m₃ m₄ : Motor α}
    (layout : d.motors = .corners m₁ m₂ m₃ m₄) (speed : α) :
    d.orders (.steer (.strafe speed)) =
      (crosswise (command (clampUnit speed) d.full.velocity)).map .velocity := by
  rw [orders, layout]
  rfl

/-- **Mirrored axes swap the sides.** -/
theorem voltages_mirrored (layout : d.motors = .corners m₁ m₂ m₃ m₄)
    (sideways forward yaw threshold : Float) {tl tr br bl : ℤ}
    (sent : d.voltages (.holonomic sideways forward yaw threshold) = [tl, tr, br, bl]) :
    d.voltages (.holonomic (-sideways) forward (-yaw) threshold) = [tr, tl, bl, br] := by
  have hx := Mixing.heeded_opposite threshold (Image.neg_self sideways)
  have hy := Mixing.heeded_opposite threshold (Image.neg_self yaw)
  have same := Image.refl (heeded threshold forward)
  rw [voltages_holonomic layout] at sent ⊢
  cases sent
  rw [Mixing.push_congr _ ((same.add_opposite hx).add_opposite hy),
    Mixing.push_congr _ ((same.sub_opposite hx).sub_opposite hy),
    Mixing.push_congr _ ((same.add_opposite hx).sub_opposite hy),
    Mixing.push_congr _ ((same.sub_opposite hx).add_opposite hy)]

/-- **Reversed axes reverse the voltages.** -/
theorem voltages_reversed (layout : d.motors = .corners m₁ m₂ m₃ m₄) (least : 0 ≤ d.full.voltage)
    (most : d.full.voltage ≤ 32767) (sideways forward yaw threshold : Float) {tl tr br bl : ℤ}
    (sent : d.voltages (.holonomic sideways forward yaw threshold) = [tl, tr, br, bl]) :
    d.voltages (.holonomic (-sideways) (-forward) (-yaw) threshold) = [-tl, -tr, -br, -bl] := by
  have hx := Mixing.heeded_opposite threshold (Image.neg_self sideways)
  have hf := Mixing.heeded_opposite threshold (Image.neg_self forward)
  have hy := Mixing.heeded_opposite threshold (Image.neg_self yaw)
  have opposite : ∀ {s s' : Float}, Image .negative s s' →
      push d.full.voltage s' = -push d.full.voltage s := Mixing.push_opposite least most
  rw [voltages_holonomic layout] at sent ⊢
  cases sent
  rw [opposite ((hf.add hx).add hy), opposite ((hf.sub hx).sub hy),
    opposite ((hf.add hx).sub hy), opposite ((hf.sub hx).add hy)]

/-- Without the sideways axis both motors of a side are sent the same. -/
theorem voltages_ahead (layout : d.motors = .corners m₁ m₂ m₃ m₄)
    {sideways forward yaw threshold : Float} (rest : value? (heeded threshold sideways) = some 0)
    {tl tr br bl : ℤ}
    (sent : d.voltages (.holonomic sideways forward yaw threshold) = [tl, tr, br, bl]) :
    tl = bl ∧ tr = br := by
  have same : Image .positive (heeded threshold forward + heeded threshold sideways)
      (heeded threshold forward - heeded threshold sideways) :=
    (Image.refl _).sub_opposite (.of_zero rest rest)
  have yaw := Image.refl (heeded threshold yaw)
  rw [voltages_holonomic layout] at sent
  cases sent
  exact ⟨(Mixing.push_congr _ (same.add yaw)).symm, Mixing.push_congr _ (same.sub yaw)⟩

/-- With nothing but the sideways axis the corners push crosswise. -/
theorem voltages_sideways (layout : d.motors = .corners m₁ m₂ m₃ m₄) (least : 0 ≤ d.full.voltage)
    (most : d.full.voltage ≤ 32767) (sideways : Float) {forward yaw threshold : Float}
    (hf : value? (heeded threshold forward) = some 0)
    (hy : value? (heeded threshold yaw) = some 0) :
    d.voltages (.holonomic sideways forward yaw threshold) =
      crosswise (push d.full.voltage (heeded threshold sideways)) := by
  let x := heeded threshold sideways
  let f := heeded threshold forward
  let y := heeded threshold yaw
  have still : ∀ {σ}, Image σ f f := .of_zero hf hf
  have straight : ∀ {σ}, Image σ y y := .of_zero hy hy
  have moved : Image .positive x (f + x) := by
    rw [Machine.add_comm]
    exact Machine.image_add_zero x hf
  have back : Image .negative x (f - x) := by
    rw [Machine.sub_eq_add_neg]
    exact moved.trans (still.add (.neg_self x))
  have topLeft : Image .positive x (f + x + y) := moved.trans (Machine.image_add_zero _ hy)
  have bottomRight : Image .positive x (f + x - y) :=
    topLeft.trans ((Image.refl _).sub_opposite straight)
  have bottomLeft : Image .negative x (f - x + y) := back.trans (Machine.image_add_zero _ hy)
  have topRight : Image .negative x (f - x - y) :=
    bottomLeft.trans ((Image.refl _).sub_opposite straight)
  rw [voltages_holonomic layout, Mixing.push_congr _ topLeft, Mixing.push_congr _ bottomRight,
    Mixing.push_opposite least most topRight, Mixing.push_opposite least most bottomLeft]
  rfl

/-- **The symmetries of holonomic arcade**, where full voltage has a place in sixteen bits.  Mirrored
axes swap the sides, and reversed axes reverse all voltages.  Without the sideways axis both motors of
a side are sent the same.  With nothing else the corners push crosswise, as they turn for strafing,
and the top left one pushes the way of the axis; so it turns for strafing, if full velocity has a
place in sixteen bits too. -/
theorem holonomic_symmetric (layout : d.motors = .corners m₁ m₂ m₃ m₄)
    (least : 0 ≤ d.full.voltage) (most : d.full.voltage ≤ 32767)
    (sideways forward yaw threshold : Float) :
    ∃ topLeft topRight bottomRight bottomLeft : ℤ,
      d.voltages (.holonomic sideways forward yaw threshold) =
          [topLeft, topRight, bottomRight, bottomLeft] ∧
        d.voltages (.holonomic (-sideways) forward (-yaw) threshold) =
          [topRight, topLeft, bottomLeft, bottomRight] ∧
        d.voltages (.holonomic (-sideways) (-forward) (-yaw) threshold) =
          [-topLeft, -topRight, -bottomRight, -bottomLeft] ∧
        (Float.abs (clampUnit sideways) < threshold ∨ (sideways == 0) = true →
          topLeft = bottomLeft ∧ topRight = bottomRight) ∧
        ((heeded threshold forward == 0) = true → (heeded threshold yaw == 0) = true →
          d.voltages (.holonomic sideways forward yaw threshold) = crosswise topLeft ∧
            (d.orders (.steer (.strafe sideways)) =
                (crosswise (command (clampUnit sideways) d.full.velocity)).map .velocity ∧
              (0 ≤ d.full.velocity → d.full.velocity ≤ 32767 →
                (0 ≤ sideways → 0 ≤ (command (clampUnit sideways) d.full.velocity).toInt) ∧
                  (sideways ≤ 0 → (command (clampUnit sideways) d.full.velocity).toInt ≤ 0))) ∧
            (0 ≤ sideways → 0 ≤ topLeft) ∧ (sideways ≤ 0 → topLeft ≤ 0)) := by
  have sent := voltages_holonomic layout sideways forward yaw threshold
  refine ⟨_, _, _, _, sent, voltages_mirrored layout _ _ _ _ sent,
    voltages_reversed layout least most _ _ _ _ sent,
    fun rest => voltages_ahead layout (Mixing.value?_heeded rest) sent, fun hf hy => ?_⟩
  have across := voltages_sideways layout least most sideways
    (Machine.value?_of_beq_zero hf) (Machine.value?_of_beq_zero hy)
  have topLeft := (List.cons.inj (sent.symm.trans across)).1
  rw [topLeft]
  exact ⟨across,
    ⟨orders_strafe layout sideways, fun least' most' => Mixing.push_sign least' most' sideways⟩,
    Mixing.push_heeded_sign least most sideways threshold⟩

/-- A drive on four bench motors, one on each corner. -/
def square : Drive Float where
  motors := .corners (.bench .new) (.bench .new) (.bench .new) (.bench .new)
  sensing := .builtIn
  full := ⟨200, 12000⟩

theorem holonomic_symmetric_of_square :
    (square.motors =
        .corners (.bench .new) (.bench .new) (.bench .new) (.bench .new) ∧
      0 ≤ square.full.voltage ∧ square.full.voltage ≤ 32767) ∧
      (square.voltages (.holonomic 0.25 0.5 (-0.125) 0.1) = [7500, 4500, 10500, 1500] ∧
        square.voltages (.holonomic (-0.25) 0.5 (- -0.125) 0.1) = [4500, 7500, 1500, 10500] ∧
        square.voltages (.holonomic (-0.25) (-0.5) (- -0.125) 0.1) =
          [-7500, -4500, -10500, -1500]) ∧
      square.voltages (.holonomic (-0.25) 0.05 (-0.0625) 0.1) = crosswise (-3000) ∧
        square.orders (.steer (.strafe (-0.25))) = (crosswise (-50)).map .velocity := by
  have least : 0 ≤ square.full.voltage := by decide +kernel
  have most : square.full.voltage ≤ 32767 := by decide +kernel
  refine ⟨⟨rfl, least, most⟩, ?_, ?_⟩
  · have sent : square.voltages (.holonomic 0.25 0.5 (-0.125) 0.1) = [7500, 4500, 10500, 1500] := by
      decide +kernel
    obtain ⟨tl, tr, br, bl, drawn, mirrored, reversed, -⟩ :=
      holonomic_symmetric (d := square) rfl least most 0.25 0.5 (-0.125) 0.1
    cases sent.symm.trans drawn
    exact ⟨sent, mirrored, reversed⟩
  · have sent : square.voltages (.holonomic (-0.25) 0.05 (-0.0625) 0.1) =
        [-3000, 3000, -3000, 3000] := by
      decide +kernel
    obtain ⟨tl, tr, br, bl, drawn, -, -, -, crossing⟩ :=
      holonomic_symmetric (d := square) rfl least most (-0.25) 0.05 (-0.0625) 0.1
    cases sent.symm.trans drawn
    obtain ⟨across, ⟨strafed, -⟩, -⟩ := crossing (by decide +kernel) (by decide +kernel)
    exact ⟨across, strafed⟩

end Drive

end Drivetrain
