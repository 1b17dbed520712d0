/-
What a series of actions sends to the motors of a drive, and what becomes of each motor.

Only orders change what a motor was told.  A property of motors that survives all else that can be
done to one therefore holds of every motor after a series of actions, if it survives each of the
orders that the series sends.

Main definitions:

* `Drivetrain.Wheels.Every`, `Drivetrain.Wheels.places` — a property of what stands on every wheel,
  and the wheels that there are;
* `Drivetrain.Drive.orders`, `Drivetrain.Drive.sent` — the orders that an action and a series send;
* `Drivetrain.Motor.Steady` — a property of motors that only orders can end.

Main results:

* `Drivetrain.Drive.every_perform`, `Drivetrain.Drive.every_performAll` — **a steady property of
  every motor lasts**, through one action and through a series, if the orders sent keep it.
-/

import Drivetrain.Proofs.Commands

set_option relaxedAutoImplicit false
set_option autoImplicit false

namespace Drivetrain

/-! ### Every wheel -/

namespace Wheels

variable {β γ : Type} {P : β → Prop} {Q : γ → Prop} {ws : Wheels β}

/-- **A property of what stands on every wheel.** -/
def Every (P : β → Prop) (ws : Wheels β) : Prop := ∀ x ∈ ws.toList, P x

@[simp] theorem every_pair {l r : β} : (pair l r).Every P ↔ P l ∧ P r := by
  simp [Every, toList]

@[simp] theorem every_corners {tl tr br bl : β} :
    (corners tl tr br bl).Every P ↔ P tl ∧ P tr ∧ P br ∧ P bl := by
  simp [Every, toList]

/-- The wheels of the layout, in the order in which they are listed. -/
def places : Wheels β → List Wheel
  | pair .. => [.left, .right]
  | corners .. => [.topLeft, .topRight, .bottomRight, .bottomLeft]

theorem Every.map {f : Wheel → β → γ} (h : ws.Every P)
    (step : ∀ w ∈ ws.places, ∀ x, P x → Q (f w x)) : (ws.map f).Every Q := by
  cases ws with
  | pair l r =>
      rw [every_pair] at h
      simp only [places, List.forall_mem_cons] at step
      exact every_pair.2 ⟨step.1 _ h.1, step.2.1 _ h.2⟩
  | corners tl tr br bl =>
      rw [every_corners] at h
      obtain ⟨tl, tr, br, bl⟩ := h
      simp only [places, List.forall_mem_cons] at step
      obtain ⟨first, second, third, fourth, -⟩ := step
      exact every_corners.2 ⟨first _ tl, second _ tr, third _ br, fourth _ bl⟩

theorem Every.leads (h : ws.Every P) : P ws.leads.left ∧ P ws.leads.right := by
  cases ws with
  | pair l r => exact every_pair.1 h
  | corners tl tr br bl =>
      rw [every_corners] at h
      exact ⟨h.1, h.2.1⟩

theorem Every.setLeads {s : Sides β} (h : ws.Every P) (left : P s.left) (right : P s.right) :
    (ws.setLeads s).Every P := by
  cases ws with
  | pair l r => exact every_pair.2 ⟨left, right⟩
  | corners tl tr br bl =>
      rw [every_corners] at h
      exact every_corners.2 ⟨left, right, h.2.2⟩

theorem Every.modifyNth {f : β → β} (h : ws.Every P) (step : ∀ x, P x → P (f x)) (n : Nat) :
    (ws.modifyNth n f).Every P := by
  cases ws with
  | pair l r =>
      rw [every_pair] at h
      rcases n with _ | _ | n
      · exact every_pair.2 ⟨step _ h.1, h.2⟩
      · exact every_pair.2 ⟨h.1, step _ h.2⟩
      · exact every_pair.2 h
  | corners tl tr br bl =>
      rw [every_corners] at h
      obtain ⟨tl, tr, br, bl⟩ := h
      rcases n with _ | _ | _ | _ | n
      · exact every_corners.2 ⟨step _ tl, tr, br, bl⟩
      · exact every_corners.2 ⟨tl, step _ tr, br, bl⟩
      · exact every_corners.2 ⟨tl, tr, step _ br, bl⟩
      · exact every_corners.2 ⟨tl, tr, br, step _ bl⟩
      · exact every_corners.2 ⟨tl, tr, br, bl⟩

end Wheels

variable {α : Type} [Scalar α]

/-- **A property of motors that only orders can end.** -/
structure Motor.Steady (P : Motor α → Prop) : Prop where
  configure : ∀ now setting m, P m → P (Motor.configure now setting m)
  read : ∀ now m, P m → P (Motor.read now m).2
  reset : ∀ now m, P m → P (Motor.reset now m)
  place : ∀ x m, P m → P (Motor.place x m)

namespace Drive

/-! ### Series of actions -/

/-- **The orders that an action sends to the motors.** -/
def orders (d : Drive α) : Action α → List MotorOrder
  | .steer m => d.motors.places.filterMap (m.order? d.full)
  | .direct _ v => match d.motors with
    | .pair .. => [.velocity v]
    | .corners .. => []
  | _ => []

/-- **The orders that a series of actions sends**, the oldest first. -/
def sent (d : Drive α) : List (Nat × Action α) → List MotorOrder
  | [] => []
  | (now, a) :: later => d.orders a ++ (d.perform now a).sent later

theorem performAll_append (d : Drive α) (series later : List (Nat × Action α)) :
    d.performAll (series ++ later) = (d.performAll series).performAll later := by
  induction series generalizing d with
  | nil => rfl
  | cons x series ih => exact ih _

theorem sent_append (d : Drive α) (series later : List (Nat × Action α)) :
    d.sent (series ++ later) = d.sent series ++ (d.performAll series).sent later := by
  induction series generalizing d with
  | nil => rfl
  | cons x series ih =>
      obtain ⟨now, a⟩ := x
      rw [List.cons_append, sent, sent, ih, List.append_assoc, performAll]

/-! ### What becomes of the motors -/

variable {P : Motor α → Prop} {d : Drive α} {now : Nat}

theorem every_steer {m : Maneuver α} (h : d.motors.Every P)
    (obeys : ∀ o ∈ d.orders (.steer m), ∀ x, P x → P (Motor.obey now o x)) :
    (d.steer now m).motors.Every P := by
  rw [steer]
  dsimp only
  refine Wheels.Every.map h ?_
  intro w hw x hx
  cases ho : m.order? d.full w with
  | none => exact hx
  | some o => exact obeys o (List.mem_filterMap.2 ⟨w, hw, ho⟩) x hx

theorem every_direct {side : Side} {v : Int16} (h : d.motors.Every P)
    (obeys : ∀ o ∈ d.orders (.direct side v), ∀ x, P x → P (Motor.obey now o x)) :
    (d.direct now side v).motors.Every P := by
  obtain ⟨motors, sensing, full⟩ := d
  cases motors with
  | corners tl tr br bl => exact h
  | pair l r =>
    rw [Wheels.every_pair] at h
    have step := obeys (.velocity v) (List.mem_singleton_self _)
    cases side with
    | left => exact Wheels.every_pair.2 ⟨step _ h.1, h.2⟩
    | right => exact Wheels.every_pair.2 ⟨h.1, step _ h.2⟩

theorem every_sense (read : ∀ now m, P m → P (Motor.read now m).2) (h : d.motors.Every P) :
    (d.sense now).2.motors.Every P := by
  have leads := h.leads
  unfold sense
  split
  · exact h
  · exact h.setLeads (read now _ leads.1) (read now _ leads.2)

theorem every_resetSensors (steady : Motor.Steady P) (h : d.motors.Every P) :
    (d.resetSensors now).motors.Every P := by
  have leads := h.leads
  unfold resetSensors
  split
  · exact h
  · exact h.setLeads (steady.reset now _ leads.1) (steady.reset now _ leads.2)

/-- **A steady property of every motor lasts through an action** whose orders keep it. -/
theorem every_perform (steady : Motor.Steady P) (h : d.motors.Every P) {a : Action α}
    (obeys : ∀ o ∈ d.orders a, ∀ x, P x → P (Motor.obey now o x)) :
    (d.perform now a).motors.Every P := by
  cases a with
  | steer m => exact every_steer h obeys
  | configure setting => exact h.map fun _ _ => steady.configure now setting
  | resetSensors => exact every_resetSensors steady h
  | direct side v => exact every_direct h obeys
  | placeEncoder n x => exact h.modifyNth (steady.place x) n
  | placeSensor side x =>
      simp only [perform, placeSensor]
      split <;> exact h
  | sense => exact every_sense steady.read h

/-- **A steady property of every motor lasts through a series of actions** whose orders keep it. -/
theorem every_performAll (steady : Motor.Steady P) (h : d.motors.Every P)
    {series : List (Nat × Action α)}
    (obeys : ∀ o ∈ d.sent series, ∀ now x, P x → P (Motor.obey now o x)) :
    (d.performAll series).motors.Every P := by
  induction series generalizing d with
  | nil => exact h
  | cons x series ih =>
      simp only [sent, List.mem_append, or_imp, forall_and] at obeys
      exact ih (every_perform steady h fun o ho => obeys.1 o ho x.1) obeys.2

end Drive

end Drivetrain
