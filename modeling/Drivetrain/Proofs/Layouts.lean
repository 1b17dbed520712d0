/-
A wheel on each corner does what a wheel on each side does.

All maneuvers but strafing and holonomic arcade treat the wheels of a side alike.  Put two drives
beside each other, one of each layout, that were told the same and whose sensors read the same, and
do the same to both: the two left corners go on being told what the left side is told, the two right
corners what the right side is, and the sensors go on reading the same.  A controller sees of its
drive nothing but those readings, so it cannot tell on which of the two it is.

Main definitions:

* `Drivetrain.Motor.told` — a motor but for where its shaft stands: all it was ever told;
* `Drivetrain.Wheels.Paired`, `Drivetrain.Drive.Counterparts` — corners that were told what the
  sides were told;
* `Drivetrain.Drive.Action.isCommon` — what can be done to either layout;
* `Drivetrain.Shared.Counterparts`, `Drivetrain.Session.Counterparts` — shared controllers and
  sessions that differ in nothing but the layout;
* `Drivetrain.Session.calls?` — the session after a series of calls, if they all return.

Main results:

* `Drivetrain.Drive.Counterparts.perform` — **every common action keeps counterparts**;
* `Drivetrain.Drive.Counterparts.sense` — counterparts read the same;
* `Drivetrain.Shared.Counterparts.replay` — every run of a controller's threads keeps counterparts;
* `Drivetrain.Session.Counterparts.calls?` — so does every series of calls;
* `Drivetrain.Drive.corners_follow_sides` — all of it together.
-/

import Drivetrain.Proofs.Orders
import Drivetrain.Proofs.Sessions
import Mathlib.Data.List.Forall2

set_option relaxedAutoImplicit false
set_option autoImplicit false

namespace Drivetrain

variable {α : Type} [Scalar α]

/-! ### What a motor was told -/

namespace Motor

/-- **All that a motor was told**: the motor but for where its shaft stands. -/
def told : Motor α → Motor α
  | bench m => bench { m with encoder := 0 }
  | simulated m => simulated { m with position := 0, offset := 0, updatedAt := 0 }

/-- Motors on the bench were told the same if their orders and settings are the same. -/
theorem told_bench_iff {m m' : BenchMotor α} :
    (bench m).told = (bench m').told ↔
      m.velocity = m'.velocity ∧ m.voltage = m'.voltage ∧ m.brakeMode = m'.brakeMode ∧
        m.units = m'.units ∧ m.gearset = m'.gearset ∧ m.positionTuning = m'.positionTuning ∧
        m.velocityTuning = m'.velocityTuning := by
  simp [told]

theorem told_simulated_iff {m m' : SimulatedMotor α} :
    (simulated m).told = (simulated m').told ↔
      m.gearset = m'.gearset ∧ m.units = m'.units ∧ m.speed = m'.speed := by
  simp [told]

variable {m m' : Motor α}

/-- Two motors that were told the same are of one kind. -/
theorem kinds_of_told (h : m.told = m'.told) :
    (∃ b b', m = bench b ∧ m' = bench b') ∨ ∃ b b', m = simulated b ∧ m' = simulated b' := by
  cases m with
  | bench b =>
      cases m' with
      | bench b' => exact .inl ⟨b, b', rfl, rfl⟩
      | simulated b' => cases h
  | simulated b =>
      cases m' with
      | bench b' => cases h
      | simulated b' => exact .inr ⟨b, b', rfl, rfl⟩

theorem told_obey (h : m.told = m'.told) (now : Nat) (o : MotorOrder) :
    (m.obey now o).told = (m'.obey now o).told := by
  rcases kinds_of_told h with ⟨b, b', rfl, rfl⟩ | ⟨b, b', rfl, rfl⟩
  · rw [told_bench_iff] at h
    cases o with
    | velocity v => exact told_bench_iff.2 ⟨rfl, h.2⟩
    | voltage v => exact told_bench_iff.2 ⟨h.1, rfl, h.2.2⟩
  · rw [told_simulated_iff] at h
    obtain ⟨gearset, units, -⟩ := h
    cases o <;>
      exact told_simulated_iff.2 ⟨gearset, units, by
        simp only [SimulatedMotor.obey, SimulatedMotor.turnAt, SimulatedMotor.advance, gearset]⟩

theorem told_configure (h : m.told = m'.told) (now : Nat) (setting : MotorSetting α) :
    (m.configure now setting).told = (m'.configure now setting).told := by
  rcases kinds_of_told h with ⟨b, b', rfl, rfl⟩ | ⟨b, b', rfl, rfl⟩
  · rw [told_bench_iff] at h
    obtain ⟨velocity, voltage, brake, units, gearset, position, speed⟩ := h
    cases setting <;> simp [Motor.configure, BenchMotor.configure, told_bench_iff, *]
  · rw [told_simulated_iff] at h
    obtain ⟨gearset, units, speed⟩ := h
    cases setting <;>
      simp [Motor.configure, SimulatedMotor.configure, SimulatedMotor.advance, told_simulated_iff, *]

@[simp] theorem told_read (now : Nat) (m : Motor α) : (m.read now).2.told = m.told := by
  cases m <;> rfl

@[simp] theorem told_reset (now : Nat) (m : Motor α) : (m.reset now).told = m.told := by
  cases m <;> rfl

@[simp] theorem told_place (x : α) (m : Motor α) : (m.place x).told = m.told := by
  cases m <;> rfl

end Motor

/-! ### Corners and sides -/

namespace Wheels

/-- **Corners that were told what the sides were told.** -/
inductive Paired : Wheels (Motor α) → Wheels (Motor α) → Prop where
  | intro {tl tr br bl l r : Motor α} (topLeft : tl.told = l.told) (topRight : tr.told = r.told)
      (bottomRight : br.told = r.told) (bottomLeft : bl.told = l.told) :
      Paired (corners tl tr br bl) (pair l r)

variable {ws ws' : Wheels (Motor α)}

/-- What treats the wheels of a side alike keeps corners beside the sides. -/
theorem Paired.map {f : Wheel → Motor α → Motor α} (h : Paired ws ws')
    (alike : ∀ w w' m m', w.side = w'.side → m.told = m'.told → (f w m).told = (f w' m').told) :
    Paired (ws.map f) (ws'.map f) := by
  cases h with
  | intro topLeft topRight bottomRight bottomLeft =>
      exact ⟨alike _ _ _ _ rfl topLeft, alike _ _ _ _ rfl topRight, alike _ _ _ _ rfl bottomRight,
        alike _ _ _ _ rfl bottomLeft⟩

/-- So does what is done to the shafts of the front wheels. -/
theorem Paired.setLeads {f : Motor α → Motor α} (h : Paired ws ws')
    (shaft : ∀ m, (f m).told = m.told) :
    Paired (ws.setLeads (ws.leads.map f)) (ws'.setLeads (ws'.leads.map f)) := by
  cases h with
  | intro topLeft topRight bottomRight bottomLeft =>
      exact ⟨(shaft _).trans (topLeft.trans (shaft _).symm),
        (shaft _).trans (topRight.trans (shaft _).symm), bottomRight.trans (shaft _).symm,
        bottomLeft.trans (shaft _).symm⟩

theorem Paired.modifyNth {f : Motor α → Motor α} (h : Paired ws ws')
    (shaft : ∀ m, (f m).told = m.told) (n : Nat) :
    Paired (ws.modifyNth n f) (ws'.modifyNth n f) := by
  cases h with
  | intro topLeft topRight bottomRight bottomLeft =>
      rcases n with _ | _ | _ | _ | n <;> constructor <;> simp [*]

end Wheels

/-- What is done alike to wheels of a side is done alike to the front ones of the sides. -/
theorem Wheels.Paired.leads_map {ws ws' : Wheels (Motor α)} (h : Paired ws ws')
    (leads : ws.leads = ws'.leads) {f : Wheel → Motor α → Motor α}
    (alike : ∀ w w' m, w.side = w'.side → f w m = f w' m) :
    (ws.map f).leads = (ws'.map f).leads := by
  cases h with
  | intro topLeft topRight bottomRight bottomLeft =>
      obtain ⟨rfl, rfl⟩ := Sides.mk.inj leads
      exact congrArg₂ Sides.mk (alike _ _ _ rfl) (alike _ _ _ rfl)

theorem Wheels.Paired.leads_modifyNth {ws ws' : Wheels (Motor α)} (h : Paired ws ws')
    (leads : ws.leads = ws'.leads) (f : Motor α → Motor α) (n : Nat) :
    (ws.modifyNth n f).leads = (ws'.modifyNth n f).leads := by
  cases h with
  | intro topLeft topRight bottomRight bottomLeft =>
      obtain ⟨rfl, rfl⟩ := Sides.mk.inj leads
      rcases n with _ | _ | _ | _ | n <;> rfl

/-! ### What both layouts can do -/

/-- Whether a maneuver is for either layout. -/
def Maneuver.isCommon : Maneuver α → Bool
  | .strafe _ | .holonomic .. => false
  | _ => true

/-- **A common maneuver treats the wheels of a side alike.** -/
theorem Maneuver.order?_of_side {m : Maneuver α} (common : m.isCommon = true) (full : Maxima α)
    {w w' : Wheel} (side : w.side = w'.side) : m.order? full w = m.order? full w' := by
  cases m with
  | strafe | holonomic => cases common
  | _ => simp only [order?, side]

namespace Drive

/-- Whether an action can be done to either layout: it is no maneuver of the corners alone, and no
order to the one motor of a side. -/
def Action.isCommon : Action α → Bool
  | .steer m => m.isCommon
  | .direct .. => false
  | _ => true

/-- **Drives that were told the same and read the same**, one of each layout. -/
structure Counterparts (x k : Drive α) : Prop where
  motors : Wheels.Paired x.motors k.motors
  /-- Encoders inside the front motors are moved alike. -/
  leads : x.sensing = .builtIn → x.motors.leads = k.motors.leads
  sensing : k.sensing = x.sensing
  full : k.full = x.full

namespace Counterparts

variable {x k : Drive α}

theorem steer (h : x.Counterparts k) (now : Nat) {m : Maneuver α} (common : m.isCommon = true) :
    (x.steer now m).Counterparts (k.steer now m) where
  motors := by
    simp only [Drive.steer, h.full]
    refine h.motors.map ?_
    intro w w' motor motor' side told
    rw [Maneuver.order?_of_side common x.full side]
    split
    · exact Motor.told_obey told now _
    · exact told
  leads builtIn := by
    simp only [Drive.steer, h.full]
    refine h.motors.leads_map (h.leads builtIn) ?_
    intro w w' motor side
    rw [Maneuver.order?_of_side common x.full side]
  sensing := h.sensing
  full := h.full

theorem configure (h : x.Counterparts k) (now : Nat) (setting : MotorSetting α) :
    (x.configure now setting).Counterparts (k.configure now setting) where
  motors := h.motors.map fun _ _ _ _ _ told => Motor.told_configure told now setting
  leads builtIn := by
    simp only [Drive.configure]
    exact h.motors.leads_map (h.leads builtIn) fun _ _ _ _ => rfl
  sensing := h.sensing
  full := h.full

theorem resetSensors (h : x.Counterparts k) (now : Nat) :
    (x.resetSensors now).Counterparts (k.resetSensors now) := by
  simp only [Drive.resetSensors, h.sensing]
  cases hs : x.sensing with
  | external positions => exact ⟨h.motors, by rintro ⟨⟩, rfl, h.full⟩
  | builtIn =>
      refine ⟨h.motors.setLeads (Motor.told_reset now), fun _ => ?_, rfl, h.full⟩
      simp only [Wheels.leads_setLeads, h.leads hs]

/-- **Counterparts read the same**, and stay counterparts. -/
theorem sense (h : x.Counterparts k) (now : Nat) :
    (x.sense now).1 = (k.sense now).1 ∧ (x.sense now).2.Counterparts (k.sense now).2 := by
  simp only [Drive.sense, h.sensing]
  cases hs : x.sensing with
  | external positions => exact ⟨rfl, h⟩
  | builtIn =>
      have leads := h.leads hs
      have motors := h.motors.setLeads (f := fun m => (m.read now).2) (Motor.told_read now)
      refine ⟨by rw [leads], ⟨motors, fun _ => ?_, rfl, h.full⟩⟩
      simp only [Wheels.leads_setLeads, leads]

/-- **Every common action keeps counterparts.** -/
theorem perform (h : x.Counterparts k) (now : Nat) {a : Action α} (common : a.isCommon = true) :
    (x.perform now a).Counterparts (k.perform now a) := by
  cases a with
  | steer m => exact h.steer now common
  | configure setting => exact h.configure now setting
  | resetSensors => exact h.resetSensors now
  | direct side v => cases common
  | placeEncoder n position =>
      refine ⟨h.motors.modifyNth (Motor.told_place position) n, fun builtIn => ?_, h.sensing, h.full⟩
      exact h.motors.leads_modifyNth (h.leads builtIn) _ n
  | placeSensor side position =>
      simp only [Drive.perform, placeSensor, h.sensing]
      cases hs : x.sensing with
      | external positions => exact ⟨h.motors, by rintro ⟨⟩, rfl, h.full⟩
      | builtIn => exact h
  | sense => exact (h.sense now).2

/-- **A series of common actions keeps counterparts.** -/
theorem performAll (h : x.Counterparts k) {series : List (Nat × Action α)}
    (common : ∀ a ∈ series, a.2.isCommon = true) :
    (x.performAll series).Counterparts (k.performAll series) := by
  induction series generalizing x k with
  | nil => exact h
  | cons a series ih =>
      rw [List.forall_mem_cons] at common
      exact ih (h.perform a.1 common.1) common.2

end Counterparts

end Drive

/-- A cycle asks for nothing that only one layout can do. -/
theorem Controller.common_of_cycle {c : Controller α} {samples : Samples} {now : Nat}
    {m : Maneuver α} (h : (c.cycle samples now).2 = some m) : m.isCommon = true := by
  cases hm : c.mode with
  | none => rw [cycle_of_none hm] at h; cases h
  | distance => rw [cycle_of_distance hm] at h; cases h; rfl
  | angle => rw [cycle_of_angle hm] at h; cases h; rfl

/-! ### Runs of threads -/

namespace Shared

/-- Whether a step can be made on either layout. -/
def Event.isCommon : Event α → Bool
  | .act a => a.isCommon
  | _ => true

/-- **Shared controllers that differ in nothing but the layout of their drives.** -/
def Counterparts (s s' : Shared α) : Prop :=
  ∃ d, s.drive.Counterparts d ∧ s' = { s with drive := d }

/-- The readings taken by a step, if it takes any. -/
def sensed? (s : Shared α) : Event α → Option Readings
  | .act .sense => some (s.drive.sense s.now).1
  | _ => none

/-- A controller asks for nothing that only one layout can do. -/
theorem common_of_maneuver? {s : Shared α} {e : Event α} {m : Maneuver α}
    (h : s.maneuver? e = some m) : m.isCommon = true := by
  cases e with
  | ask i r => cases r <;> cases h; rfl
  | poll i verdict => cases verdict <;> cases h; rfl
  | work samples => exact Controller.common_of_cycle h
  | _ => cases h

/-- No step looks at the drive, except to act on it. -/
theorem after_with_drive (s : Shared α) (d : Drive α) (e : Event α) :
    ({ s with drive := d } : Shared α).after e =
      { s.after e with drive := (({ s with drive := d } : Shared α).after e).drive } := by
  cases e with
  | ask i r =>
      simp only [after, ask]
      cases s.controller.motion? r with
      | some m => rfl
      | none => cases r.maneuver? <;> rfl
  | launch i =>
      simp only [after, launch]
      cases (s.clients i).motion? <;> rfl
  | poll i verdict =>
      simp only [after, poll, seen]
      cases (s.clients i).watched? with
      | none => rfl
      | some watched =>
          dsimp only
          cases (s.controller.poll watched s.now).1 <;> rfl
  | work samples =>
      simp only [after_work]
      cases (s.controller.cycle samples s.now).2 <;> rfl
  | _ => rfl

namespace Counterparts

variable {s s' : Shared α}

theorem enabled_iff (h : s.Counterparts s') (e : Event α) : s.Enabled e ↔ s'.Enabled e := by
  obtain ⟨d, -, rfl⟩ := h
  cases e <;> exact Iff.rfl

theorem maneuver? (h : s.Counterparts s') (e : Event α) : s.maneuver? e = s'.maneuver? e := by
  obtain ⟨d, -, rfl⟩ := h
  cases e with
  | poll i verdict => cases verdict <;> rfl
  | _ => rfl

/-- **Every common step keeps shared controllers counterparts.** -/
theorem after (h : s.Counterparts s') {e : Event α} (enabled : s.Enabled e)
    (common : e.isCommon = true) : (s.after e).Counterparts (s'.after e) := by
  have enabled' := (h.enabled_iff e).1 enabled
  have asked := h.maneuver? e
  obtain ⟨d, drive, rfl⟩ := h
  refine ⟨_, ?_, s.after_with_drive d e⟩
  by_cases hand : ∃ a, e = .act a
  · obtain ⟨a, rfl⟩ := hand
    exact drive.perform s.now common
  · have none : ∀ a, e ≠ .act a := fun a ha => hand ⟨a, ha⟩
    rw [drive_after enabled none, drive_after enabled' none, ← asked]
    cases hm : s.maneuver? e with
    | none => exact drive
    | some m => exact drive.steer s.now (common_of_maneuver? hm)

theorem orders? (h : s.Counterparts s') (e : Event α) : s.orders? e = s'.orders? e := by
  have asked := h.maneuver? e
  obtain ⟨d, drive, rfl⟩ := h
  simp only [Shared.orders?, asked, drive.full]

theorem sensed? (h : s.Counterparts s') (e : Event α) : s.sensed? e = s'.sensed? e := by
  obtain ⟨d, drive, rfl⟩ := h
  cases e with
  | act a =>
      cases a with
      | sense => exact congrArg some (drive.sense s.now).1
      | _ => rfl
  | _ => rfl

theorem now (h : s.Counterparts s') : s.now = s'.now := by
  obtain ⟨d, -, rfl⟩ := h
  rfl

/-- **What can be run on one layout can be run on the other**, and keeps counterparts. -/
theorem replay (h : s.Counterparts s') {run : List (Event α)}
    (common : ∀ e ∈ run, e.isCommon = true) :
    (Possible s run ↔ Possible s' run) ∧
      (Possible s run → (replay s run).Counterparts (replay s' run)) := by
  induction run with
  | nil => exact ⟨Iff.rfl, fun _ => h⟩
  | cons e run ih =>
      rw [List.forall_mem_cons] at common
      obtain ⟨same, kept⟩ := ih common.2
      constructor
      · constructor
        · rintro ⟨before, enabled⟩
          exact ⟨same.1 before, ((kept before).enabled_iff e).1 enabled⟩
        · rintro ⟨before, enabled⟩
          have before := same.2 before
          exact ⟨before, ((kept before).enabled_iff e).2 enabled⟩
      · rintro ⟨before, enabled⟩
        exact (kept before).after enabled common.1

/-- Whatever a step shows alike on counterparts, a run shows alike. -/
theorem trace (h : s.Counterparts s') {β : Type} {shows? : Shared α → Event α → Option β}
    (alike : ∀ {t t' : Shared α}, t.Counterparts t' → ∀ e, shows? t e = shows? t' e)
    {run : List (Event α)} (common : ∀ e ∈ run, e.isCommon = true) (possible : Possible s run) :
    trace shows? s run = trace shows? s' run := by
  induction run with
  | nil => rfl
  | cons e run ih =>
      rw [List.forall_mem_cons] at common
      have before := (h.replay common.2).2 possible.1
      exact trace_cons_congr (ih common.2 possible.1) before.now (alike before e)

end Counterparts

/-- **A controller orders the wheels of a side alike.** -/
theorem commands_of_side (s : Shared α) (run : List (Event α)) :
    ∀ c ∈ commands s run, ∀ w w' : Wheel, w.side = w'.side → c.2 w = c.2 w' := by
  induction run with
  | nil => nofun
  | cons e run ih =>
      refine forall_mem_trace_cons.2 ⟨fun orders shown w w' side => ?_, ih⟩
      obtain ⟨m, hm, rfl⟩ := Option.map_eq_some_iff.1 shown
      exact Maneuver.order?_of_side (common_of_maneuver? hm) _ side

end Shared

/-! ### Sessions -/

namespace Session

/-- **Sessions that differ in nothing but the layout of their drives.** -/
def Counterparts (s s' : Session α) : Prop :=
  ∃ d, s.drive.Counterparts d ∧ s' = { s with drive := d }

/-- Whether an action can be done on either layout. -/
def Action.isCommon : Action α → Bool
  | .drive a => a.isCommon
  | _ => true

namespace Counterparts

variable {s s' : Session α}

theorem controller (h : s.Counterparts s') : s'.controller = s.controller := by
  obtain ⟨d, -, rfl⟩ := h
  rfl

theorem now (h : s.Counterparts s') : s'.now = s.now := by
  obtain ⟨d, -, rfl⟩ := h
  rfl

theorem cycle (h : s.Counterparts s') : s'.cycle = s.cycle := by
  obtain ⟨d, -, rfl⟩ := h
  rfl

theorem steer (h : s.Counterparts s') {m : Option (Maneuver α)}
    (common : ∀ x, m = some x → x.isCommon = true) : (s.steer m).Counterparts (s'.steer m) := by
  obtain ⟨d, drive, rfl⟩ := h
  cases m with
  | none => exact ⟨d, drive, rfl⟩
  | some m => exact ⟨d.steer s.now m, drive.steer s.now (common m rfl), rfl⟩

/-- **A reading takes as long on either layout**, and finds the same. -/
theorem sense (h : s.Counterparts s') :
    s.sense.1 = s'.sense.1 ∧ s.sense.2.Counterparts s'.sense.2 := by
  obtain ⟨d, drive, rfl⟩ := h
  obtain ⟨readings, after⟩ := drive.sense (s.now + s.readCosts.headD 0)
  exact ⟨readings, _, after, rfl⟩

theorem sample (h : s.Counterparts s') :
    s.sample.1 = s'.sample.1 ∧ s.sample.2.Counterparts s'.sample.2 := by
  have first := h.sense
  have again := first.2.sense
  have mode := congrArg Controller.mode h.controller
  have mode' := congrArg Controller.mode first.2.controller
  have needs := congrArg Controller.needsBaseline h.controller
  have baseline := congrArg Controller.baseline h.controller
  unfold Session.sample
  rw [needs]
  by_cases hb : s.controller.needsBaseline
  · simp only [hb, if_true, mode']
    by_cases hm : s.sense.2.controller.mode = .none
    · simp only [hm, if_true]
      exact ⟨by rw [first.1], first.2⟩
    · simp only [hm, if_false]
      exact ⟨by rw [first.1, again.1], again.2⟩
  · simp only [hb, Bool.false_eq_true, if_false, mode, baseline]
    by_cases hm : s.controller.mode = .none
    · simp only [hm, if_true]
      exact ⟨trivial, h⟩
    · simp only [hm, if_false]
      exact ⟨by rw [first.1], first.2⟩

theorem record (h : s.Counterparts s') (began : Nat) :
    Counterparts { s with timing := s.timing.record (s.now - began) }
      { s' with timing := s'.timing.record (s'.now - began) } := by
  obtain ⟨d, drive, rfl⟩ := h
  exact ⟨d, drive, rfl⟩

theorem setCycle (h : s.Counterparts s') {cycle cycle' : Option Pace} (same : cycle' = cycle) :
    Counterparts { s with cycle := cycle } { s' with cycle := cycle' } := by
  obtain ⟨d, drive, rfl⟩ := h
  exact ⟨d, drive, by rw [same]⟩

theorem setNow (h : s.Counterparts s') {instant instant' : Nat} (same : instant' = instant) :
    Counterparts { s with now := instant } { s' with now := instant' } := by
  obtain ⟨d, drive, rfl⟩ := h
  exact ⟨d, drive, by rw [same]⟩

theorem setController (h : s.Counterparts s') {c c' : Controller α} (same : c' = c) :
    Counterparts { s with controller := c } { s' with controller := c' } := by
  obtain ⟨d, drive, rfl⟩ := h
  exact ⟨d, drive, by rw [same]⟩

theorem note (h : s.Counterparts s') (n : Notice α) : (s.note n).Counterparts (s'.note n) := by
  obtain ⟨d, drive, rfl⟩ := h
  exact ⟨d, drive, rfl⟩

/-- **A cycle on either layout** finds the same and works the same. -/
theorem tick (h : s.Counterparts s') : s.tick.Counterparts s'.tick := by
  have idle := congrArg Controller.idle h.controller
  by_cases hi : s.controller.idle = true
  · rw [Session.tick, Session.tick, idle, if_pos hi, if_pos hi]
    exact h
  · have began := h.now
    obtain ⟨samples, d, drive, e⟩ := h.sample
    rw [tick_of_busy hi, tick_of_busy (by rwa [idle]), ← samples, began, e]
    let worked := s.sample.2.controller.cycle s.sample.1 s.sample.2.now
    let busy : Session α := { s.sample.2 with controller := worked.1 }
    have paired : busy.Counterparts { busy with drive := d } := ⟨d, drive, rfl⟩
    have steered := paired.steer (m := worked.2) fun _ => Controller.common_of_cycle
    exact steered.record s.now

/-- **The cycles that are due** on either layout. -/
theorem runDue (h : s.Counterparts s') {instant instant' : Nat} (same : instant' = instant) :
    (s.runDue instant).Counterparts (s'.runDue instant') := by
  subst same
  -- induction on the cycles that are due, which are due on both
  fun_induction Session.runDue s instant' generalizing s' with
  | case1 s hc =>
      rw [runDue_of_none (h.cycle.trans hc)]
      exact h
  | case2 s pace hc hdue ticked =>
      rename_i ih
      have sameDue : pace.last ≤ max instant' s'.now := by rwa [h.now]
      have period := congrArg Controller.period h.controller
      have paired : ticked.Counterparts { s' with now := max s'.now pace.last }.tick :=
        (h.setNow (by rw [h.now])).tick
      rw [runDue_of_due (h.cycle.trans hc) sameDue]
      exact ih (paired.setCycle (by rw [period, paired.now]))
  | case3 s pace hc hdue =>
      rw [runDue_of_later (h.cycle.trans hc) (by rwa [h.now])]
      exact h

theorem advanceTo (h : s.Counterparts s') (instant : Nat) :
    (s.advanceTo instant).Counterparts (s'.advanceTo instant) := by
  have due := h.runDue (Eq.refl instant)
  exact due.setNow (by rw [due.now])

theorem start (h : s.Counterparts s') : s.start.Counterparts s'.start := by
  have cycle := h.cycle
  cases hc : s.cycle with
  | some pace =>
      simp only [Session.start, hc, cycle.trans hc]
      exact h
  | none =>
      obtain ⟨readings, sensed⟩ := (h.note (.loopStarted s.controller.period)).sense
      simp only [Session.start, hc, cycle.trans hc]
      have started := congrArg₂ Controller.started sensed.controller readings.symm
      have begun := congrArg (some <| Pace.startingAt ·) sensed.now
      rw [h.controller]
      exact ((sensed.setController started).setCycle begun).runDue sensed.now

theorem request (h : s.Counterparts s') (r : Controller.Request α) :
    (s.request r).Counterparts (s'.request r) := by
  obtain ⟨d, drive, rfl⟩ := h
  have paired : Counterparts
      { s with
        controller := s.controller.request r
        journal := s.journal ++ s.controller.announce r }
      { s with
        drive := d
        controller := s.controller.request r
        journal := s.journal ++ s.controller.announce r } := ⟨d, drive, rfl⟩
  refine paired.steer ?_
  rintro m hm
  cases r <;> cases hm
  rfl

/-- **What a client does without blocking** it does to both layouts alike. -/
theorem perform (h : s.Counterparts s') {a : Action α} (common : a.isCommon = true) :
    (s.perform a).Counterparts (s'.perform a) := by
  cases a with
  | start => exact h.start
  | request r => exact h.request r
  | advance t =>
      simp only [Session.perform, h.now]
      exact h.advanceTo _
  | drive a =>
      obtain ⟨d, drive, rfl⟩ := h
      exact ⟨_, drive.perform s.now common, rfl⟩
  | scriptOutput slot x =>
      obtain ⟨d, drive, rfl⟩ := h
      exact ⟨d, drive, rfl⟩
  | scriptSettled slot b =>
      obtain ⟨d, drive, rfl⟩ := h
      exact ⟨d, drive, rfl⟩

end Counterparts

/-! ### Waits -/

section Outcomes

variable {β γ : Type} {r : β → β → Prop} {r' : γ → γ → Prop} {x y : Option β}

theorem rel_map (h : Option.Rel r x y) {f : β → γ} (hf : ∀ b c, r b c → r' (f b) (f c)) :
    Option.Rel r' (x.map f) (y.map f) := by
  cases h with
  | some h => exact .some (hf _ _ h)
  | none => exact .none

theorem rel_bind (h : Option.Rel r x y) {f : β → Option γ}
    (hf : ∀ b c, r b c → Option.Rel r' (f b) (f c)) : Option.Rel r' (x.bind f) (y.bind f) := by
  cases h with
  | some h => exact hf _ _ h
  | none => exact .none

end Outcomes

/-- **Waits that differ in nothing but the layout**, with only common actions still planned. -/
structure Waiting.Counterparts (w w' : Waiting α) : Prop where
  session : w.session.Counterparts w'.session
  events : w'.events = w.events
  limit : w'.limit = w.limit
  fired : List.Forall₂ Session.Counterparts w.fired.toList w'.fired.toList
  timedOut : w'.timedOut = w.timedOut
  common : ∀ e ∈ w.events, e.2.isCommon = true

namespace Waiting.Counterparts

variable {w w' : Waiting α}

theorem setSession (h : w.Counterparts w') {s s' : Session α} (sessions : s.Counterparts s') :
    Waiting.Counterparts { w with session := s } { w' with session := s' } :=
  ⟨sessions, h.events, h.limit, h.fired, h.timedOut, h.common⟩

/-- **What is planned happens on either layout alike.** -/
theorem fire (h : w.Counterparts w') (wake : Nat) {events : List (Nat × Action α)}
    (common : ∀ e ∈ events, e.2.isCommon = true) :
    (w.fire wake events).Counterparts (w'.fire wake events) := by
  induction events generalizing w w' with
  | nil => exact ⟨h.session, rfl, h.limit, h.fired, h.timedOut, nofun⟩
  | cons event rest ih =>
      obtain ⟨instant, action⟩ := event
      have common' := List.forall_mem_cons.1 common
      simp only [Waiting.fire, h.limit]
      split
      · have done := (h.session.advanceTo instant).perform common'.1
        refine ih ⟨done, h.events, rfl, ?_, h.timedOut, h.common⟩ common'.2
        simp only [Array.toList_push]
        exact List.rel_append h.fired (.cons done .nil)
      · exact ⟨h.session, rfl, rfl, h.fired, h.timedOut, common⟩

theorem giveUp (h : w.Counterparts w') (instant : Nat) :
    (w.giveUp instant).Counterparts (w'.giveUp instant) := by
  have stopped := (h.session.advanceTo instant).request .stop
  have settle (slot : Slot) {s s' : Session α} (hs : s.Counterparts s') :
      (s.perform (.scriptSettled slot true)).Counterparts
        (s'.perform (.scriptSettled slot true)) := hs.perform rfl
  exact ⟨settle .angle (settle .turn (settle .distance stopped)), rfl, rfl, h.fired, rfl, nofun⟩

theorem sleep (h : w.Counterparts w') (wake : Nat) :
    (w.sleep wake).Counterparts (w'.sleep wake) := by
  have fired := h.fire wake h.common
  simp only [Waiting.sleep, h.events, fired.limit]
  cases (w.fire wake w.events).limit with
  | none => exact fired.setSession (fired.session.advanceTo wake)
  | some instant =>
      dsimp only
      split
      · have given := fired.giveUp instant
        exact given.setSession (given.session.advanceTo wake)
      · exact fired.setSession (fired.session.advanceTo wake)

/-- **The looks of a client** see the same on either layout. -/
theorem looks (h : w.Counterparts w') (patience : Nat) (pace : Pace) (watched : Option Mode) :
    Option.Rel Waiting.Counterparts (w.looks patience pace watched)
      (w'.looks patience pace watched) := by
  induction patience generalizing w w' pace watched with
  | zero => exact .none
  | succ patience ih =>
      cases watched with
      | none =>
          simp only [Waiting.looks, h.session.controller]
          split
          · exact ih (h.setSession h.session) _ _
          · exact ih (h.setSession (h.session.note _)) _ _
      | some mode =>
          obtain ⟨d, drive, e⟩ := h.session
          have polled : Session.Counterparts
              { w.session with controller := (w.session.controller.poll mode w.session.now).2 }
              { w.session with
                controller := (w.session.controller.poll mode w.session.now).2
                drive := d } := ⟨d, drive, rfl⟩
          simp only [Waiting.looks, e]
          cases (w.session.controller.poll mode w.session.now).1 with
          | finished =>
              refine .some (h.setSession (polled.steer ?_))
              rintro m ⟨⟩
              rfl
          | superseded =>
              dsimp only
              split
              · exact ih (h.setSession polled) _ _
              · exact ih (h.setSession (polled.note _)) _ _
          | pending =>
              dsimp only
              split
              · exact ih (h.setSession polled) _ _
              · exact ih ((h.setSession polled).sleep _) _ _

end Waiting.Counterparts

/-- Whether all that a script plans can be done on either layout. -/
def Script.isCommon (script : Script α) : Bool := script.events.all (·.2.isCommon)

/-- **A wait on either layout** ends at the same look, or on neither. -/
theorem Counterparts.wait {s s' : Session α} (h : s.Counterparts s') {script : Script α}
    (common : script.isCommon = true) (patience : Nat) :
    Option.Rel Waiting.Counterparts (s.wait script patience) (s'.wait script patience) := by
  simp only [Session.wait, h.now]
  refine rel_map (Waiting.Counterparts.looks ?_ ..) fun w w' ended => ?_
  · refine ⟨h.note _, rfl, rfl, .nil, rfl, ?_⟩
    rw [List.forall_mem_map]
    exact fun e he => List.all_eq_true.1 common e he
  · exact ended.setSession (ended.session.note _)

/-! ### Calls -/

/-- A call of a client: an action, or a wait with a bound on its looks. -/
inductive Call (α : Type) where
  | act (a : Action α)
  | wait (script : Script α) (patience : Nat)

/-- Whether a call can be made on either layout. -/
def Call.isCommon : Call α → Bool
  | .act a => a.isCommon
  | .wait script _ => script.isCommon

/-- The session after a call, if the call returns. -/
def call? (s : Session α) : Call α → Option (Session α)
  | .act a => some (s.perform a)
  | .wait script patience => (s.wait script patience).map Waiting.session

/-- **The session after a series of calls**, if they all return. -/
def calls? (s : Session α) : List (Call α) → Option (Session α)
  | [] => some s
  | c :: later => (s.call? c).bind fun t => t.calls? later

/-- A controller that is set up on either layout begins alike. -/
theorem Counterparts.begin {x k : Drive α} (h : x.Counterparts k) (c : Controller α)
    (readCosts : List Nat) : (begin c x readCosts).Counterparts (begin c k readCosts) :=
  ⟨_, (h.configure 0 _).configure 0 _, rfl⟩

theorem Counterparts.call? {s s' : Session α} (h : s.Counterparts s') {c : Call α}
    (common : c.isCommon = true) :
    Option.Rel Session.Counterparts (s.call? c) (s'.call? c) := by
  cases c with
  | act a => exact .some (h.perform common)
  | wait script patience => exact rel_map (h.wait common patience) fun _ _ ended => ended.session

/-- **A series of calls returns on both layouts or on neither**, and keeps counterparts. -/
theorem Counterparts.calls? {s s' : Session α} (h : s.Counterparts s') {calls : List (Call α)}
    (common : ∀ c ∈ calls, c.isCommon = true) :
    Option.Rel Session.Counterparts (s.calls? calls) (s'.calls? calls) := by
  induction calls generalizing s s' with
  | nil => exact .some h
  | cons c later ih =>
      rw [List.forall_mem_cons] at common
      exact rel_bind (h.call? common.1) fun _ _ next => ih next common.2

end Session

/-! ### Side by side -/

namespace Drive

/-- **A wheel on each corner does what a wheel on each side does.**  After every common action the
corners were told what the sides were told, and the sensors read the same.  Every run of a
controller's threads on the one layout is a run on the other: step by step they have the same
controller and the same clients, wheels of a side get the same orders on both, and readings agree.
And every series of calls, waits among them, returns on both layouts or on neither. -/
theorem corners_follow_sides {x k : Drive α} (h : x.Counterparts k) :
    (∀ series : List (Nat × Action α), (∀ a ∈ series, a.2.isCommon = true) →
      (x.performAll series).Counterparts (k.performAll series) ∧
        ∀ now, ((x.performAll series).sense now).1 = ((k.performAll series).sense now).1) ∧
    (∀ s : Shared α, s.drive = x → ∀ run : List (Shared.Event α),
      (∀ e ∈ run, e.isCommon = true) →
      let s' : Shared α := { s with drive := k }
      (Shared.Possible s run ↔ Shared.Possible s' run) ∧
        (Shared.Possible s run →
          (Shared.replay s run).Counterparts (Shared.replay s' run) ∧
            Shared.commands s run = Shared.commands s' run ∧
            (∀ c ∈ Shared.commands s run, ∀ w w' : Wheel, w.side = w'.side → c.2 w = c.2 w') ∧
            Shared.trace Shared.sensed? s run = Shared.trace Shared.sensed? s' run)) ∧
    ∀ (c : Controller α) (readCosts : List Nat) (calls : List (Session.Call α)),
      (∀ call ∈ calls, call.isCommon = true) →
      Option.Rel Session.Counterparts ((Session.begin c x readCosts).calls? calls)
        ((Session.begin c k readCosts).calls? calls) := by
  refine ⟨fun series common => ?_, ?_, fun c readCosts calls common => ?_⟩
  · have after := h.performAll common
    exact ⟨after, fun now => (after.sense now).1⟩
  · rintro s rfl run common s'
    have paired : s.Counterparts s' := ⟨k, h, rfl⟩
    obtain ⟨same, kept⟩ := paired.replay common
    refine ⟨same, fun possible => ⟨kept possible, ?_, s.commands_of_side run, ?_⟩⟩
    · exact paired.trace (fun paired e => paired.orders? e) common possible
    · exact paired.trace (fun paired e => paired.sensed? e) common possible
  · exact (Session.Counterparts.begin h c readCosts).calls? common

/-- A wheel on each corner of a test bench. -/
def fourWheeled : Drive Float :=
  ⟨.corners (.bench .new) (.bench .new) (.bench .new) (.bench .new), .builtIn, ⟨200, 12000⟩⟩

/-- A wheel on each side of a test bench. -/
def twoWheeled : Drive Float := ⟨.pair (.bench .new) (.bench .new), .builtIn, ⟨200, 12000⟩⟩

/-- Something of everything that both layouts can do. -/
def assorted : List (Nat × Action Float) :=
  [(0, .steer (.vector 0.5 0.25)), (1, .steer (.left (0 / 0))), (2, .configure (.brakeMode .hold)),
    (3, .steer (.tank (-1) 3 0.1)), (4, .placeEncoder 1 90), (5, .sense), (6, .resetSensors)]

/-- A turn begun, worked at once, and stopped. -/
def halfTurn : List (Shared.Event Float) :=
  [.ask 0 .stop, .act .sense, .work ⟨⟨0, 0⟩, ⟨90, -90⟩⟩, .wake, .scriptOutput .turn 0.5,
    .start ⟨0, 0⟩, .launch 0, .ask 0 (.turn ⟨180⟩)]

theorem corners_follow_sides_of_assorted :
    (fourWheeled.Counterparts twoWheeled ∧ (∀ a ∈ assorted, a.2.isCommon = true) ∧
      (∀ e ∈ halfTurn, e.isCommon = true) ∧
        Shared.Possible { Shared.scripted with drive := fourWheeled } halfTurn) ∧
      (fourWheeled.performAll assorted).Counterparts (twoWheeled.performAll assorted) ∧
      Shared.commands { Shared.scripted with drive := fourWheeled } halfTurn =
        Shared.commands { Shared.scripted with drive := twoWheeled } halfTurn := by
  have counterparts : fourWheeled.Counterparts twoWheeled :=
    ⟨⟨rfl, rfl, rfl, rfl⟩, fun _ => rfl, rfl, rfl⟩
  have common : ∀ a ∈ assorted, a.2.isCommon = true := by
    intro a ha
    simp only [assorted, List.mem_cons, List.not_mem_nil, or_false] at ha
    rcases ha with rfl | rfl | rfl | rfl | rfl | rfl | rfl <;> rfl
  have common' : ∀ e ∈ halfTurn, e.isCommon = true := by
    intro e he
    simp only [halfTurn, List.mem_cons, List.not_mem_nil, or_false] at he
    rcases he with rfl | rfl | rfl | rfl | rfl | rfl | rfl | rfl <;> rfl
  have possible : Shared.Possible { Shared.scripted with drive := fourWheeled } halfTurn := by
    decide +kernel
  obtain ⟨series, runs, -⟩ := corners_follow_sides counterparts
  obtain ⟨-, alike⟩ := runs { Shared.scripted with drive := fourWheeled } rfl halfTurn common'
  exact ⟨⟨counterparts, common, common', possible⟩, (series assorted common).1,
    (alike possible).2.1⟩

end Drive

end Drivetrain
