/-
Construction is all or nothing.

Setting up checks what it was given before it touches anything: that nothing is missing, and that
gearing, scales and period can be used.  Only then are the motors given their settings, and only
then is the cycle started.  So a failure leaves the motors as they were handed over, and a success
gives them settings and no order to turn.

What sets up keeps account of what it does to the motors, also where it fails.  The account says
nothing of a drive until it is compared with one: what was set up is what its deeds make of the
drive that was handed over.

Main definitions:

* `Drivetrain.Controller.Workable`, `Drivetrain.Builder.Complete` — what a controller can be set up
  with, and what it can be built from;
* `Drivetrain.Controller.demands`, `Drivetrain.Builder.demands` — the same, demand by demand, in the
  order in which they are made;
* `Drivetrain.Drive.SetUp` — a drive that was given settings and no order.

Main results:

* `Drivetrain.Controller.create_cases`, `Drivetrain.Builder.undertake_cases` — what is set up, or
  the demand that was not met;
* `Drivetrain.Builder.builds_all_or_nothing` — **a controller is set up exactly when every demand is
  met**, and where one is not, nothing was done.
-/

import Drivetrain.Builder
import Drivetrain.Proofs.Orders
import Drivetrain.Proofs.Validation

set_option relaxedAutoImplicit false
set_option autoImplicit false

namespace Drivetrain

variable {α : Type}

/-! ### Demands -/

/-- The error of the first demand that is not met. -/
def lack? (demands : List (Bool × SetupError α)) : Option (SetupError α) :=
  (demands.find? fun d => !d.1).map Prod.snd

theorem lack?_cons (met : Bool) (e : SetupError α) (later : List (Bool × SetupError α)) :
    lack? ((met, e) :: later) = if met then lack? later else some e := by
  cases met <;> rfl

theorem lack?_eq_none_iff {demands : List (Bool × SetupError α)} :
    lack? demands = none ↔ ∀ d ∈ demands, d.1 = true := by
  simp [lack?]

theorem lack?_append (demands later : List (Bool × SetupError α)) :
    lack? (demands ++ later) = (lack? demands).or (lack? later) := by
  rw [lack?, List.find?_append, Option.map_or]
  rfl

variable [Scalar α]

/-! ### What is demanded -/

/-- **What a controller can be set up with.** -/
structure Controller.Workable (gearing : Gearing α) (scales : Scales α) (period : Nat) : Prop where
  ratio_ne_zero : (gearing.ratio == 0) = false
  ratio_finite : Scalar.isFinite gearing.ratio = true
  straight : Scalar.isFinite scales.straight = true ∧ 0 < scales.straight
  turn : Scalar.isFinite scales.turn = true ∧ 0 < scales.turn
  period : 0 < period

/-- **What a controller can be built from.** -/
structure Builder.Complete (b : Builder α) : Prop where
  distanceGains : b.distanceGains.isSome = true
  turnGains : b.turnGains.isSome = true
  motors : b.motors.isSome = true
  workable : Controller.Workable b.gearing b.scales b.period

namespace Controller

variable {gearing : Gearing α} {scales : Scales α} {period : Nat}

/-- The demands on a gearing, scales and a period, in the order in which they are made, each with
the error of its lack. -/
def demands (gearing : Gearing α) (scales : Scales α) (period : Nat) :
    List (Bool × SetupError α) :=
  [(!(gearing.ratio == 0), .zeroGearRatio),
    (Scalar.isFinite gearing.ratio, .config (.ratioNotFinite gearing.ratio)),
    (scales.isValid, .config (.scalesInvalid scales)),
    (decide (0 < period), .zeroLoopPeriod)]

theorem lack?_demands_eq_none_iff :
    lack? (demands gearing scales period) = none ↔ Workable gearing scales period := by
  simp only [lack?_eq_none_iff, demands, List.forall_mem_cons, Scales.isValid, Bool.and_eq_true,
    Bool.not_eq_true', decide_eq_true_iff]
  constructor
  · rintro ⟨ratio, finite, ⟨straight, turn⟩, positive, -⟩
    exact ⟨ratio, finite, straight, turn, positive⟩
  · rintro ⟨ratio, finite, straight, turn, positive⟩
    exact ⟨ratio, finite, ⟨straight, turn⟩, positive, List.forall_mem_nil _⟩

/-- A controller is created if every demand is met; else the first that is not is the error. -/
theorem create_cases (distance turn angle : Loop α) (gearing : Gearing α) (scales : Scales α)
    (period : Nat) :
    (∃ c, lack? (demands gearing scales period) = none ∧
        create distance turn angle gearing scales period = .ok c) ∨
      ∃ e, lack? (demands gearing scales period) = some e ∧
        create distance turn angle gearing scales period = .error e := by
  simp only [demands, lack?_cons, create, refusal?]
  cases gearing.ratio == 0 with
  | true => exact .inr ⟨_, rfl, rfl⟩
  | false =>
      cases Scalar.isFinite gearing.ratio with
      | false => exact .inr ⟨_, rfl, rfl⟩
      | true =>
          cases scales.isValid with
          | false => exact .inr ⟨_, rfl, rfl⟩
          | true =>
              by_cases positive : 0 < period
              · exact .inl ⟨_, by simp [positive, lack?], dif_pos positive⟩
              · exact .inr ⟨_, by simp [positive], dif_neg positive⟩

end Controller

namespace Builder

open Undertaking (outcome_bind outcome_demand)

variable {b : Builder α}

/-- The demands that a builder makes before those of the controller. -/
def demands (b : Builder α) : List (Bool × SetupError α) :=
  [(b.distanceGains.isSome && b.turnGains.isSome, .missingGains),
    (b.motors.isSome, .missingMotors)]

/-- Everything that is demanded of a builder, in order. -/
def allDemands (b : Builder α) : List (Bool × SetupError α) :=
  b.demands ++ Controller.demands b.gearing b.scales b.period

theorem lack?_allDemands_eq_none_iff : lack? b.allDemands = none ↔ b.Complete := by
  rw [allDemands, lack?_append, Option.or_eq_none_iff, Controller.lack?_demands_eq_none_iff]
  simp only [lack?_eq_none_iff, demands, List.forall_mem_cons, Bool.and_eq_true]
  constructor
  · rintro ⟨⟨⟨distance, turn⟩, motors, -⟩, workable⟩
    exact ⟨distance, turn, motors, workable⟩
  · rintro ⟨distance, turn, motors, workable⟩
    exact ⟨⟨⟨distance, turn⟩, motors, List.forall_mem_nil _⟩, workable⟩

/-- Of all that a new builder lacks, the gains are missed first. -/
example : lack? (new : Builder Float).allDemands = some .missingGains := rfl

/-- **What is built, and what is done for it; or the demand that was not met**, and then nothing is
done. -/
theorem undertake_cases (b : Builder α) :
    (∃ d g m k, b.distanceGains = some d ∧ b.turnGains = some g ∧ b.motors = some m ∧
        Controller.create (b.loop d) (b.loop g) (b.loop (b.angleGains.getD g)) b.gearing b.scales
          b.period = .ok k ∧
        lack? b.allDemands = none ∧
          b.undertake.outcome .none =
            (.ok (b.opening m k).start,
              ⟨Drive.settings k.gearing.gearset ++ [(0, .sense)], true⟩)) ∨
      ∃ e, lack? b.allDemands = some e ∧ b.undertake.outcome .none = (.error e, .none) := by
  simp only [allDemands, demands, lack?_append, lack?_cons]
  cases distance : b.distanceGains with
  | none =>
      have gains : b.neededGains = .error .missingGains := by simp only [neededGains, distance]
      exact .inr ⟨_, rfl, by simp only [undertake, outcome_bind, outcome_demand, gains]⟩
  | some d =>
      cases turn : b.turnGains with
      | none =>
          have gains : b.neededGains = .error .missingGains := by
            simp only [neededGains, distance, turn]
          exact .inr ⟨_, rfl, by simp only [undertake, outcome_bind, outcome_demand, gains]⟩
      | some g =>
          have gains : b.neededGains = .ok (d, g) := by simp only [neededGains, distance, turn]
          cases given : b.motors with
          | none =>
              have motors : b.neededMotors = .error .missingMotors := by
                simp only [neededMotors, given]
              exact .inr ⟨_, rfl, by
                simp only [undertake, outcome_bind, outcome_demand, gains, motors]⟩
          | some m =>
              have motors : b.neededMotors = .ok m := by simp only [neededMotors, given]
              rcases Controller.create_cases (b.loop d) (b.loop g) (b.loop (b.angleGains.getD g))
                b.gearing b.scales b.period with ⟨k, met, created⟩ | ⟨e, unmet, refused⟩
              · exact .inl ⟨d, g, m, k, rfl, rfl, rfl, created, met,
                  undertake_of_create gains motors created⟩
              · have failed : b.controller d g = .error e := by rw [controller, refused]; rfl
                exact .inr ⟨e, unmet, by
                  simp only [undertake, outcome_bind, outcome_demand, gains, motors, failed,
                    Session.outcome_commission]⟩

end Builder

/-! ### What is done -/

/-- The units in which a motor's encoder answers. -/
def Motor.units : Motor α → EncoderUnits
  | bench m => m.units
  | simulated m => m.units

/-- A motor with a cartridge, whose encoder counts in degrees. -/
structure Motor.Ready (g : Gearset) (m : Motor α) : Prop where
  gearset : m.gearset = g
  units : m.units = .degrees

theorem Motor.ready_configure (g : Gearset) (now : Nat) (m : Motor α) :
    ((m.configure now (.gearset g)).configure now (.encoderUnits .degrees)).Ready g := by
  cases m <;> exact ⟨rfl, rfl⟩

theorem Motor.Ready.read {g : Gearset} (now : Nat) {m : Motor α} (h : m.Ready g) :
    (m.read now).2.Ready g := by
  cases m <;> exact ⟨h.gearset, h.units⟩

namespace Drive

/-- **A drive that was given settings and no order**: a series of actions without orders made it of
the drive that was handed over, and every motor has the cartridge and counts in degrees. -/
structure SetUp (given : Drive α) (series : List (Nat × Action α)) (g : Gearset) (d : Drive α) :
    Prop where
  made : d = given.performAll series
  unordered : given.sent series = []
  ready : d.motors.Every (Motor.Ready g)

theorem setUp_settings (d : Drive α) (g : Gearset) :
    d.SetUp (settings g) g (d.performAll (settings g)) where
  made := rfl
  unordered := rfl
  ready := by
    have all : d.motors.Every fun _ => True := fun _ _ => trivial
    have told := all.map (f := fun _ m => (m.configure 0 (.gearset g)).configure 0
      (.encoderUnits .degrees)) (Q := Motor.Ready g) fun _ _ m _ => Motor.ready_configure g 0 m
    cases d with
    | mk motors sensing full => cases motors <;> exact told

theorem SetUp.sense {given d : Drive α} {series : List (Nat × Action α)} {g : Gearset}
    (h : given.SetUp series g d) (now : Nat) :
    given.SetUp (series ++ [(now, .sense)]) g (d.sense now).2 where
  made := by rw [performAll_append, ← h.made]; rfl
  unordered := by rw [sent_append, h.unordered]; rfl
  ready := every_sense (fun now _ => Motor.Ready.read now) h.ready

end Drive

namespace Session

/-- A cycle that starts on nothing to do reads the sensors, and the motors hear no more of it. -/
theorem drive_start_of_idle {s : Session α} (off : s.cycle = none)
    (idle : s.controller.idle = true) : s.start.drive = s.sense.2.drive := by
  simp only [start, off]
  exact (runDue_of_idle
    { (s.note (.loopStarted s.controller.period)).sense.2 with
      controller := s.controller.started (s.note (.loopStarted s.controller.period)).sense.1
      cycle := some (.startingAt (s.note (.loopStarted s.controller.period)).sense.2.now) }
    _ idle).2.1

end Session

/-! ### All or nothing -/

/-- A controller that was created begins on its drive as its deeds make it. -/
theorem Controller.setUp_begin {distance turn angle : Loop α} {gearing : Gearing α}
    {scales : Scales α} {period : Nat} {c : Controller α}
    (created : create distance turn angle gearing scales period = .ok c) (d : Drive α)
    (costs : List Nat) :
    d.SetUp (Drive.settings c.gearing.gearset) gearing.gearset (Session.begin c d costs).drive := by
  obtain ⟨⟨geared, -, -⟩, -⟩ := settings_of_create created
  rw [← geared]
  exact d.setUp_settings c.gearing.gearset

/-- **What is set up on a drive, and what is not.** -/
theorem Controller.create_all_or_nothing (distance turn angle : Loop α) (gearing : Gearing α)
    (scales : Scales α) (period : Nat) (d : Drive α) (costs : List Nat) :
    ((∃ c, create distance turn angle gearing scales period = .ok c) ↔
        Workable gearing scales period) ∧
      match create distance turn angle gearing scales period with
      | .error e =>
          lack? (demands gearing scales period) = some e ∧
            (Session.commission (create distance turn angle gearing scales period) d
              costs).outcome .none = (.error e, .none)
      | .ok c =>
          ∃ deeds, (Session.commission (create distance turn angle gearing scales period) d
              costs).outcome .none = (.ok (Session.begin c d costs), deeds) ∧
            deeds.running = false ∧ (Session.begin c d costs).isRunning = false ∧
              d.SetUp deeds.series gearing.gearset (Session.begin c d costs).drive := by
  rw [← lack?_demands_eq_none_iff, Session.outcome_commission]
  rcases create_cases distance turn angle gearing scales period with
    ⟨c, met, created⟩ | ⟨e, unmet, refused⟩
  · simp only [created, met]
    exact ⟨⟨fun _ => trivial, fun _ => ⟨c, rfl⟩⟩, _, rfl, rfl, rfl, setUp_begin created d costs⟩
  · simp only [refused, unmet]
    exact ⟨by simp, trivial, trivial⟩

namespace Builder

/-- **What is built, and what is not.** -/
theorem build_all_or_nothing (b : Builder α) :
    ((∃ s, b.build = .ok s) ↔ b.Complete) ∧
      match b.build with
      | .error e => lack? b.allDemands = some e ∧ b.undertake.outcome .none = (.error e, .none)
      | .ok s =>
          ∃ motors deeds, b.motors = some motors ∧ b.undertake.outcome .none = (.ok s, deeds) ∧
            deeds.running = true ∧ s.isRunning = true ∧
              (b.drive motors).SetUp deeds.series b.gearing.gearset s.drive := by
  rw [← lack?_allDemands_eq_none_iff, build]
  rcases b.undertake_cases with
    ⟨d, g, motors, k, -, -, given, created, met, built⟩ | ⟨e, unmet, refused⟩
  · have idle : (b.opening motors k).controller.idle = true := (Controller.of_create created).idle
    obtain ⟨-, -, running⟩ := Session.start_of_idle (s := b.opening motors k) rfl idle
    have setUp := (Controller.setUp_begin created (b.drive motors) []).sense 0
    simp only [built, met]
    refine ⟨⟨fun _ => trivial, fun _ => ⟨_, rfl⟩⟩, motors, _, given, rfl, rfl, running, ?_⟩
    rw [Session.drive_start_of_idle rfl idle]
    exact setUp
  · simp only [refused, unmet]
    exact ⟨by simp, trivial, trivial⟩

/-- **Setting up is all or nothing**, for a controller on any drive and for a builder in any state,
whatever the numbers are.

It succeeds exactly on what a controller can be set up with and built from.  Then every motor has
the cartridge and counts in degrees, no order was sent to any of them, and the cycle runs if it was
built.  Otherwise the error is that of the first demand that is not met, and nothing was done to
the motors, nor a cycle started. -/
theorem builds_all_or_nothing (b : Builder α) (distance turn angle : Loop α) (gearing : Gearing α)
    (scales : Scales α) (period : Nat) (d : Drive α) (costs : List Nat) :
    (((∃ c, Controller.create distance turn angle gearing scales period = .ok c) ↔
        Controller.Workable gearing scales period) ∧
      match Controller.create distance turn angle gearing scales period with
      | .error e =>
          lack? (Controller.demands gearing scales period) = some e ∧
            (Session.commission (Controller.create distance turn angle gearing scales period) d
              costs).outcome .none = (.error e, .none)
      | .ok c =>
          ∃ deeds,
            (Session.commission (Controller.create distance turn angle gearing scales period) d
              costs).outcome .none = (.ok (Session.begin c d costs), deeds) ∧
            deeds.running = false ∧ (Session.begin c d costs).isRunning = false ∧
              d.SetUp deeds.series gearing.gearset (Session.begin c d costs).drive) ∧
      ((∃ s, b.build = .ok s) ↔ b.Complete) ∧
        match b.build with
        | .error e => lack? b.allDemands = some e ∧ b.undertake.outcome .none = (.error e, .none)
        | .ok s =>
            ∃ motors deeds, b.motors = some motors ∧ b.undertake.outcome .none = (.ok s, deeds) ∧
              deeds.running = true ∧ s.isRunning = true ∧
                (b.drive motors).SetUp deeds.series b.gearing.gearset s.drive :=
  ⟨Controller.create_all_or_nothing distance turn angle gearing scales period d costs,
    b.build_all_or_nothing⟩

end Builder

end Drivetrain
