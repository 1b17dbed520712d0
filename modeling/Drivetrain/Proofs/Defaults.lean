/-
What a builder takes where it was given nothing.

Full speed is the free speed of the cartridge unless a velocity was given, and the angle loop has
the gains of the turn loop unless it was given gains of its own.  Both are looked up when the
controller is built, so they follow whatever cartridge and gains were given last.

A configuration is the exception.  One that says no velocity gives the free speed of its own
cartridge as if it had been said, and so with the gains of the angle loop: what it resolved stands
whatever is given after it, and it replaces what was said before it.

Main definitions:

* `Drivetrain.Builder.giveAll` — a builder that was given several things;
* `Drivetrain.Builder.Setting` — a setting with a default: what calls **say** of it, and what they
  **leave** with the builder;
* `Drivetrain.Builder.last?` — the last that was heard of something.

Main results:

* `Drivetrain.Builder.field_giveAll` — **the last call that leaves something is what counts**;
* `Drivetrain.Builder.Setting.left_eq_said_iff` — when what is left is what was said;
* `Drivetrain.Builder.defaults_follow_iff` — velocity and angle gains follow the final cartridge
  and the final turn gains, **unless a configuration that left them open had the last word**.
-/

import Drivetrain.Proofs.Construction

set_option relaxedAutoImplicit false
set_option autoImplicit false

namespace Drivetrain

variable {α : Type}

/-- The gains of a position loop. -/
def Loop.gains? : Loop α → Option (Gains α)
  | position p => some p.gains
  | scripted _ => none

/-- The free speed of a session's cartridge. -/
def Session.freeSpeed [Scalar α] (s : Session α) : α := s.controller.gearing.gearset.freeSpeed

namespace Builder

/-! ### What was heard last -/

section Last

variable {β : Type} {heard : Call α → Option β}

/-- The last call of which something is heard. -/
def lastCall? (heard : Call α → Option β) (calls : List (Call α)) : Option (Call α) :=
  calls.reverse.find? fun call => (heard call).isSome

/-- **The last that was heard of something.** -/
def last? (heard : Call α → Option β) (calls : List (Call α)) : Option β :=
  (lastCall? heard calls).bind heard

theorem last?_concat (calls : List (Call α)) (call : Call α) :
    last? heard (calls ++ [call]) = (heard call).or (last? heard calls) := by
  simp only [last?, lastCall?, List.reverse_append, List.reverse_singleton, List.singleton_append,
    List.find?_cons]
  cases h : heard call with
  | none => rfl
  | some x => exact h

theorem exists_of_lastCall? {calls : List (Call α)} {call : Call α}
    (h : lastCall? heard calls = some call) : ∃ x, heard call = some x :=
  Option.isSome_iff_exists.1 (List.find?_some (p := fun call => (heard call).isSome) h)

theorem last?_of_lastCall? {calls : List (Call α)} {call : Call α}
    (h : lastCall? heard calls = some call) : last? heard calls = heard call := by
  rw [last?, h]
  rfl

end Last

/-! ### Settings with a default -/

/-- **A setting with a default.** -/
structure Setting (α β : Type) where
  /-- What a call that is no configuration says of it. -/
  direct : Call α → Option β
  /-- What a configuration says of it. -/
  entry : Config α → Option β
  /-- What a configuration takes for it that says nothing. -/
  own : Config α → β

namespace Setting

variable {β : Type} (x : Setting α β)

/-- What a call says of a setting. -/
def said : Call α → Option β
  | .config c => x.entry c
  | call => x.direct call

/-- What a call leaves of a setting with the builder. -/
def left : Call α → Option β
  | .config c => some ((x.entry c).getD (x.own c))
  | call => x.direct call

theorem left_of_said {call : Call α} {y : β} (h : x.said call = some y) :
    x.left call = some y := by
  cases call with
  | config c =>
      have told : x.entry c = some y := h
      rw [left, told]
      rfl
  | _ => exact h

/-- Only configurations leave what they do not say. -/
theorem config_of_left_unsaid {call : Call α} {y : β} (left : x.left call = some y)
    (unsaid : x.said call = none) :
    ∃ c, call = .config c ∧ x.entry c = none ∧ x.own c = y := by
  cases call with
  | config c =>
      have silent : x.entry c = none := unsaid
      rw [Setting.left, silent] at left
      exact ⟨c, rfl, silent, Option.some.inj left⟩
  | _ => cases left.symm.trans unsaid

/-- Where no call leaves anything, none says anything. -/
theorem said_eq_none_of_left {calls : List (Call α)} (h : lastCall? x.left calls = none) :
    last? x.said calls = none := by
  have silent : lastCall? x.said calls = none := by
    refine List.find?_eq_none.2 fun call mem told => ?_
    obtain ⟨y, hy⟩ := Option.isSome_iff_exists.1 told
    exact List.find?_eq_none.1 h call mem (Option.isSome_of_mem (x.left_of_said hy))
  rw [last?, silent]
  rfl

/-- A call that leaves something last and says it says it last. -/
theorem said_of_left {calls : List (Call α)} {call : Call α} {y : β}
    (h : lastCall? x.left calls = some call) (told : x.said call = some y) :
    last? x.said calls = some y := by
  obtain ⟨-, later, earlier, split, silent⟩ := List.find?_eq_some_iff_append.1 h
  have first : lastCall? x.said calls = some call := by
    refine List.find?_eq_some_iff_append.2 ⟨Option.isSome_of_mem told, later, earlier, split, ?_⟩
    intro c mem
    have leavesNone := silent c mem
    cases said : x.said c with
    | none => rfl
    | some z => rw [x.left_of_said said] at leavesNone; exact leavesNone
  rw [last?_of_lastCall? first, told]

/-- **When what is left is what was said**, or the default where nothing was: if a configuration
that says nothing has the last word, what it takes must be the same. -/
theorem left_eq_said_iff (calls : List (Call α)) (default : β) :
    (last? x.left calls).getD default = (last? x.said calls).getD default ↔
      ∀ c, lastCall? x.left calls = some (.config c) → x.entry c = none →
        x.own c = (last? x.said calls).getD default := by
  cases h : lastCall? x.left calls with
  | none =>
      refine iff_of_true ?_ nofun
      rw [x.said_eq_none_of_left h, last?, h]
      rfl
  | some call =>
      obtain ⟨y, hy⟩ := exists_of_lastCall? h
      rw [last?_of_lastCall? h, hy, Option.getD_some]
      cases told : x.said call with
      | some z =>
          have same : y = z := Option.some.inj (hy.symm.trans (x.left_of_said told))
          rw [x.said_of_left h told, Option.getD_some]
          refine iff_of_true same ?_
          rintro c last silent
          obtain rfl := Option.some.inj last
          cases told.symm.trans silent
      | none =>
          obtain ⟨c, rfl, silent, own⟩ := x.config_of_left_unsaid hy told
          rw [← own]
          constructor
          · rintro agree c' last -
            obtain rfl := Call.config.inj (Option.some.inj last)
            exact agree
          · exact fun agree => agree c rfl silent

variable [Scalar α]

/-- The velocity of full speed. -/
def velocity : Setting α α where
  direct
    | .maxVelocity v => some v
    | _ => none
  entry c := c.maxVelocity
  own c := c.gearset.freeSpeed

omit [Scalar α] in
/-- The gains of the angle loop. -/
def angleGains : Setting α (Gains α) where
  direct
    | .angleGains g => some g
    | _ => none
  entry c := c.angleGains
  own c := c.turnGains

end Setting

/-! ### What is given -/

variable [Scalar α]

/-- **A builder that was given several things**, the first of them first. -/
def giveAll (b : Builder α) (calls : List (Call α)) : Builder α := calls.foldl give b

/-- **The last call that leaves something is what counts**, of all that is given. -/
theorem field_giveAll {β : Type} {field : Builder α → Option β} {x : Setting α β}
    (step : ∀ b call, field (give b call) = (x.left call).or (field b)) (b : Builder α)
    (calls : List (Call α)) : field (b.giveAll calls) = (last? x.left calls).or (field b) := by
  induction calls using List.reverseRecOn with
  | nil => rfl
  | append_singleton calls call ih =>
      rw [giveAll, List.foldl_append, List.foldl_cons, List.foldl_nil, step, last?_concat,
        Option.or_assoc, ← ih]
      rfl

theorem maxVelocity_giveAll (b : Builder α) (calls : List (Call α)) :
    (b.giveAll calls).maxVelocity = (last? Setting.velocity.left calls).or b.maxVelocity :=
  field_giveAll (fun _ call => by cases call <;> rfl) b calls

theorem angleGains_giveAll (b : Builder α) (calls : List (Call α)) :
    (b.giveAll calls).angleGains = (last? Setting.angleGains.left calls).or b.angleGains :=
  field_giveAll (fun _ call => by cases call <;> rfl) b calls

/-! ### What is built -/

/-- What a session has of the builder that built it. -/
theorem settings_of_build {b : Builder α} {s : Session α} (built : b.build = .ok s) :
    (s.controller.gearing = b.gearing ∧ s.drive.full.velocity = b.velocity) ∧
      ∃ turn, b.turnGains = some turn ∧ s.controller.turn.gains? = some turn ∧
        s.controller.angle.gains? = some (b.angleGains.getD turn) := by
  rw [build] at built
  rcases b.undertake_cases with ⟨d, g, m, k, -, given, -, created, -, made⟩ | ⟨e, -, refused⟩
  · rw [made] at built
    obtain rfl := Except.ok.inj built
    obtain ⟨⟨baseline, controller⟩, full, -⟩ := Session.start_of_idle (s := b.opening m k) rfl
      (Controller.of_create created).idle
    obtain ⟨⟨gearing, -, -⟩, -, turn, angle⟩ := Controller.settings_of_create created
    rw [controller, full]
    exact ⟨⟨gearing, rfl⟩, g, given, congrArg Loop.gains? turn, congrArg Loop.gains? angle⟩
  · rw [refused] at built
    cases built

/-- **When velocity and angle gains follow the final settings.**

Full speed is what the last call left that gives a velocity or a configuration, and the free speed
of the final cartridge if there was no such call.  This is the velocity that was said last, or else
the free speed of the final cartridge, exactly if a configuration that has the last word and says
no velocity is of a cartridge with that free speed.  And so with the gains of the angle loop and
those of the turn loop. -/
theorem defaults_follow_iff {calls : List (Call α)} {s : Session α}
    (built : (new.giveAll calls).build = .ok s) :
    (s.drive.full.velocity = (last? Setting.velocity.left calls).getD s.freeSpeed ∧
        (s.drive.full.velocity = (last? Setting.velocity.said calls).getD s.freeSpeed ↔
          ∀ c, lastCall? Setting.velocity.left calls = some (.config c) → c.maxVelocity = none →
            c.gearset.freeSpeed = (last? Setting.velocity.said calls).getD s.freeSpeed)) ∧
      ∃ turn angle, s.controller.turn.gains? = some turn ∧ s.controller.angle.gains? = some angle ∧
        angle = (last? Setting.angleGains.left calls).getD turn ∧
          (angle = (last? Setting.angleGains.said calls).getD turn ↔
            ∀ c, lastCall? Setting.angleGains.left calls = some (.config c) → c.angleGains = none →
              c.turnGains = (last? Setting.angleGains.said calls).getD turn) := by
  obtain ⟨⟨gearing, full⟩, turn, -, turns, angles⟩ := settings_of_build built
  have velocity : s.drive.full.velocity =
      (last? Setting.velocity.left calls).getD s.freeSpeed := by
    rw [full, Builder.velocity, ← gearing, maxVelocity_giveAll]
    exact congrArg (Option.getD · _) Option.or_none
  have gains : s.controller.angle.gains? =
      some ((last? Setting.angleGains.left calls).getD turn) := by
    rw [angles, angleGains_giveAll]
    exact congrArg (fun g => some (Option.getD g turn)) Option.or_none
  refine ⟨⟨velocity, ?_⟩, turn, _, turns, gains, rfl, ?_⟩
  · rw [velocity]
    exact Setting.velocity.left_eq_said_iff calls _
  · exact Setting.angleGains.left_eq_said_iff calls turn

/-- A configuration that leaves velocity and angle gains open, and then gains and a cartridge. -/
def regeared : List (Call Float) :=
  [.motors (.pair (.bench .new) (.bench .new)), .config .standard,
    .gains ⟨1, 0, 0, 0⟩ ⟨2, 0, 0, 0⟩, .gearing (.direct .blue)]

theorem complete_regeared : (new.giveAll regeared).Complete where
  distanceGains := rfl
  turnGains := rfl
  motors := rfl
  workable :=
    { ratio_ne_zero := by decide +kernel
      ratio_finite := by decide +kernel
      straight := by decide +kernel
      turn := by decide +kernel
      period := by decide }

theorem defaults_follow_iff_of_regeared :
    ∃ s, (new.giveAll regeared).build = .ok s ∧
      s.drive.full.velocity = (last? Setting.velocity.left regeared).getD s.freeSpeed := by
  obtain ⟨s, built⟩ := (build_all_or_nothing _).1.2 complete_regeared
  exact ⟨s, built, (defaults_follow_iff built).1.1⟩

/-- **A configuration's cartridge and turn gains linger**: nothing says a velocity or angle gains,
and full speed is not the free speed of the cartridge, nor has the angle loop the turn gains. -/
theorem defaults_linger :
    ∃ s, (new.giveAll regeared).build = .ok s ∧
      (last? Setting.velocity.said regeared = none ∧ s.drive.full.velocity ≠ s.freeSpeed) ∧
        last? Setting.angleGains.said regeared = none ∧
          s.controller.angle.gains? ≠ s.controller.turn.gains? := by
  obtain ⟨s, built⟩ := (build_all_or_nothing _).1.2 complete_regeared
  obtain ⟨⟨gearing, full⟩, turn, given, turns, angles⟩ := settings_of_build built
  refine ⟨s, built, ⟨rfl, ?_⟩, rfl, ?_⟩
  · rw [full, Session.freeSpeed, gearing]
    show (Gearset.green.freeSpeed : Float) ≠ Gearset.blue.freeSpeed
    decide +kernel
  · rw [turns, angles, ← given]
    intro same
    have slopes : (Config.standard : Config Float).turnGains.kp = 2 :=
      congrArg Gains.kp (Option.some.inj same)
    exact absurd slopes (by decide +kernel)

end Builder

end Drivetrain
