/-
After a stop the chassis stands still, and nobody waits on.

A stop switches the loops off and leaves the mode, so the cycle goes on stepping loops and sending
what they put out.  Loops that are off put out nothing, and nothing mixes to orders of no speed.
They also count as settled, so a client that waits finds the motion over as soon as it polls: of the
clients that wait the first ends the motion, the others find their mode gone, look again and find
nothing to wait for.

Main definitions:

* `Drivetrain.Maneuver.Halts` — a maneuver that orders every wheel to stand still;
* `Drivetrain.Motor.Rests` — a motor that was last told to stand still;
* `Drivetrain.Shared.Stopped` — a controller that was stopped in a mode, and what became of it;
* `Drivetrain.Shared.strides`, `Drivetrain.Shared.toReturn` — the steps that a client has taken in
  its wait, and how many it can take until the wait returns.

Main results:

* `Drivetrain.Shared.halts_of_maneuver?` — a controller that was stopped orders no wheel to turn;
* `Drivetrain.Shared.strides_since_stop` — **a wait returns within five steps of its client**;
* `Drivetrain.Shared.stopped_stands_still` — **a stop is safe and releases all who wait**;
* `Drivetrain.Session.wait_of_stopped` — in a session a wait then returns at its first poll.
-/

import Drivetrain.Proofs.Ending
import Drivetrain.Proofs.Limits
import Drivetrain.Proofs.Sessions

set_option relaxedAutoImplicit false
set_option autoImplicit false

namespace Drivetrain

variable {α : Type} [Scalar α]

/-! ### Loops that are off -/

namespace Loop

/-- A loop that is off puts out nothing. -/
theorem output_step_of_disabled {l : Loop α} (h : l.isDisabled = true) (reading : α) (now : Nat) :
    (l.step reading now).2 = 0 := by
  cases l with
  | position p =>
      have off : p.disabled = true := h
      simp [step, Pid.step, off]
  | scripted s =>
      have off : s.disabled = true := h
      simp [step, ScriptedLoop.step, off]

/-- A position loop that is off counts as settled. -/
theorem settled_of_disabled {l : Loop α} (real : l.settle?.isSome = true)
    (h : l.isDisabled = true) (now : Nat) : (l.checkSettled now).1 = true := by
  cases l with
  | position p => rw [checkSettled, Pid.checkSettled_of_disabled h]
  | scripted s => cases real

end Loop

namespace Controller

/-- **A controller whose loops are all off.** -/
structure Off (c : Controller α) : Prop where
  distance : c.distance.isDisabled = true
  turn : c.turn.isDisabled = true
  angle : c.angle.isDisabled = true

omit [Scalar α] in
theorem off_disableAll (c : Controller α) : c.disableAll.Off :=
  ⟨Loop.isDisabled_setDisabled .., Loop.isDisabled_setDisabled .., Loop.isDisabled_setDisabled ..⟩

omit [Scalar α] in
theorem Off.of_posture {c c' : Controller α} (h : c.Off) (same : c'.posture = c.posture) :
    c'.Off where
  distance := (congrArg (·.distance.disabled) same).trans h.distance
  turn := (congrArg (·.turn.disabled) same).trans h.turn
  angle := (congrArg (·.angle.disabled) same).trans h.angle

/-- Loops that are off ask for no speed, in either mode. -/
theorem Off.maneuver {c : Controller α} (h : c.Off) (samples : Samples) (now : Nat) :
    (c.cycle samples now).2 = none ∨ (c.cycle samples now).2 = some (.vector 0 0) ∨
      (c.cycle samples now).2 = some (.rotate 0) := by
  cases hm : c.mode with
  | none => exact .inl (by rw [cycle_of_none hm])
  | distance =>
      refine .inr (.inl ?_)
      simp only [cycle_of_distance hm, Loop.output_step_of_disabled h.distance,
        Loop.output_step_of_disabled h.angle]
  | angle =>
      refine .inr (.inr ?_)
      simp only [cycle_of_angle hm, Loop.output_step_of_disabled h.turn]

/-- Position loops that are off report in every mode. -/
theorem Off.reports {c : Controller α} (h : c.Off) (real : c.Positional) (now : Nat) (mode : Mode) :
    c.Reports now mode := by
  cases mode with
  | none => trivial
  | distance =>
      exact ⟨Loop.settled_of_disabled (real .distance) h.distance now,
        Loop.settled_of_disabled (real .angle) h.angle now⟩
  | angle => exact Loop.settled_of_disabled (real .turn) h.turn now

end Controller

/-! ### Orders of no speed -/

/-- **A maneuver that orders every wheel to stand still**, whatever full speed is. -/
def Maneuver.Halts (m : Maneuver α) : Prop :=
  ∀ full wheel, m.order? full wheel = some (.velocity 0)

theorem Maneuver.halts_stop : (stop : Maneuver α).Halts := fun _ _ => rfl

/-- **Nothing of a maximum is nothing**, also of one that is infinite or not a number. -/
theorem Mixing.command_of_zero {x : Float} (h : Machine.value? x = some 0) (maximum : Float) :
    command x maximum = 0 := by
  have product : (x * maximum).isNaN = true ∨ Machine.value? (x * maximum) = some 0 :=
    Machine.mul_of_zero h maximum
  have none : Scalar.truncate (x * maximum) = 0 := by
    rcases product with nan | zero
    · exact Machine.truncate_of_isNaN nan
    · have bound := Machine.natAbs_truncate_le zero
      rw [abs_zero] at bound
      exact Int.natAbs_eq_zero.1 (Nat.cast_eq_zero.1 (le_antisymm bound (Nat.cast_nonneg _)))
  rw [command, none]
  rfl

theorem Maneuver.halts_vector : (vector 0.0 0.0 : Maneuver Float).Halts := by
  intro full wheel
  have level : Mixing.vector 0.0 0.0 = (⟨0.0, 0.0⟩ : Sides Float) := by decide +kernel
  have still : ∀ side, (Mixing.vector 0.0 0.0 : Sides Float).on side = 0.0 := by
    intro side
    rw [level]
    cases side <;> rfl
  rw [order?, still, Maxima.velocityOrder, Mixing.command_of_zero value?_zero]

theorem Maneuver.halts_rotate : (rotate 0.0 : Maneuver Float).Halts := by
  intro full wheel
  have forward : Machine.value? (Mixing.clampUnit (0.0 : Float)) = some 0 := rfl
  have backward : Machine.value? (-Mixing.clampUnit (0.0 : Float)) = some 0 := rfl
  rw [order?, Maxima.velocityOrder]
  cases wheel.side with
  | left => exact congrArg (some <| MotorOrder.velocity ·) (Mixing.command_of_zero forward _)
  | right => exact congrArg (some <| MotorOrder.velocity ·) (Mixing.command_of_zero backward _)

/-! ### Motors that stand still -/

/-- **A motor that was last told to stand still.** -/
def Motor.Rests : Motor Float → Prop
  | bench m => m.velocity = 0
  | simulated m => m.speed = 0

theorem Motor.rests_obey (now : Nat) (m : Motor Float) : (m.obey now (.velocity 0)).Rests := by
  cases m with
  | bench m => rfl
  | simulated m =>
      have still : ∀ g : Gearset,
          Range.clamp ⟨-(g.freeSpeed : Float), g.freeSpeed⟩ (Scalar.ofInt 0) * Scalar.ofInt 6 =
            (0 : Float) := by
        intro g
        cases g <;> decide +kernel
      exact still m.gearset

theorem Motor.steady_rests : Motor.Steady Motor.Rests where
  configure now setting m h := by
    cases m with
    | bench m => cases setting <;> exact h
    | simulated m => cases setting <;> exact h
  read now m h := by cases m <;> exact h
  reset now m h := by cases m <;> exact h
  place x m h := by cases m <;> exact h

/-- A maneuver that halts leaves every motor at rest. -/
theorem Drive.rests_steer {m : Maneuver Float} (halts : m.Halts) (d : Drive Float) (now : Nat) :
    (d.steer now m).motors.Every Motor.Rests := by
  have anywhere : d.motors.Every fun _ => True := fun _ _ => trivial
  rw [steer]
  dsimp only
  refine anywhere.map ?_
  intro wheel _ motor _
  rw [halts]
  exact Motor.rests_obey now motor

namespace Shared

/-! ### What follows a stop -/

/-- Whether an event launches a motion. -/
def Event.launches : Event α → Bool
  | .launch _ => true
  | _ => false

/-- Whether an event gives orders to the motors past the controller. -/
def Event.steers : Event α → Bool
  | .act (.steer _) | .act (.direct ..) => true
  | _ => false

/-- **A controller that was stopped in a mode**, and what has become of it: it stays in that mode
until a wait ends the motion. -/
structure Stopped (mode : Mode) (run : List (Event α)) (c : Controller α) : Prop where
  off : c.Off
  mode : c.mode = if run.any Event.ends then .none else mode

theorem stopped_after_stop (s : Shared α) (i : Nat) :
    Stopped s.controller.mode [] (s.after (.ask i .stop)).controller := by
  rw [after_ask_of_none rfl, controller_steer]
  exact ⟨s.controller.off_disableAll, rfl⟩

/-- **What was stopped stays so** until a motion is launched. -/
theorem Stopped.step {mode : Mode} {run : List (Event α)} {s : Shared α}
    (h : Stopped mode run s.controller) {e : Event α} (enabled : s.Enabled e)
    (quiet : e.launches = false) : Stopped mode (e :: run) (s.after e).controller := by
  cases hd : e.decides with
  | false =>
      have same := posture_after enabled hd
      have unended : e.ends = false := by
        cases e with
        | poll i verdict => cases verdict <;> first | rfl | cases hd
        | _ => rfl
      refine ⟨h.off.of_posture same, ?_⟩
      rw [List.any_cons, unended, Bool.false_or, ← h.mode]
      exact congrArg Controller.Posture.mode same
  | true =>
      cases e with
      | launch i => cases quiet
      | ask i r =>
          cases r with
          | stop =>
              rw [after_ask_of_none rfl, controller_steer]
              exact ⟨s.controller.off_disableAll, h.mode⟩
          | _ => cases hd
      | poll i verdict =>
          cases verdict with
          | finished =>
              have ended := (ended_after enabled).2.2
              exact ⟨⟨ended.distance, ended.turn, ended.angle⟩, ended.mode⟩
          | _ => cases hd
      | _ => cases hd

/-- A step after a stop that asks anything of the chassis asks it to stand still. -/
theorem halts_of_maneuver? {s : Shared Float} (off : s.controller.Off) {e : Event Float}
    {m : Maneuver Float} (h : s.maneuver? e = some m) : m.Halts := by
  cases e with
  | ask i r =>
      cases r with
      | stop => cases h; exact Maneuver.halts_stop
      | _ => cases h
  | poll i verdict =>
      cases verdict with
      | finished => cases h; exact Maneuver.halts_stop
      | _ => cases h
  | work samples =>
      change (s.controller.cycle samples s.now).2 = some m at h
      rcases off.maneuver samples s.now with none | forward | turn
      · rw [none] at h; cases h
      · rw [forward] at h; cases h; exact Maneuver.halts_vector
      · rw [turn] at h; cases h; exact Maneuver.halts_rotate
  | _ => cases h

/-! ### Clients that wait -/

/-- **The steps that a client has taken in its wait**, by what followed the stop: its looks and its
polls since it began to wait. -/
def strides (i : Nat) : List (Event α) → Nat
  | [] => 0
  | .wait j :: run => if j = i then 0 else strides i run
  | .look j :: run => if j = i then strides i run + 1 else strides i run
  | .poll j _ :: run => if j = i then strides i run + 1 else strides i run
  | _ :: run => strides i run

/-- **How many steps a client can take until its wait returns**, when the mode can still change, but
only to none. -/
def toReturn (mode : Mode) : Client α → Nat
  | .free | .accepted _ => 0
  | .deciding => if mode = .none then 2 else 4
  | .watching watched =>
      if mode = .none then (if watched = .none then 1 else 3)
      else (if watched = mode then 3 else 5)

omit [Scalar α] in
theorem toReturn_le (mode : Mode) (c : Client α) : toReturn mode c ≤ 5 := by
  cases c with
  | free | accepted m => exact Nat.zero_le 5
  | deciding => simp only [toReturn]; split_ifs <;> omega
  | watching watched => simp only [toReturn]; split_ifs <;> omega

omit [Scalar α] in
theorem watching_of_watched? {c : Client α} {mode : Mode} (h : c.watched? = some mode) :
    c = .watching mode := by
  cases c with
  | watching watched => exact congrArg _ (Option.some.inj h)
  | _ => cases h

omit [Scalar α] in
/-- The end of a motion brings no return further away. -/
theorem toReturn_none_le (mode : Mode) (c : Client α) : toReturn .none c ≤ toReturn mode c := by
  cases c with
  | free | accepted m => exact le_rfl
  | deciding => simp only [toReturn]; split_ifs <;> omega
  | watching watched => simp only [toReturn]; split_ifs <;> omega

omit [Scalar α] in
theorem strides_cons_of_ne {e : Event α} {i : Nat} (h : e.client? ≠ some i)
    (run : List (Event α)) : strides i (e :: run) = strides i run := by
  cases e with
  | wait j | look j | poll j verdict => exact if_neg fun same => h (congrArg some same)
  | _ => rfl

/-- After a stop the mode stays, or becomes none. -/
theorem Stopped.mode_after {mode : Mode} {run : List (Event α)} {s : Shared α}
    (h : Stopped mode run s.controller) {e : Event α} (enabled : s.Enabled e)
    (quiet : e.launches = false) :
    (s.after e).controller.mode = s.controller.mode ∨ (s.after e).controller.mode = .none := by
  rw [(h.step enabled quiet).mode, h.mode, List.any_cons]
  cases e.ends <;> simp

/-- No client that polls after a stop has to sleep. -/
theorem not_pending {s : Shared α} (off : s.controller.Off) (real : s.controller.Positional)
    {i : Nat} : ¬ s.Enabled (.poll i .pending) := by
  intro enabled
  obtain ⟨watched, -, ⟨⟨⟩, -⟩ | ⟨-, -, unsettled, -⟩ | ⟨⟨⟩, -⟩⟩ := poll_cases enabled
  exact unsettled (off.reports real s.now watched)

/-- A client that asks for something waits for nothing. -/
theorem toReturn_after_ask {s : Shared α} {i : Nat} {r : Controller.Request α}
    (enabled : s.Enabled (.ask i r)) :
    toReturn (s.after (.ask i r)).controller.mode ((s.after (.ask i r)).clients i) = 0 := by
  have free : (s.clients i).isFree = true := enabled
  cases hm : s.controller.motion? r with
  | some m => rw [after_ask_of_accepted hm, clients_setClient_self]; rfl
  | none =>
      rw [after_ask_of_none hm, clients_steer]
      change toReturn _ (s.clients i) = 0
      cases hc : s.clients i with
      | free => rfl
      | _ => rw [hc] at free; cases free

/-- A look brings the return of a wait closer. -/
theorem toReturn_after_look {s : Shared α} {i : Nat} (enabled : s.Enabled (.look i)) :
    toReturn (s.after (.look i)).controller.mode ((s.after (.look i)).clients i) + 1 ≤
      toReturn s.controller.mode (s.clients i) := by
  have deciding : (s.clients i).isDeciding = true := enabled
  change toReturn s.controller.mode ((s.setClient i _).clients i) + 1 ≤ _
  rw [clients_setClient_self]
  cases hc : s.clients i with
  | deciding =>
      simp only [toReturn]
      split_ifs <;> omega
  | _ => rw [hc] at deciding; cases deciding

/-- A poll after a stop brings the return of a wait closer. -/
theorem toReturn_after_poll {s : Shared α} (off : s.controller.Off)
    (real : s.controller.Positional) {i : Nat} {verdict : Controller.Verdict}
    (enabled : s.Enabled (.poll i verdict)) :
    toReturn (s.after (.poll i verdict)).controller.mode
        ((s.after (.poll i verdict)).clients i) + 1 ≤
      toReturn s.controller.mode (s.clients i) := by
  obtain ⟨watched, hw, ⟨rfl, gone, e⟩ | ⟨rfl, -⟩ | ⟨rfl, there, -, e⟩⟩ := poll_cases enabled
  · -- the mode watched is gone: the client looks again, or returns if there is none
    rw [e, clients_setClient_self, watching_of_watched? hw]
    change toReturn s.controller.mode _ + 1 ≤ _
    simp only [toReturn]
    split_ifs <;> first | omega | simp_all
  · exact absurd enabled (not_pending off real)
  · rw [e, clients_setClient_self, watching_of_watched? hw]
    simp only [toReturn]
    split_ifs <;> omega

/-- **Every step of a client brings the return of its wait closer**, and no step of another takes it
further away. -/
theorem strides_step {mode : Mode} {run : List (Event α)} {s : Shared α}
    (h : Stopped mode run s.controller) (real : s.controller.Positional) {e : Event α}
    (enabled : s.Enabled e) (quiet : e.launches = false) {i : Nat}
    (bound : strides i run + toReturn s.controller.mode (s.clients i) ≤ 5) :
    strides i (e :: run) + toReturn (s.after e).controller.mode ((s.after e).clients i) ≤ 5 := by
  by_cases own : e.client? = some i
  · cases e with
    | ask j r =>
        cases own
        have same : strides i (.ask i r :: run) = strides i run := rfl
        have idle := toReturn_after_ask enabled
        omega
    | wait j =>
        cases own
        have anew : strides i (.wait i :: run) = 0 := if_pos rfl
        have := toReturn_le (s.after (.wait i)).controller.mode ((s.after (.wait i)).clients i)
        omega
    | look j =>
        cases own
        have one : strides i (.look i :: run) = strides i run + 1 := if_pos rfl
        have closer := toReturn_after_look enabled
        omega
    | poll j verdict =>
        cases own
        have one : strides i (.poll i verdict :: run) = strides i run + 1 := if_pos rfl
        have closer := toReturn_after_poll h.off real enabled
        omega
    | launch j => cases quiet
    | _ => cases own
  · rw [strides_cons_of_ne own, clients_after_of_ne enabled own]
    rcases h.mode_after enabled quiet with same | ended
    · rwa [same]
    · rw [ended]
      have := toReturn_none_le s.controller.mode (s.clients i)
      omega

/-- A waiting client can go on at once: it can look, or poll without having to sleep after it. -/
theorem can_go_on {s : Shared α} (off : s.controller.Off) (real : s.controller.Positional) {i : Nat}
    (waits : (s.clients i).waits = true) :
    s.Enabled (.look i) ∨ s.Enabled (.poll i .superseded) ∨ s.Enabled (.poll i .finished) := by
  have sleepless := not_pending off real (i := i)
  cases hc : s.clients i with
  | free | accepted m => rw [hc] at waits; cases waits
  | deciding => exact .inl (by rw [Enabled, hc]; rfl)
  | watching watched =>
      have polls : s.Enabled (.poll i (s.seen watched).1) := by rw [Enabled, hc]; rfl
      cases hv : (s.seen watched).1 with
      | superseded => exact .inr (.inl (hv ▸ polls))
      | pending => exact absurd (hv ▸ polls) sleepless
      | finished => exact .inr (.inr (hv ▸ polls))

/-! ### Until the next motion -/

/-- **What holds after a stop and is kept by every step holds until the next launch.** -/
theorem since_stop {s : Shared α} {j : Nat} {P : List (Event α) → Prop} (first : P [])
    (kept : ∀ {run : List (Event α)} {e : Event α}, Possible s (e :: run ++ [.ask j .stop]) →
      Stopped s.controller.mode run (replay s (run ++ [.ask j .stop])).controller →
      e.launches = false → P run → P (e :: run)) :
    ∀ {run : List (Event α)}, Possible s (run ++ [.ask j .stop]) →
      (∀ e ∈ run, e.launches = false) →
      Stopped s.controller.mode run (replay s (run ++ [.ask j .stop])).controller ∧ P run := by
  intro run
  induction run with
  | nil => exact fun _ _ => ⟨s.stopped_after_stop j, first⟩
  | cons e run ih =>
      intro possible quiet
      rw [List.forall_mem_cons] at quiet
      obtain ⟨stopped, holds⟩ := ih possible.1 quiet.2
      exact ⟨stopped.step possible.2 quiet.1, kept possible stopped quiet.1 holds⟩

/-- What the controller orders after a stop, and the stop itself. -/
theorem commands_since_stop {s : Shared Float} {j : Nat} {run : List (Event Float)}
    (possible : Possible s (run ++ [.ask j .stop])) (quiet : ∀ e ∈ run, e.launches = false) :
    ∀ c ∈ commands s (run ++ [.ask j .stop]), c.2 = fun _ => some (.velocity 0) := by
  have orders : ∀ {t : Shared Float} {e : Event Float} {order},
      (∀ m, t.maneuver? e = some m → m.Halts) → t.orders? e = some order →
        order = fun _ => some (.velocity 0) := by
    intro t e order halts shown
    obtain ⟨m, hm, rfl⟩ := Option.map_eq_some_iff.1 shown
    exact funext (halts m hm _)
  refine (since_stop (P := fun run => ∀ c ∈ commands s (run ++ [.ask j .stop]),
    c.2 = fun _ => some (.velocity 0)) ?_ ?_ possible quiet).2
  · refine forall_mem_trace_cons.2 ⟨fun order shown => orders ?_ shown, nofun⟩
    rintro m ⟨⟩
    exact Maneuver.halts_stop
  · intro run e _ stopped _ ih
    refine forall_mem_trace_cons.2 ⟨fun order shown => orders ?_ shown, ih⟩
    exact fun m hm => halts_of_maneuver? stopped.off hm

/-- The motors after a stop, while nobody orders them past the controller. -/
theorem rests_since_stop {s : Shared Float} {j : Nat} {run : List (Event Float)}
    (possible : Possible s (run ++ [.ask j .stop])) (quiet : ∀ e ∈ run, e.launches = false)
    (untouched : ∀ e ∈ run, e.steers = false) :
    (replay s (run ++ [.ask j .stop])).drive.motors.Every Motor.Rests := by
  refine (since_stop (P := fun run => (∀ e ∈ run, e.steers = false) →
    (replay s (run ++ [.ask j .stop])).drive.motors.Every Motor.Rests) ?_ ?_ possible quiet).2
    untouched
  · intro _
    exact Drive.rests_steer Maneuver.halts_stop _ _
  · intro run e possible stopped _ ih untouched
    rw [List.forall_mem_cons] at untouched
    have rests := ih untouched.2
    have enabled := possible.2
    rw [List.cons_append, replay_cons]
    generalize replay s (run ++ [.ask j .stop]) = t at *
    by_cases hand : ∃ a, e = .act a
    · obtain ⟨a, rfl⟩ := hand
      refine Drive.every_perform Motor.steady_rests rests ?_
      cases a with
      | steer | direct => cases untouched.1
      | _ => exact nofun
    · rw [drive_after enabled fun a ha => hand ⟨a, ha⟩]
      cases hm : t.maneuver? e with
      | none => exact rests
      | some m => exact Drive.rests_steer (halts_of_maneuver? stopped.off hm) _ _

/-- The clients that wait after a stop, where all loops are position loops. -/
theorem strides_since_stop {s : Shared α} (real : s.controller.Positional) {j : Nat}
    {run : List (Event α)} (possible : Possible s (run ++ [.ask j .stop]))
    (quiet : ∀ e ∈ run, e.launches = false) (i : Nat) :
    .poll i .pending ∉ run ∧
      strides i run + toReturn (replay s (run ++ [.ask j .stop])).controller.mode
        ((replay s (run ++ [.ask j .stop])).clients i) ≤ 5 := by
  refine (since_stop (P := fun run => .poll i .pending ∉ run ∧
    strides i run + toReturn (replay s (run ++ [.ask j .stop])).controller.mode
      ((replay s (run ++ [.ask j .stop])).clients i) ≤ 5) ?_ ?_ possible quiet).2
  · refine ⟨List.not_mem_nil, ?_⟩
    rw [strides, Nat.zero_add]
    exact toReturn_le ..
  · rintro run e ⟨before, enabled⟩ stopped quiet ⟨sleepless, bound⟩
    have real := (wired_replay before).positional real
    refine ⟨?_, strides_step stopped real enabled quiet bound⟩
    rw [List.mem_cons, not_or]
    refine ⟨?_, sleepless⟩
    rintro rfl
    exact not_pending stopped.off real enabled

/-- **A stop is safe and releases all who wait.**  From a stop until the next motion is launched,
whatever the threads do: the controller orders every wheel to stand still and nothing else, and the
motors rest unless they are ordered about past the controller; the mode is that of the stop until a
wait ends the motion; and if the loops are position loops, no poll leads to a sleep, a waiting
client can always go on, and it returns within five steps of its own. -/
theorem stopped_stands_still {s : Shared Float} {j : Nat} {run : List (Event Float)}
    (possible : Possible s (run ++ [.ask j .stop])) (quiet : ∀ e ∈ run, e.launches = false) :
    (∀ c ∈ commands s (run ++ [.ask j .stop]), c.2 = fun _ => some (.velocity 0)) ∧
      ((∀ e ∈ run, e.steers = false) →
        (replay s (run ++ [.ask j .stop])).drive.motors.Every Motor.Rests) ∧
      (replay s (run ++ [.ask j .stop])).controller.mode =
        (if run.any Event.ends then .none else s.controller.mode) ∧
      (s.controller.Positional → ∀ i,
        .poll i .pending ∉ run ∧ strides i run ≤ 5 ∧
        (((replay s (run ++ [.ask j .stop])).clients i).waits = true →
          (replay s (run ++ [.ask j .stop])).Enabled (.look i) ∨
          (replay s (run ++ [.ask j .stop])).Enabled (.poll i .superseded) ∨
          (replay s (run ++ [.ask j .stop])).Enabled (.poll i .finished))) := by
  obtain ⟨stopped, -⟩ := since_stop (P := fun _ => True) trivial (fun _ _ _ _ => trivial)
    possible quiet
  refine ⟨commands_since_stop possible quiet, rests_since_stop possible quiet, stopped.mode, ?_⟩
  intro real i
  obtain ⟨sleepless, bound⟩ := strides_since_stop real possible quiet i
  exact ⟨sleepless, by omega, can_go_on stopped.off ((wired_replay possible).positional real)⟩

/-- A loop that drives toward its target. -/
def eager : Loop Float := .position (.new ⟨0.01, 0, 0, 0⟩ .standard 10000000)

/-- A bench on which a client waits for a turn that no cycle has seen yet. -/
def pendingTurn : Shared Float :=
  replay (bench eager eager eager)
    [.look 1, .wait 1, .start ⟨0, 0⟩, .launch 0, .ask 0 (.turn ⟨90⟩)]

/-- The cycle works after the stop, and the client that waits ends the turn. -/
def released : List (Event Float) :=
  [.poll 1 .finished, .work ⟨⟨0, 0⟩, ⟨30, 0⟩⟩, .wake, .pass 10000000, .ask 0 (.mirror true)]

theorem stopped_stands_still_of_pendingTurn :
    (Possible pendingTurn (released ++ [.ask 0 .stop]) ∧
        (∀ e ∈ released, e.launches = false) ∧ (∀ e ∈ released, e.steers = false) ∧
        pendingTurn.controller.mode = .angle ∧ pendingTurn.controller.Positional) ∧
      (commands pendingTurn (released ++ [.ask 0 .stop])).length = 3 ∧
      (∀ c ∈ commands pendingTurn (released ++ [.ask 0 .stop]), c.2 = fun _ => some (.velocity 0)) ∧
      (replay pendingTurn (released ++ [.ask 0 .stop])).drive.motors.Every Motor.Rests ∧
      (replay pendingTurn (released ++ [.ask 0 .stop])).controller.mode = .none ∧
      strides 1 released = 1 ∧ .poll 1 .pending ∉ released := by
  have possible : Possible pendingTurn (released ++ [.ask 0 .stop]) := by decide +kernel
  have quiet : ∀ e ∈ released, e.launches = false := by decide +kernel
  have untouched : ∀ e ∈ released, e.steers = false := by decide +kernel
  have turning : pendingTurn.controller.mode = .angle := rfl
  have real : pendingTurn.controller.Positional := by
    intro slot
    cases slot <;> rfl
  obtain ⟨orders, rests, mode, waits⟩ := stopped_stands_still possible quiet
  exact ⟨⟨possible, quiet, untouched, turning, real⟩, by decide +kernel, orders, rests untouched,
    mode, rfl, (waits real 1).1⟩

end Shared

/-! ### Waits in a session -/

namespace Session

/-- A poll that finds the motion over is the last look of a wait. -/
theorem Waiting.looks_of_finished {w : Waiting α} {mode : Mode} {c : Controller α}
    (h : w.session.controller.poll mode w.session.now = (.finished, c)) (patience : Nat)
    (pace : Pace) :
    w.looks (patience + 1) pace (some mode) =
      some { w with session := { w.session with controller := c }.steer (some .stop) } := by
  simp only [looks, h]

/-- **A wait for a motion that was stopped returns at its first poll**, without sleeping and before
anything that is planned for its sleeps. -/
theorem wait_of_stopped {s : Session α} (off : s.controller.Off) (real : s.controller.Positional)
    (script : Script α) {patience : Nat} (enough : 2 ≤ patience) :
    ∃ w, s.wait script patience = some w ∧ w.session.now = s.now ∧ w.fired = #[] ∧
      w.timedOut = false ∧ w.session.controller.mode = .none := by
  obtain ⟨patience, rfl⟩ := Nat.exists_eq_add_of_le' enough
  rcases s.controller.poll_cases s.controller.mode s.now with
    ⟨-, gone⟩ | ⟨-, -, unsettled⟩ | ⟨finished, -⟩
  · exact absurd rfl gone
  · exact absurd (off.reports real s.now _) unsettled
  · -- whether the first look is noted or not, the poll after it meets the same controller
    let t : Session α := if s.controller.mode = .none then s.note .waiting
      else (s.note .waiting).note (.watching s.controller.mode)
    have controller : t.controller = s.controller := by simp only [t]; split <;> rfl
    have now : t.now = s.now := by simp only [t]; split <;> rfl
    let w : Waiting α :=
      { session := t
        events := script.events.map fun e => (s.now + e.1, e.2)
        limit := script.limit.map (s.now + ·)
        fired := #[]
        timedOut := false }
    have returned : s.wait script (patience + 2) =
        (w.looks (patience + 1) (.startingAt s.now) (some s.controller.mode)).map
          fun w => { w with session := w.session.note .waited } := rfl
    have polled : w.session.controller.poll s.controller.mode w.session.now =
        (.finished, (s.controller.checkSettled s.now s.controller.mode).2.finish) := by
      change t.controller.poll _ t.now = _
      rw [controller, now, finished]
    rw [returned, Waiting.looks_of_finished polled]
    exact ⟨_, rfl, now, rfl, rfl, rfl⟩

end Session

end Drivetrain
