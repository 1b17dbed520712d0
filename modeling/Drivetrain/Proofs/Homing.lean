/-
A straight move comes to its target without going past it.

Both sides have simulated motors, a cycle comes once in every period, and nothing interferes.  Then
at every cycle the error is above minus one and no larger than the target, from one cycle to the
next it does not grow until it is negative, and every order is the same for both motors.

The travel is a difference that wraps at thirty-two bits.  A chassis that starts far below zero can
travel further than that and stay inside the range of its sensors all the while, and then the error
jumps: so with a target out of that range it is the travel that has to fit, and not only the
positions.

Main definitions:

* `Drivetrain.Shared.findings` — the position that each cycle of a run finds, and the error that it
  leaves;
* `Drivetrain.Shared.ClosedLoop` — whether nothing interferes: cycles take what the sensors read,
  and nobody launches, stops or ends a motion, nor lays a hand on the drive;
* `Drivetrain.Shared.Poised` — a controller about to run the first cycle of a straight move;
* `Drivetrain.Shared.Homing` — what every step of such a run keeps.

Main results:

* `Drivetrain.Shared.Homing.quiet`, `Drivetrain.Shared.Homing.work` — **the two kinds of steps**;
* `Drivetrain.Shared.Poised.homing` — the invariant of every such run;
* `Drivetrain.Shared.homes_without_overshoot` — the error never passes the target by a degree;
* `Drivetrain.Shared.overshoots_by_wrapping` — a run whose travel does not fit.
-/

import Mathlib.Analysis.Real.Pi.Bounds
import Drivetrain.Proofs.Approach

set_option relaxedAutoImplicit false
set_option autoImplicit false

namespace Drivetrain

open Controller (Samples travel)
open Scalar (truncate)

/-! ### Readings that fit -/

/-- Whether a number fits in the thirty-two bits of a reading. -/
def FitsReading (n : ℤ) : Prop := -2 ^ 31 ≤ n ∧ n < 2 ^ 31

theorem fitsReading_of_cast {n : ℤ} (low : 0 ≤ (n : ℝ)) (high : (n : ℝ) < 2 ^ 31) :
    FitsReading n := by
  have low : 0 ≤ n := by exact_mod_cast low
  have high : n < 2 ^ 31 := by exact_mod_cast high
  exact ⟨by omega, high⟩

theorem fitsReading_truncate {q : ℝ} (low : -2 ^ 31 ≤ q) (high : q < 2 ^ 31) :
    FitsReading (truncate q) := by
  rcases le_total 0 q with h | h
  · obtain ⟨whole, less⟩ := Scalar.truncate_le h
    have : truncate q < 2 ^ 31 := by exact_mod_cast less.trans_lt high
    exact ⟨by omega, this⟩
  · obtain ⟨whole, less⟩ := Scalar.le_truncate h
    have : -2 ^ 31 ≤ truncate q := by exact_mod_cast low.trans less
    exact ⟨this, by omega⟩

theorem toInt_wholeReading {q : ℝ} (h : FitsReading (truncate q)) :
    (Drive.wholeReading q).toInt = truncate q := by
  obtain ⟨low, high⟩ := h
  have least : Int32.minValue.toInt = -2 ^ 31 := by decide
  have most : Int32.maxValue.toInt = 2 ^ 31 - 1 := by decide
  exact Int32.toInt_ofIntClamp (by omega) (by omega)

/-- Where positions and their difference fit, the travel is that difference. -/
theorem travel_wholeReading {q₀ q : ℝ} (start : FitsReading (truncate q₀))
    (here : FitsReading (truncate q)) (way : FitsReading (truncate q - truncate q₀)) :
    travel ⟨Drive.wholeReading q₀, Drive.wholeReading q₀⟩
        ⟨Drive.wholeReading q, Drive.wholeReading q⟩ =
      (⟨(truncate q : ℝ) - truncate q₀, (truncate q : ℝ) - truncate q₀⟩ : Sides ℝ) := by
  have difference : (Drive.wholeReading q - Drive.wholeReading q₀).toInt =
      truncate q - truncate q₀ := by
    refine Shared.trueTravel ⟨Drive.wholeReading q₀, Drive.wholeReading q₀⟩
      ⟨Drive.wholeReading q, Drive.wholeReading q⟩ .left _ ?_ way.1 way.2
    rw [Sides.on, Sides.on, toInt_wholeReading start, toInt_wholeReading here]
  simp only [travel, difference, Scalar.ofInt_real, Int.cast_sub]

/-- No travel is none, wherever it starts. -/
theorem travel_self (r : Readings) : travel r r = (⟨0, 0⟩ : Sides ℝ) := by
  simp [travel]

namespace Shared

/-! ### Runs that nothing interferes with -/

/-- What a cycle on a move shows. -/
structure Finding where
  /-- The position that it finds, before that is held inside thirty-two bits. -/
  position : ℤ
  /-- The error that it leaves. -/
  error : ℝ

noncomputable def found? (s : Shared ℝ) : Event ℝ → Option Finding
  | .work samples => some ⟨s.odometer, (s.after (.work samples)).controller.distance.error⟩
  | _ => none

/-- **What the cycles of a run find**, each with its instant, the newest first. -/
noncomputable def findings (s : Shared ℝ) (run : List (Event ℝ)) : List (ℕ × Finding) :=
  trace found? s run

theorem findings_cons_work (s : Shared ℝ) (run : List (Event ℝ)) (samples : Samples) :
    findings s (.work samples :: run) =
      ((replay s run).now,
        ⟨(replay s run).odometer,
          ((replay s run).after (.work samples)).controller.distance.error⟩) :: findings s run :=
  rfl

theorem findings_suffix (s : Shared ℝ) (e : Event ℝ) (run : List (Event ℝ)) :
    findings s run <:+ findings s (e :: run) :=
  trace_suffix s e run

/-- Whether a step leaves a motion to itself.  A cycle takes what the sensors read. -/
def Undisturbed (s : Shared ℝ) : Event ℝ → Prop
  | .work samples => samples = ⟨s.sensed, s.sensed⟩
  | .act a => a = .sense
  | e => e.decides = false

/-- **Whether nothing interferes with a motion.** -/
def ClosedLoop (s : Shared ℝ) : List (Event ℝ) → Prop
  | [] => True
  | e :: past => ClosedLoop s past ∧ (replay s past).Undisturbed e

section Steps

variable {s : Shared ℝ} {e : Event ℝ}

theorem Undisturbed.quiet (h : s.Undisturbed e) : e.decides = false := by
  cases e with
  | work samples => rfl
  | act a => rfl
  | _ => exact h

/-- Between cycles nothing is found. -/
theorem findings_cons_of_idle (idle : ∀ samples, e ≠ .work samples) (run : List (Event ℝ)) :
    findings s (e :: run) = findings s run := by
  refine trace_cons_of_none ?_
  cases e with
  | work samples => exact absurd rfl (idle samples)
  | _ => rfl

theorem maneuver?_of_idle (quiet : e.decides = false) (idle : ∀ samples, e ≠ .work samples) :
    s.maneuver? e = none := by
  cases e with
  | ask i r => exact maneuver?_of_not_decides quiet
  | work samples => exact absurd rfl (idle samples)
  | poll i verdict =>
      cases verdict with
      | finished => cases quiet
      | _ => rfl
  | _ => rfl

theorem origin_cons_of_quiet {past : List (Event ℝ)} {b : Readings} (h : origin past = some b)
    (quiet : e.decides = false) : origin (e :: past) = some b := by
  cases e with
  | launch i => cases quiet
  | work samples => rw [origin, h, Option.getD_some]
  | _ => exact h

/-- Between cycles both motors go on as they did. -/
theorem twin_after_of_idle {g : Gearset} {p v : ℝ} (twin : s.Twin (·.Rolls g s.now p v))
    (enabled : s.Enabled e) (undisturbed : s.Undisturbed e) (idle : ∀ samples, e ≠ .work samples) :
    (s.after e).Twin
      (·.Rolls g (s.after e).now (p + v * Time.toSeconds ((s.after e).now - s.now)) v) := by
  by_cases passes : ∃ d, e = .pass d
  · obtain ⟨d, rfl⟩ := passes
    have later : (s.after (.pass d)).now - s.now = d := Nat.add_sub_cancel_left ..
    rw [later]
    exact twin.pass d
  · -- no time passes, and the drive is the same but for a reading
    have now := now_after enabled (not_exists.1 passes)
    have still : p + v * Time.toSeconds (s.now - s.now) = p := by simp
    rw [now, still]
    by_cases acts : ∃ a, e = .act a
    · obtain ⟨a, rfl⟩ := acts
      obtain rfl : a = .sense := undisturbed
      exact twin.sense
    · have drive := drive_after enabled (not_exists.1 acts)
      rw [maneuver?_of_idle undisturbed.quiet idle] at drive
      exact ⟨by rw [drive]; exact twin.sensing, by rw [drive]; exact twin.motors⟩

end Steps

/-! ### The invariant -/

/-- **What every step of a run keeps**: the last cycle was at an instant and found a position, with
an error; since then both motors have turned as fast as that error asked for. -/
structure Homing (s : Shared ℝ) (past : List (Event ℝ)) (kp : ℝ) (g : Gearset) (start target : ℝ)
    (run : List (Event ℝ)) (last : ℕ) (q e : ℝ) : Prop where
  homes : (replay s run).controller.Homes kp target
  full : (replay s run).drive.full = s.drive.full
  origin : origin (run ++ past) = some ⟨Drive.wholeReading start, Drive.wholeReading start⟩
  since : last ≤ (replay s run).now
  twin : (replay s run).Twin
    (·.Rolls g (replay s run).now
      (q + SimulatedMotor.toward g kp s.drive.full.velocity e *
        Time.toSeconds ((replay s run).now - last))
      (SimulatedMotor.toward g kp s.drive.full.velocity e))
  error : e = target - (truncate q - truncate start)
  began : FitsReading (truncate start)
  findings : ∃ older, findings s run = (last, ⟨truncate q, e⟩) :: older
  within : ∀ c ∈ Shared.findings s run, -1 < c.2.error ∧ c.2.error ≤ target
  falling : (Shared.findings s run).IsChain fun new old =>
    0 ≤ old.2.error → new.2.error ≤ old.2.error
  alike : ∀ c ∈ commands s run, c.2 .left = c.2 .right

section Invariant

variable {s : Shared ℝ} {past run : List (Event ℝ)} {kp start target : ℝ} {g : Gearset}

/-- The first cycle finds the whole way before it. -/
theorem Homing.first (homes : s.controller.Homes kp target) (ahead : 0 ≤ target)
    (twin : s.Twin (·.Stands g s.now start)) {samples : Samples}
    (enabled : s.Enabled (.work samples)) (undisturbed : s.Undisturbed (.work samples))
    (unseen : Shared.origin past = none) (began : FitsReading s.odometer)
    (moved : s.controller.moved samples = movedBy past samples) :
    Homing s past kp g start target [.work samples] s.now start target := by
  obtain rfl : samples = ⟨s.sensed, s.sensed⟩ := undisturbed
  have none : s.controller.moved ⟨s.sensed, s.sensed⟩ = ⟨(0 : ℝ), 0⟩ := by
    rw [moved, movedBy, unseen]
    exact travel_self _
  obtain ⟨homes', error, rolls, alike⟩ := homes_after_work homes enabled twin none
  rw [sub_zero] at error rolls
  have now := now_after enabled (by rintro d ⟨⟩)
  have still : start + SimulatedMotor.toward g kp s.drive.full.velocity target *
      Time.toSeconds (s.now - s.now) = start := by simp
  have finding : Shared.findings s [.work ⟨s.sensed, s.sensed⟩] =
      [(s.now, ⟨truncate start, target⟩)] := by
    rw [findings_cons_work, replay_nil, error, twin.odometer]
    rfl
  exact
    { homes := homes'
      full := full_after enabled
      origin := by rw [List.singleton_append, Shared.origin, unseen, Option.getD_none, twin.sensed]
      since := now.ge
      twin := by rw [replay_cons, replay_nil, now, still]; exact rolls
      error := by ring
      began := by rwa [twin.odometer] at began
      findings := ⟨[], finding⟩
      within := by
        rw [finding]
        exact List.forall_mem_singleton.2 ⟨by linarith, le_rfl⟩
      falling := by rw [finding]; exact .singleton _
      alike := forall_mem_trace_cons.2 ⟨alike, List.forall_mem_nil _⟩ }

variable {last : ℕ} {q e : ℝ}

/-- **Between cycles** nothing changes but where the motors stand. -/
theorem Homing.quiet (h : Homing s past kp g start target run last q e) {step : Event ℝ}
    (enabled : (replay s run).Enabled step) (undisturbed : (replay s run).Undisturbed step)
    (idle : ∀ samples, step ≠ .work samples) :
    Homing s past kp g start target (step :: run) last q e := by
  have finding := findings_cons_of_idle (s := s) idle run
  have nothing : (replay s run).orders? step = none := by
    rw [orders?, maneuver?_of_idle undisturbed.quiet idle, Option.map_none]
  have command : commands s (step :: run) = commands s run := trace_cons_of_none nothing
  have onward := now_le_after enabled
  have since := h.since
  have longer : (((replay s (step :: run)).now - last : ℕ) : ℝ) =
      ((replay s run).now - last : ℕ) +
        ((replay s (step :: run)).now - (replay s run).now : ℕ) := by
    rw [replay_cons]
    exact_mod_cast (by omega)
  have rolls := twin_after_of_idle h.twin enabled undisturbed idle
  exact
    { homes := homes_after_of_quiet h.homes enabled undisturbed.quiet idle
      full := (full_after enabled).trans h.full
      origin := origin_cons_of_quiet h.origin undisturbed.quiet
      since := h.since.trans onward
      twin := by
        refine rolls.imp fun m hm => ?_
        rw [Time.toSeconds_real, longer, add_div, mul_add, ← add_assoc, ← Time.toSeconds_real,
          ← Time.toSeconds_real]
        exact hm
      error := h.error
      began := h.began
      findings := by rw [finding]; exact h.findings
      within := by rw [finding]; exact h.within
      falling := by rw [finding]; exact h.falling
      alike := by rw [command]; exact h.alike }

/-- **A cycle that comes in time** finds less of the way before it, or has passed the target by
less than one. -/
theorem Homing.work (h : Homing s past kp g start target run last q e) (ahead : 0 ≤ target)
    (gain : 0 ≤ kp) (full : 0 ≤ s.drive.full.velocity) {period : ℕ}
    (gentle : 6 * kp * s.drive.full.velocity * Time.toSeconds period ≤ 1) {samples : Samples}
    (enabled : (replay s run).Enabled (.work samples))
    (undisturbed : (replay s run).Undisturbed (.work samples))
    (inTime : (replay s run).now = last + period)
    (moved : (replay s run).controller.moved samples = movedBy (run ++ past) samples)
    (fits : FitsReading (replay s run).odometer)
    (way : target ≤ 2 ^ 31 - 1 ∨ FitsReading ((replay s run).odometer - truncate start)) :
    ∃ q' e', Homing s past kp g start target (.work samples :: run) (replay s run).now q' e' := by
  obtain rfl : samples = ⟨(replay s run).sensed, (replay s run).sensed⟩ := undisturbed
  obtain ⟨older, finding⟩ := h.findings
  -- where the motors have come to since the last cycle
  have since : (replay s run).now - last = period := by omega
  have rolled := h.twin
  rw [since] at rolled
  have pull := SimulatedMotor.toward_gentle g gain full (Time.toSeconds_nonneg period) gentle e
  set v := SimulatedMotor.toward g kp s.drive.full.velocity e
  set q' := q + v * Time.toSeconds period
  have stands := rolled.stands
  -- what is left of the way
  have newest : -1 < e ∧ e ≤ target := h.within (last, ⟨truncate q, e⟩) (by simp [finding])
  have made : q' - q = v * Time.toSeconds period := add_sub_cancel_left ..
  rw [← made] at pull
  obtain ⟨low, high, falls⟩ := approach ahead h.error newest.1 newest.2 pull.1 pull.2
  -- what the cycle makes of it
  rw [stands.odometer] at fits way
  have way : FitsReading (truncate q' - truncate start) := by
    refine way.elim (fun near => fitsReading_of_cast ?_ ?_) id <;> push_cast <;> linarith
  rw [movedBy, h.origin, Option.getD_some, stands.sensed, travel_wholeReading h.began fits way]
    at moved
  obtain ⟨homes, error, rolls, alike⟩ :=
    homes_after_work h.homes enabled stands (by rw [stands.sensed]; exact moved)
  rw [h.full] at rolls
  have now := now_after enabled (by rintro d ⟨⟩)
  have still : ∀ w : ℝ, q' + w * Time.toSeconds ((replay s run).now - (replay s run).now) = q' := by
    simp
  refine ⟨q', target - (truncate q' - truncate start), ?_⟩
  have finding' : Shared.findings s
      (.work ⟨(replay s run).sensed, (replay s run).sensed⟩ :: run) =
      ((replay s run).now, ⟨truncate q', target - (truncate q' - truncate start)⟩) ::
        Shared.findings s run := by
    rw [findings_cons_work, error, stands.odometer]
  exact
    { homes := homes
      full := (full_after enabled).trans h.full
      origin := origin_cons_of_quiet h.origin rfl
      since := now.ge
      twin := by rw [replay_cons, now, still]; exact rolls
      error := rfl
      began := h.began
      findings := ⟨_, finding'⟩
      within := by
        rw [finding']
        exact List.forall_mem_cons.2 ⟨⟨low, high⟩, h.within⟩
      falling := by
        have falling := h.falling
        rw [finding', finding]
        rw [finding] at falling
        exact List.isChain_cons_cons.2 ⟨falls, falling⟩
      alike := forall_mem_trace_cons.2 ⟨alike, h.alike⟩ }

end Invariant

/-! ### Runs of a straight move -/

/-- **A controller about to run the first cycle of a straight move**, with a gentle gain, and on
motors that stand alike. -/
structure Poised (s₀ : Shared ℝ) (past : List (Event ℝ)) (kp : ℝ) (x : Length ℝ) (g : Gearset)
    (start : ℝ) : Prop where
  opened : s₀.Opened
  tuned : s₀.controller.Tuned kp
  gain : 0 ≤ kp
  full : 0 ≤ s₀.drive.full.velocity
  gentle : 6 * kp * s₀.drive.full.velocity * Time.toSeconds s₀.controller.period ≤ 1
  possible : Possible s₀ past
  moving : course s₀.controller past = .move x false
  unseen : Shared.origin past = none
  ahead : 0 ≤ s₀.controller.moveTarget x
  twin : (replay s₀ past).Twin (·.Stands g (replay s₀ past).now start)

/-- **A run that nothing interferes with**, with a cycle in every period, and positions that fit. -/
structure Rounds (s : Shared ℝ) (period : ℕ) (run : List (Event ℝ)) : Prop where
  possible : Possible s run
  closed : ClosedLoop s run
  inTime : (findings s run).IsChain fun new old => new.1 = old.1 + period
  positions : ∀ c ∈ findings s run, FitsReading c.2.position

theorem Rounds.before {s : Shared ℝ} {period : ℕ} {e : Event ℝ} {run : List (Event ℝ)}
    (h : Rounds s period (e :: run)) : Rounds s period run where
  possible := h.possible.1
  closed := h.closed.1
  inTime := h.inTime.suffix (findings_suffix s e run)
  positions c hc := h.positions c ((findings_suffix s e run).subset hc)

section Runs

variable {s₀ : Shared ℝ} {past : List (Event ℝ)} {kp : ℝ} {x : Length ℝ} {g : Gearset} {start : ℝ}

theorem Poised.homes (h : Poised s₀ past kp x g start) :
    (replay s₀ past).controller.Homes kp (s₀.controller.moveTarget x) := by
  obtain ⟨mode, distance, angle, -⟩ := h.moving ▸ (h.possible.tracks h.opened).fits
  replace mode : (replay s₀ past).controller.mode = .distance := mode
  have memory := memory_of_unseen h.opened h.tuned.real h.possible h.unseen
  rw [mode] at memory
  exact
    { tuned := tuned_replay h.possible h.tuned
      mode := mode
      distance := distance
      angle := angle
      forward := ⟨none, memory .distance (by decide)⟩
      yaw := ⟨none, memory .angle (by decide), nofun⟩ }

/-- Within the move every cycle finds the travel since its first cycle. -/
theorem Poised.moved (h : Poised s₀ past kp x g start) {run : List (Event ℝ)}
    (possible : Possible (replay s₀ past) run)
    (homes : (replay (replay s₀ past) run).controller.Homes kp (s₀.controller.moveTarget x))
    (samples : Samples) :
    (replay (replay s₀ past) run).controller.moved samples = movedBy (run ++ past) samples := by
  have mode := homes.mode
  rw [← replay_append] at mode ⊢
  exact moved_eq_movedBy h.opened (h.possible.append possible) (by rw [mode]; decide) samples

theorem Poised.first (h : Poised s₀ past kp x g start) {samples : Samples}
    (enabled : (replay s₀ past).Enabled (.work samples))
    (undisturbed : (replay s₀ past).Undisturbed (.work samples))
    (began : FitsReading (replay s₀ past).odometer) :
    Homing (replay s₀ past) past kp g start (s₀.controller.moveTarget x) [.work samples]
      (replay s₀ past).now start (s₀.controller.moveTarget x) :=
  .first h.homes h.ahead h.twin enabled undisturbed h.unseen began
    (h.moved (show Possible (replay s₀ past) [] from trivial) h.homes samples)

/-- **The invariant of every run** that nothing interferes with, and in which the travel fits. -/
theorem Poised.homing (h : Poised s₀ past kp x g start) {later : List (Event ℝ)} {first : Samples}
    (rounds : Rounds (replay s₀ past) s₀.controller.period (later ++ [.work first]))
    (ways : s₀.controller.moveTarget x ≤ 2 ^ 31 - 1 ∨
      ∀ c ∈ findings (replay s₀ past) (later ++ [.work first]),
        FitsReading (c.2.position - (replay s₀ past).odometer)) :
    ∃ last q e, Homing (replay s₀ past) past kp g start (s₀.controller.moveTarget x)
      (later ++ [.work first]) last q e := by
  -- induction on what followed the first cycle
  induction later with
  | nil =>
      obtain ⟨⟨-, enabled⟩, ⟨-, undisturbed⟩, -, positions⟩ := rounds
      obtain ⟨began, -⟩ := List.forall_mem_cons.1 positions
      exact ⟨_, _, _, h.first enabled undisturbed began⟩
  | cons step later ih =>
      have kept := (findings_suffix (replay s₀ past) step (later ++ [.work first])).subset
      obtain ⟨last, q, e, homing⟩ :=
        ih rounds.before (ways.imp_right fun ways c hc => ways c (kept hc))
      obtain ⟨⟨before, enabled⟩, ⟨-, undisturbed⟩, inTime, positions⟩ := rounds
      by_cases cycle : ∃ samples, step = .work samples
      · obtain ⟨samples, rfl⟩ := cycle
        obtain ⟨older, finding⟩ := homing.findings
        have onTime : (replay (replay s₀ past) (later ++ [.work first])).now =
            last + s₀.controller.period := by
          rw [List.cons_append, findings_cons_work, finding] at inTime
          exact inTime.rel
        obtain ⟨fits, -⟩ := List.forall_mem_cons.1 positions
        have way := ways.imp_right fun ways => (List.forall_mem_cons.1 ways).1
        rw [h.twin.odometer] at way
        have full := congrArg Maxima.velocity (full_replay h.possible)
        have moved := h.moved before homing.homes samples
        obtain ⟨q', e', homing'⟩ := homing.work h.ahead h.gain (full ▸ h.full) (full ▸ h.gentle)
          enabled undisturbed onTime moved fits way
        exact ⟨_, q', e', homing'⟩
      · exact ⟨last, q, e, homing.quiet enabled undisturbed (not_exists.1 cycle)⟩

end Runs

/-! ### The theorem -/

/-- **A straight move comes to its target without going past it.**  A proportional distance loop
with a gentle gain drives simulated motors that stand alike, a cycle comes once in every period from
the first cycle of the move on, nothing interferes with the move, and the positions fit in
thirty-two bits, as does the target, or else the travel itself.  Then every cycle leaves an error
above minus one and no larger than the target, and no larger than the one before unless that was
negative; and every order is the same for both motors. -/
theorem homes_without_overshoot {s₀ : Shared ℝ} {past : List (Event ℝ)} {kp : ℝ} {x : Length ℝ}
    {g : Gearset} {start : ℝ} (poised : Poised s₀ past kp x g start) {later : List (Event ℝ)}
    {first : Samples}
    (rounds : Rounds (replay s₀ past) s₀.controller.period (later ++ [.work first]))
    (ways : s₀.controller.moveTarget x ≤ 2 ^ 31 - 1 ∨
      ∀ c ∈ findings (replay s₀ past) (later ++ [.work first]),
        FitsReading (c.2.position - (replay s₀ past).odometer)) :
    (∀ c ∈ findings (replay s₀ past) (later ++ [.work first]),
        -1 < c.2.error ∧ c.2.error ≤ s₀.controller.moveTarget x) ∧
      ((findings (replay s₀ past) (later ++ [.work first])).IsChain fun new old =>
        0 ≤ old.2.error → new.2.error ≤ old.2.error) ∧
      ∀ c ∈ commands (replay s₀ past) (later ++ [.work first]), c.2 .left = c.2 .right := by
  obtain ⟨last, q, e, homing⟩ := poised.homing rounds ways
  exact ⟨homing.within, homing.falling, homing.alike⟩

/-! ### Two cycles -/

/-- A first cycle, and then a period without one. -/
noncomputable def coast (s : Shared ℝ) (period : ℕ) : List (Event ℝ) :=
  [.wake, .pass period, .work ⟨s.sensed, s.sensed⟩]

/-- Two cycles, the second a period after the first. -/
noncomputable def twoCycles (s : Shared ℝ) (period : ℕ) : List (Event ℝ) :=
  let next := replay s (coast s period)
  .work ⟨next.sensed, next.sensed⟩ :: coast s period

theorem twoCycles_eq (s : Shared ℝ) (period : ℕ) :
    twoCycles s period =
      [.work ⟨(replay s (coast s period)).sensed, (replay s (coast s period)).sensed⟩, .wake,
        .pass period] ++ [.work ⟨s.sensed, s.sensed⟩] :=
  rfl

section TwoCycles

variable {s₀ : Shared ℝ} {past : List (Event ℝ)} {kp : ℝ} {x : Length ℝ} {g : Gearset} {start : ℝ}

theorem possible_coast {s : Shared ℝ} (awake : s.worker = .awake) (period : ℕ) :
    Possible s (coast s period) := by
  refine ⟨⟨⟨trivial, awake⟩, trivial⟩, ?_⟩
  show (s.after (.work ⟨s.sensed, s.sensed⟩)).worker = .resting
  rw [after_work, worker_steer]

theorem Poised.coasting (h : Poised s₀ past kp x g start)
    (awake : (replay s₀ past).worker = .awake) (began : FitsReading (replay s₀ past).odometer)
    (period : ℕ) :
    Homing (replay s₀ past) past kp g start (s₀.controller.moveTarget x)
      (coast (replay s₀ past) period) (replay s₀ past).now start (s₀.controller.moveTarget x) := by
  obtain ⟨-, rests⟩ := possible_coast awake period
  have first := h.first awake rfl began
  have passed : Homing (replay s₀ past) past kp g start (s₀.controller.moveTarget x)
      (.pass period :: [.work ⟨(replay s₀ past).sensed, (replay s₀ past).sensed⟩])
      (replay s₀ past).now start (s₀.controller.moveTarget x) := by
    refine first.quiet ?_ ?_ nofun
    · exact trivial
    · exact rfl
  refine passed.quiet rests ?_ nofun
  exact rfl

/-- After a period the thread of the cycle is awake again. -/
theorem Poised.awake_coast (h : Poised s₀ past kp x g start)
    (awake : (replay s₀ past).worker = .awake) (began : FitsReading (replay s₀ past).odometer)
    (period : ℕ) :
    (replay (replay s₀ past) (coast (replay s₀ past) period)).worker = .awake := by
  have mode := (h.coasting awake began period).homes.mode
  have tracks := (h.possible.append (possible_coast awake period)).tracks h.opened
  rw [replay_append] at tracks
  have busy : (replay (replay s₀ past) (coast (replay s₀ past) period)).controller.idle ≠ true :=
    fun idle => by
      have none := tracks.idle.2 idle
      rw [Controller.posture, mode] at none
      cases none
  exact if_neg busy

/-- **What two cycles find**: the second measures a travel that may have wrapped. -/
theorem Poised.findings_twoCycles (h : Poised s₀ past kp x g start)
    (awake : (replay s₀ past).worker = .awake) (began : FitsReading (replay s₀ past).odometer)
    (period : ℕ) {q : ℝ}
    (rolled : start + SimulatedMotor.toward g kp s₀.drive.full.velocity
      (s₀.controller.moveTarget x) * Time.toSeconds period = q) :
    findings (replay s₀ past) (twoCycles (replay s₀ past) period) =
      [((replay s₀ past).now + period,
          ⟨truncate q, s₀.controller.moveTarget x -
            travelled (Drive.wholeReading start) (Drive.wholeReading q)⟩),
        ((replay s₀ past).now, ⟨truncate start, s₀.controller.moveTarget x⟩)] := by
  have homing := h.coasting awake began period
  have possible := possible_coast awake period
  have enabled := h.awake_coast awake began period
  -- the first cycle
  obtain ⟨older, finding⟩ := homing.findings
  obtain rfl : older = [] := by
    rw [coast, findings_cons_of_idle (e := .wake) nofun,
      findings_cons_of_idle (e := .pass period) nofun, findings_cons_work] at finding
    exact (List.cons.inj finding).2.symm
  -- where the motors have come to a period later
  have now : (replay (replay s₀ past) (coast (replay s₀ past) period)).now =
      (replay s₀ past).now + period :=
    congrArg (· + period) (now_after (e := .work _) awake nofun)
  have rolls := homing.twin
  have full := congrArg Maxima.velocity (full_replay h.possible)
  rw [now, Nat.add_sub_cancel_left, full, rolled, ← now] at rolls
  have stands := rolls.stands
  -- the second cycle
  have moved := h.moved possible homing.homes
    ⟨(replay (replay s₀ past) (coast (replay s₀ past) period)).sensed,
      (replay (replay s₀ past) (coast (replay s₀ past) period)).sensed⟩
  rw [movedBy, homing.origin, Option.getD_some, stands.sensed] at moved
  obtain ⟨-, error, -⟩ := homes_after_work homing.homes enabled stands moved
  rw [twoCycles, findings_cons_work, finding, now, stands.odometer, stands.sensed, error]
  rfl

/-- Two cycles a period apart are a run that nothing interferes with, where both positions fit. -/
theorem Poised.rounds (h : Poised s₀ past kp x g start) (awake : (replay s₀ past).worker = .awake)
    (began : FitsReading (truncate start)) {q : ℝ}
    (rolled : start + SimulatedMotor.toward g kp s₀.drive.full.velocity
      (s₀.controller.moveTarget x) * Time.toSeconds s₀.controller.period = q)
    (fits : FitsReading (truncate q)) :
    Rounds (replay s₀ past) s₀.controller.period
      (twoCycles (replay s₀ past) s₀.controller.period) := by
  have began' : FitsReading (replay s₀ past).odometer := by rwa [h.twin.odometer]
  have finding := h.findings_twoCycles awake began' s₀.controller.period rolled
  refine
    { possible := ⟨possible_coast awake _, h.awake_coast awake began' _⟩
      closed := ⟨⟨⟨⟨trivial, rfl⟩, rfl⟩, rfl⟩, rfl⟩
      inTime := ?_
      positions := ?_ }
  · rw [finding]
    exact List.isChain_cons_cons.2 ⟨rfl, .singleton _⟩
  · rw [finding]
    exact List.forall_mem_cons.2 ⟨fits, List.forall_mem_singleton.2 began⟩

end TwoCycles

/-- A chassis on two simulated motors that stand at an angle, with a proportional distance loop:
encoder degrees for units, direct gears. -/
noncomputable def cruiser (kp full start : ℝ) (g : Gearset) (period : {n : ℕ // 0 < n}) :
    Shared ℝ :=
  let loop := fun kp => Loop.position (.new ⟨kp, 0, 0, 0⟩ .standard period.1)
  let motor : Motor ℝ := .simulated { SimulatedMotor.new g 0 with position := start }
  ideal (loop kp) (loop 0) (loop 0) (.direct g) .unit period
    ⟨.pair motor motor, .builtIn, ⟨full, battery⟩⟩

section Cruiser

variable {kp full start x : ℝ} {g : Gearset} {period : {n : ℕ // 0 < n}}

theorem opened_cruiser : (cruiser kp full start g period).Opened :=
  opened_ideal one_ne_zero one_pos one_pos ..

theorem worker_cruiser :
    (replay (cruiser kp full start g period) (setOut (.move ⟨x⟩) ⟨0, 0⟩)).worker = .awake := by
  rw [replay_setOut opened_cruiser (Controller.motion?_move rfl ⟨x⟩)]

theorem moveTarget_cruiser :
    (cruiser kp full start g period).controller.moveTarget ⟨x⟩ = x := by
  show x * 1 * 1 = x
  rw [mul_one, mul_one]

theorem poised_cruiser (gain : 0 ≤ kp) (fast : 0 ≤ full)
    (gentle : 6 * kp * full * Time.toSeconds period.1 ≤ 1) (ahead : 0 ≤ x) :
    Poised (cruiser kp full start g period) (setOut (.move ⟨x⟩) ⟨0, 0⟩) kp ⟨x⟩ g start where
  opened := opened_cruiser
  tuned :=
    { real := fun slot => by cases slot <;> rfl
      distance := ⟨_, rfl, rfl, rfl, rfl⟩
      angle := ⟨_, _, rfl, ⟨rfl, rfl, rfl⟩, rfl⟩ }
  gain := gain
  full := fast
  gentle := gentle
  possible := (possible_setOut opened_cruiser (Controller.motion?_move rfl ⟨x⟩) ⟨0, 0⟩
    ⟨⟨0, 0⟩, ⟨0, 0⟩⟩).1
  moving := rfl
  unseen := rfl
  ahead := by rwa [moveTarget_cruiser]
  twin := by
    rw [replay_setOut opened_cruiser (Controller.motion?_move rfl ⟨x⟩)]
    refine ⟨rfl, _, _, rfl, ⟨rfl, rfl, ?_⟩, ⟨rfl, rfl, ?_⟩⟩
    all_goals simp [SimulatedMotor.turned, SimulatedMotor.advance, SimulatedMotor.new, cruiser,
      ideal]

end Cruiser

/-- A move that starts below zero, with a gain as large as it may be. -/
theorem homes_without_overshoot_of_cruiser :
    let s := replay (cruiser (1 / 6) 100 (-7 / 2) .green ⟨10000000, by decide⟩)
      (setOut (.move ⟨100⟩) ⟨0, 0⟩)
    ∀ c ∈ findings s (twoCycles s 10000000), -1 < c.2.error ∧ c.2.error ≤ 100 := by
  intro s
  have gentle : (6 : ℝ) * (1 / 6) * 100 * Time.toSeconds 10000000 ≤ 1 := by
    rw [Time.toSeconds_real]
    norm_num
  have poised : Poised (cruiser (1 / 6) 100 (-7 / 2) .green ⟨10000000, by decide⟩)
      (setOut (.move ⟨100⟩) ⟨0, 0⟩) (1 / 6) ⟨100⟩ .green (-7 / 2) :=
    poised_cruiser (by norm_num) (by norm_num) gentle (by norm_num)
  have target : (cruiser (1 / 6) 100 (-7 / 2) .green ⟨10000000, by decide⟩).controller.moveTarget
      ⟨100⟩ = 100 := moveTarget_cruiser
  -- in one period the motors make the whole way at most
  obtain ⟨onward, no_further⟩ := (SimulatedMotor.toward_gentle .green
    (by norm_num : (0 : ℝ) ≤ 1 / 6) (by norm_num : (0 : ℝ) ≤ 100) (Time.toSeconds_nonneg _) gentle
    100).1 (by norm_num)
  set way := SimulatedMotor.toward .green (1 / 6) 100 100 * Time.toSeconds 10000000
  have rolled : (-7 / 2 : ℝ) + SimulatedMotor.toward .green (1 / 6) 100
      ((cruiser (1 / 6) 100 (-7 / 2) .green ⟨10000000, by decide⟩).controller.moveTarget ⟨100⟩) *
        Time.toSeconds 10000000 = -7 / 2 + way := by
    rw [target]
  have began : FitsReading (truncate (-7 / 2 : ℝ)) :=
    fitsReading_truncate (by norm_num) (by norm_num)
  have fits : FitsReading (truncate (-7 / 2 + way)) :=
    fitsReading_truncate (by linarith) (by linarith)
  have rounds := poised.rounds worker_cruiser began rolled fits
  rw [twoCycles_eq] at rounds ⊢
  obtain ⟨within, -⟩ := homes_without_overshoot poised rounds (.inl (by rw [target]; norm_num))
  rw [target] at within
  exact within

/-- **A run whose travel does not fit.**  The motors stand so far below zero that they turn by more
than thirty-two bits can hold in one period, though neither of their positions is out of range.
Then the error jumps over the target. -/
theorem overshoots_by_wrapping :
    let period : {n : ℕ // 0 < n} := ⟨600000000000000, by decide⟩
    let far := cruiser (1 / 4294967296) 600 (-1080000000) .blue period
    let past : List (Event ℝ) := setOut (.move ⟨4294967296⟩) ⟨0, 0⟩
    Poised far past (1 / 4294967296) ⟨4294967296⟩ .blue (-1080000000) ∧
      Rounds (replay far past) period.1 (twoCycles (replay far past) period.1) ∧
      ∃ c ∈ findings (replay far past) (twoCycles (replay far past) period.1),
        far.controller.moveTarget ⟨4294967296⟩ < c.2.error := by
  intro period far past
  have target : far.controller.moveTarget ⟨4294967296⟩ = 4294967296 := moveTarget_cruiser
  have poised : Poised far past (1 / 4294967296) ⟨4294967296⟩ .blue (-1080000000) := by
    refine poised_cruiser (by norm_num) (by norm_num) ?_ (by norm_num)
    rw [Time.toSeconds_real]
    norm_num [period]
  -- both motors turn at full speed for the whole period
  have pulled : SimulatedMotor.toward .blue (1 / 4294967296) 600 4294967296 = 3600 := by
    have order : (Mixing.command (1 : ℝ) 600).toInt = 600 := by
      have whole : truncate (600 : ℝ) = 600 := by exact_mod_cast Scalar.truncate_intCast 600
      rw [Mixing.command, toInt_ofIntClamp, one_mul, whole]
      decide
    rw [SimulatedMotor.toward, Mixing.clampUnit_real]
    norm_num [SimulatedMotor.pull_eq, order, Gearset.freeSpeed]
  have rolled : (-1080000000 : ℝ) + SimulatedMotor.toward .blue (1 / 4294967296) 600
      (far.controller.moveTarget ⟨4294967296⟩) * Time.toSeconds period.1 = 1080000000 := by
    rw [target, pulled, Time.toSeconds_real]
    norm_num [period]
  have began : FitsReading (truncate (-1080000000 : ℝ)) :=
    fitsReading_truncate (by norm_num) (by norm_num)
  have fits : FitsReading (truncate (1080000000 : ℝ)) :=
    fitsReading_truncate (by norm_num) (by norm_num)
  have finding := poised.findings_twoCycles worker_cruiser (by rwa [poised.twin.odometer]) period.1
    rolled
  refine ⟨poised, poised.rounds worker_cruiser began rolled fits, ?_⟩
  rw [finding]
  refine ⟨_, List.mem_cons_self, ?_⟩
  -- the travel has wrapped to one that seems to lead away from the target
  have wrapped : travelled (Drive.wholeReading (-1080000000 : ℝ))
      (Drive.wholeReading (1080000000 : ℝ)) = -2134967296 := by
    have start : truncate (-1080000000 : ℝ) = -1080000000 := by
      exact_mod_cast Scalar.truncate_intCast (-1080000000)
    have reached : truncate (1080000000 : ℝ) = 1080000000 := by
      exact_mod_cast Scalar.truncate_intCast 1080000000
    rw [Drive.wholeReading, Drive.wholeReading, start, reached]
    decide
  show far.controller.moveTarget ⟨4294967296⟩ < _ - _
  rw [target, wrapped]
  norm_num

end Shared

end Drivetrain
