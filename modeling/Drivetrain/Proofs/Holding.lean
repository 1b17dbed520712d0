/-
What a wait that finished a move has seen of its tolerances.

A move counts as settled when both of its loops report, and a loop reports when its error has been
within tolerance at every check for its settle time.  Polls check the distance loop first and the
angle loop only if the distance loop reports.  While the distance loop does not, nobody looks at the
angle loop, and its timer runs on whatever its error does.

So the errors of a finished move need not have been within tolerance at every poll of the settle
time.  They were at the polls that asked for them; at the others, and at the very first instant of
the settle time, nothing is known.  The theorem of this module says both.

Main definitions:

* `Drivetrain.Shared.Sight`, `Drivetrain.Shared.sights` — what the polls since the last launch have
  come upon;
* `Drivetrain.Loop.Clocked` — what a running settle timer says of past polls;
* `Drivetrain.Shared.InWindow`, `Drivetrain.Shared.AtEdge`, `Drivetrain.Shared.Within` — the settle
  time before an instant, its first instant, and the tolerance;
* `Drivetrain.Shared.HeldThroughout`, `Drivetrain.Shared.HeldWatched`,
  `Drivetrain.Shared.HeldUnwatched` — the errors within tolerance at all polls of the settle time,
  at those that the timer has watched, and at the others.

Main results:

* `Drivetrain.Loop.Clocked.check` — a check keeps the timer true;
* `Drivetrain.Shared.Possible.timersTrue` — **the invariant of every run**;
* `Drivetrain.Shared.finished_within_iff` — when the errors of a finished move were within tolerance
  throughout;
* `Drivetrain.Shared.finished_out_of_tolerance` — a run in which they were not.
-/

import Drivetrain.Proofs.Ending
import Drivetrain.Proofs.Machine

set_option relaxedAutoImplicit false
set_option autoImplicit false

namespace Drivetrain

variable {α : Type} [Scalar α]

/-! ### Settle timers -/

namespace Loop

/-- The switch and the settling of a position loop. -/
def clock : Loop α → Option (Bool × Settling α)
  | position p => some (p.disabled, p.settling)
  | scripted _ => none

omit [Scalar α] in
theorem clock_of_settle? {l : Loop α} {settings : SettleSettings α}
    (h : l.settle? = some settings) (on : l.isDisabled = false) :
    ∃ s, l.clock = some (false, s) ∧ s.settings = settings := by
  cases l with
  | position p =>
      refine ⟨p.settling, ?_, Option.some.inj h⟩
      exact congrArg (fun b => some (b, p.settling)) on
  | scripted l => cases h

theorem clock_step (x : α) (now : Nat) (l : Loop α) : (l.step x now).1.clock = l.clock := by
  cases l with
  | position p =>
      obtain ⟨-, disabled, settling⟩ := p.step_keeps x now
      simp only [step, clock, disabled, settling]
  | scripted s => rfl

omit [Scalar α] in
theorem clock_script (f : ScriptedLoop α → ScriptedLoop α) (l : Loop α) :
    (l.script f).clock = l.clock := by
  cases l <;> rfl

omit [Scalar α] in
theorem clock_setDisabled {l : Loop α} {s : Settling α} :
    (l.setDisabled true).clock ≠ some (false, s) := by
  cases l <;> simp [setDisabled, clock, Pid.setDisabled]

theorem enteredAt_of_reset {l : Loop α} {target : α} {s : Settling α}
    (h : ((l.reset.setDisabled false).setTarget target).clock = some (false, s)) :
    s.enteredAt = none := by
  cases l with
  | position p => cases h; rfl
  | scripted l => cases h

/-- A check of a loop that is switched on is a check of its settling. -/
theorem clock_checkSettled {l : Loop α} {s : Settling α} (h : l.clock = some (false, s))
    (now : Nat) :
    (l.checkSettled now).1 = (s.check l.error now).1 ∧
      (l.checkSettled now).2.clock = some (false, (s.check l.error now).2) := by
  cases l with
  | position p =>
      obtain ⟨disabled, rfl⟩ := Prod.mk.inj (Option.some.inj h)
      simp only [checkSettled, error, clock, Pid.checkSettled_of_enabled disabled, disabled,
        and_self]
  | scripted l => cases h

/-- A timer that runs after a check belongs to a loop that was switched on before it. -/
theorem clock_of_checkSettled {l : Loop α} {now : Nat} {s : Settling α}
    (h : (l.checkSettled now).2.clock = some (false, s)) :
    ∃ before, l.clock = some (false, before) := by
  cases l with
  | position p =>
      obtain ⟨-, disabled, -⟩ := p.checkSettled_keeps now
      refine ⟨p.settling, ?_⟩
      rw [clock, ← disabled]
      exact congrArg (fun b => some (b, p.settling)) (Prod.mk.inj (Option.some.inj h)).1
  | scripted l => cases h

variable {β : Type}

/-- **What a running settle timer says of past polls**: it was started no later than now, and every
poll since that asked for the loop found an error within tolerance. -/
def Clocked (l : Loop α) (time : β → Nat) (asked : β → Bool) (error : β → α) (sights : List β)
    (now : Nat) : Prop :=
  ∀ s t, l.clock = some (false, s) → s.enteredAt = some t →
    t ≤ now ∧ ∀ x ∈ sights, asked x = true → t < time x → ¬ s.settings.error < Scalar.abs (error x)

namespace Clocked

variable {l l' : Loop α} {time : β → Nat} {asked : β → Bool} {error : β → α} {sights : List β}
  {now : Nat}

theorem of_clock (h : l.Clocked time asked error sights now) (same : l'.clock = l.clock) (d : Nat) :
    l'.Clocked time asked error sights (now + d) := by
  intro s t hs ht
  obtain ⟨le, within⟩ := h s t (same ▸ hs) ht
  exact ⟨by omega, within⟩

theorem skip (h : l.Clocked time asked error sights now) {x : β} (hx : asked x = false) :
    l.Clocked time asked error (x :: sights) now := by
  intro s t hs ht
  obtain ⟨le, within⟩ := h s t hs ht
  refine ⟨le, fun y hy ha => ?_⟩
  rcases List.mem_cons.1 hy with rfl | hy
  · rw [hx] at ha
    cases ha
  · exact within y hy ha

/-- **A check keeps the timer true**: an error out of tolerance stops it, and one within tolerance
lets it run on or starts it now. -/
theorem check (h : l.Clocked time asked error sights now) (past : ∀ x ∈ sights, time x ≤ now)
    {x : β} (hx : error x = l.error) (hn : time x = now) :
    (l.checkSettled now).2.Clocked time asked error (x :: sights) now := by
  intro s t hs ht
  obtain ⟨before, hb⟩ := clock_of_checkSettled hs
  obtain ⟨-, checked⟩ := clock_checkSettled hb now
  rw [hs] at checked
  obtain ⟨-, rfl⟩ := Prod.mk.inj (Option.some.inj checked)
  obtain ⟨inside, ran | rfl⟩ := Settling.enteredAt_check ht
  · obtain ⟨le, within⟩ := h before t hb ran
    refine ⟨le, fun y hy ha later => ?_⟩
    rw [Settling.settings_check]
    rcases List.mem_cons.1 hy with rfl | hy
    · rw [hx]
      exact Settling.not_lt_of_outside inside
    · exact within y hy ha later
  · -- started now: no poll was made later
    refine ⟨le_refl t, fun y hy ha later => ?_⟩
    rcases List.mem_cons.1 hy with rfl | hy
    · omega
    · have := past y hy
      omega

/-- When a loop that is switched on reports, every poll strictly within its settle time that asked
for it found an error within tolerance. -/
theorem within (h : l.Clocked time asked error sights now) {s : Settling α}
    (hs : l.clock = some (false, s)) (settled : (l.checkSettled now).1 = true) {x : β}
    (hx : x ∈ sights) (ha : asked x = true)
    (inside : now < time x + Time.ofMilliseconds s.settings.milliseconds) :
    ¬ s.settings.error < Scalar.abs (error x) := by
  rw [(clock_checkSettled hs now).1] at settled
  obtain ⟨-, t, ht, held⟩ := Settling.of_check settled
  obtain ⟨le, within⟩ := h s t hs ht
  exact within x hx ha (by omega)

end Clocked

end Loop

namespace Shared

/-! ### What polls come upon -/

/-- **What a poll comes upon**: when it was made, the errors of the loops of a move, and which of
them it asked for. -/
structure Sight (α : Type) where
  time : Nat
  distance : α
  angle : α
  askedDistance : Bool
  askedAngle : Bool

/-- What a poll comes upon that sees something.  The angle loop is asked once the distance loop has
reported. -/
def sight (s : Shared α) (seen : Controller.Verdict) : Sight α :=
  let asked := decide (s.controller.mode = .distance) && decide (seen ≠ .superseded)
  { time := s.now
    distance := s.controller.distance.error
    angle := s.controller.angle.error
    askedDistance := asked
    askedAngle := asked && (s.controller.distance.checkSettled s.now).1 }

/-- **What the polls since the last launch have come upon.** -/
def sights (s₀ : Shared α) : List (Event α) → List (Sight α)
  | [] => []
  | .launch _ :: _ => []
  | .poll _ seen :: past => (replay s₀ past).sight seen :: sights s₀ past
  | _ :: past => sights s₀ past

/-- **What every run keeps of its timers.** -/
structure TimersTrue (s₀ : Shared α) (past : List (Event α)) (s : Shared α) : Prop where
  /-- No poll was made later than now. -/
  earlier : ∀ x ∈ sights s₀ past, x.time ≤ s.now
  distance : s.controller.mode = .distance →
    s.controller.distance.Clocked Sight.time Sight.askedDistance Sight.distance (sights s₀ past)
      s.now
  angle : s.controller.mode = .distance →
    s.controller.angle.Clocked Sight.time Sight.askedAngle Sight.angle (sights s₀ past) s.now

theorem TimersTrue.of_clock {s₀ s s' : Shared α} {past past' : List (Event α)}
    (h : TimersTrue s₀ past s) (sights : sights s₀ past' = sights s₀ past) (d : Nat)
    (now : s'.now = s.now + d) (mode : s'.controller.mode = s.controller.mode)
    (distance : s'.controller.distance.clock = s.controller.distance.clock)
    (angle : s'.controller.angle.clock = s.controller.angle.clock) : TimersTrue s₀ past' s' where
  earlier x hx := by
    rw [sights] at hx
    rw [now]
    exact (h.earlier x hx).trans (Nat.le_add_right ..)
  distance hm := by
    rw [mode] at hm
    rw [sights, now]
    exact (h.distance hm).of_clock distance d
  angle hm := by
    rw [mode] at hm
    rw [sights, now]
    exact (h.angle hm).of_clock angle d

theorem TimersTrue.earlier_cons {s₀ s : Shared α} {past : List (Event α)}
    (h : TimersTrue s₀ past s) (seen : Controller.Verdict) :
    ∀ x ∈ s.sight seen :: sights s₀ past, x.time ≤ s.now := by
  intro x hx
  rcases List.mem_cons.1 hx with rfl | hx
  · exact le_refl s.now
  · exact h.earlier x hx

/-- On a move the check of a poll keeps both timers true. -/
theorem TimersTrue.check {s₀ s : Shared α} {past : List (Event α)} (h : TimersTrue s₀ past s)
    (hm : s.controller.mode = .distance) (seen : Controller.Verdict) :
    let c := (s.controller.checkSettled s.now .distance).2
    let xs := s.sight seen :: sights s₀ past
    c.distance.Clocked Sight.time Sight.askedDistance Sight.distance xs s.now ∧
      c.angle.Clocked Sight.time Sight.askedAngle Sight.angle xs s.now := by
  intro c xs
  by_cases there : (s.controller.distance.checkSettled s.now).1 = true
  · have both : c = { s.controller with
        distance := (s.controller.distance.checkSettled s.now).2
        angle := (s.controller.angle.checkSettled s.now).2 } :=
      congrArg Prod.snd (Controller.checkSettled_distance_of_settled there)
    rw [both]
    exact ⟨(h.distance hm).check h.earlier rfl rfl, (h.angle hm).check h.earlier rfl rfl⟩
  · have one : c = { s.controller with
        distance := (s.controller.distance.checkSettled s.now).2 } :=
      congrArg Prod.snd (Controller.checkSettled_distance_of_unsettled there)
    rw [one]
    exact ⟨(h.distance hm).check h.earlier rfl rfl, (h.angle hm).skip (by simp [sight, there])⟩

theorem clock_cycle (c : Controller α) (samples : Controller.Samples) (now : Nat) :
    (c.cycle samples now).1.distance.clock = c.distance.clock ∧
      (c.cycle samples now).1.angle.clock = c.angle.clock := by
  cases hm : c.mode with
  | none => rw [Controller.cycle_of_none hm]; exact ⟨rfl, rfl⟩
  | distance =>
      rw [Controller.cycle_of_distance hm]
      exact ⟨Loop.clock_step .., Loop.clock_step ..⟩
  | angle => rw [Controller.cycle_of_angle hm]; exact ⟨rfl, rfl⟩

omit [Scalar α] in
theorem clock_script (c : Controller α) (slot : Slot) (f : ScriptedLoop α → ScriptedLoop α) :
    (c.script slot f).distance.clock = c.distance.clock ∧
      (c.script slot f).angle.clock = c.angle.clock := by
  cases slot with
  | distance => exact ⟨Loop.clock_script .., rfl⟩
  | turn => exact ⟨rfl, rfl⟩
  | angle => exact ⟨rfl, Loop.clock_script ..⟩

theorem TimersTrue.step {s₀ s : Shared α} {past : List (Event α)} {e : Event α}
    (h : TimersTrue s₀ past s) (here : replay s₀ past = s) (enabled : s.Enabled e) :
    TimersTrue s₀ (e :: past) (s.after e) := by
  cases e with
  | ask i r =>
      cases hr : s.controller.motion? r with
      | some m => rw [after_ask_of_accepted hr]; exact h.of_clock rfl 0 rfl rfl rfl rfl
      | none =>
          rw [after_ask_of_none hr]
          cases r with
          | stop =>
              -- a stop switches the loops off, and then no timer runs
              exact
                { earlier := h.earlier
                  distance := fun _ s t running => absurd running Loop.clock_setDisabled
                  angle := fun _ s t running => absurd running Loop.clock_setDisabled }
          | _ => exact h.of_clock rfl 0 rfl rfl rfl rfl
  | launch i =>
      -- a move resets its loops, and a turn is no move
      obtain ⟨m, -, e⟩ := launch_cases enabled
      rw [e]
      refine ⟨nofun, fun hm s t running ht => ?_, fun hm s t running ht => ?_⟩
      all_goals
        cases m with
        | move x => rw [Loop.enteredAt_of_reset running] at ht; cases ht
        | turn x mirrored => cases hm
  | poll i seen =>
      have checked := fun watched => (s.controller.checkSettled_resembles s.now watched).mode
      have more : sights s₀ (.poll i seen :: past) = s.sight seen :: sights s₀ past := by
        rw [sights, here]
      have earlier := h.earlier_cons seen
      rw [← more] at earlier
      obtain ⟨watched, -, ⟨rfl, -, e⟩ | ⟨rfl, rfl, -, e⟩ | ⟨rfl, -, -, e⟩⟩ := poll_cases enabled
      · rw [e]
        refine ⟨earlier, fun hm => ?_, fun hm => ?_⟩
        · rw [more]
          exact (h.distance hm).skip (by simp [sight])
        · rw [more]
          exact (h.angle hm).skip (by simp [sight])
      · -- pending: the loops were asked, and the mode is as it was
        rw [e]
        refine ⟨earlier, fun hm => ?_, fun hm => ?_⟩
        all_goals
          replace hm := (checked _).symm.trans hm
          rw [more]
          simp only [hm]
        · exact (h.check hm _).1
        · exact (h.check hm _).2
      · rw [e]
        exact { earlier := earlier, distance := nofun, angle := nofun }
  | work samples =>
      have alike := s.controller.cycle_resembles samples s.now
      obtain ⟨distance, angle⟩ := clock_cycle s.controller samples s.now
      rw [← controller_after_work] at alike distance angle
      refine h.of_clock rfl 0 ?_ alike.mode distance angle
      simp only [after, now_steer, Nat.add_zero]
  | scriptOutput slot x =>
      obtain ⟨distance, angle⟩ := clock_script s.controller slot fun l => { l with output := x }
      exact h.of_clock rfl 0 rfl (s.resembles_after_scriptOutput slot x).mode distance angle
  | scriptSettled slot b =>
      obtain ⟨distance, angle⟩ := clock_script s.controller slot fun l => { l with settled := b }
      exact h.of_clock rfl 0 rfl (s.resembles_after_scriptSettled slot b).mode distance angle
  | pass d => exact h.of_clock rfl d rfl rfl rfl rfl
  | _ => exact h.of_clock rfl 0 rfl rfl rfl rfl

/-- **The invariant of every run.** -/
theorem Possible.timersTrue {s₀ : Shared α} (opened : s₀.Opened) {past : List (Event α)}
    (possible : Possible s₀ past) : TimersTrue s₀ past (replay s₀ past) := by
  refine Possible.invariant (P := TimersTrue s₀) ?_ ?_ possible
  · obtain ⟨⟨distance, turn, angle, gearing, scales, period, created⟩, -, -⟩ := opened
    have atRest := (Controller.of_create created).mode
    exact
      { earlier := nofun
        distance := fun hm => by rw [atRest] at hm; cases hm
        angle := fun hm => by rw [atRest] at hm; cases hm }
  · intro past e _ enabled h
    exact h.step rfl enabled

/-! ### The theorem -/

/-- Whether a poll lies in the settle time before an instant. -/
def InWindow (st : SettleSettings Float) (now time : Nat) : Prop :=
  now ≤ time + Time.ofMilliseconds st.milliseconds

/-- Whether a poll lies at the first instant of the settle time. -/
def AtEdge (st : SettleSettings Float) (now time : Nat) : Prop :=
  now = time + Time.ofMilliseconds st.milliseconds

/-- Whether an error is within tolerance. -/
def Within (st : SettleSettings Float) (error : Float) : Prop := Float.abs error ≤ st.error

instance decidableInWindow (st : SettleSettings Float) (now time : Nat) :
    Decidable (InWindow st now time) :=
  inferInstanceAs (Decidable (_ ≤ _))

instance decidableAtEdge (st : SettleSettings Float) (now time : Nat) :
    Decidable (AtEdge st now time) :=
  inferInstanceAs (Decidable (_ = _))

instance decidableWithin (st : SettleSettings Float) (error : Float) :
    Decidable (Within st error) :=
  inferInstanceAs (Decidable (_ ≤ _))

/-- **Whether the errors of a loop were within tolerance** at every poll of the settle time. -/
def HeldThroughout (st : SettleSettings Float) (now : Nat) (error : Sight Float → Float)
    (xs : List (Sight Float)) : Prop :=
  ∀ x ∈ xs, InWindow st now x.time → Within st (error x)

/-- Whether none was beyond it at those polls that the timer of the loop has watched: those that
asked for the loop, after the first instant of the settle time. -/
def HeldWatched (st : SettleSettings Float) (now : Nat) (asked : Sight Float → Bool)
    (error : Sight Float → Float) (xs : List (Sight Float)) : Prop :=
  ∀ x ∈ xs, InWindow st now x.time → ¬ AtEdge st now x.time → asked x = true →
    ¬ st.error < Float.abs (error x)

/-- Whether they were at those polls that the timer of the loop says nothing of: those that did not
ask for the loop, and those at the first instant.  Within a tolerance that is no number lies
nothing. -/
def HeldUnwatched (st : SettleSettings Float) (now : Nat) (asked : Sight Float → Bool)
    (error : Sight Float → Float) (xs : List (Sight Float)) : Prop :=
  st.error.isNaN = false ∧
    ∀ x ∈ xs, InWindow st now x.time → AtEdge st now x.time ∨ asked x = false → Within st (error x)

instance decidableHeldThroughout (st : SettleSettings Float) (now : Nat)
    (error : Sight Float → Float) (xs : List (Sight Float)) :
    Decidable (HeldThroughout st now error xs) :=
  inferInstanceAs (Decidable (∀ x ∈ xs, _ → _))

instance decidableHeldUnwatched (st : SettleSettings Float) (now : Nat)
    (asked : Sight Float → Bool) (error : Sight Float → Float) (xs : List (Sight Float)) :
    Decidable (HeldUnwatched st now asked error xs) :=
  inferInstanceAs (Decidable (_ ∧ ∀ x ∈ xs, _ → _ → _))

theorem within_of_not_lt {st : SettleSettings Float} {e : Float} (number : st.error.isNaN = false)
    (finite : e.isFinite = true) (h : ¬ st.error < Float.abs e) : Within st e :=
  (Machine.not_lt number (Machine.isNaN_abs finite)).1 h

section Loops

variable {l : Loop Float} {s : Settling Float} {asked : Sight Float → Bool}
  {error : Sight Float → Float} {xs : List (Sight Float)} {now : Nat} {last : Sight Float}

/-- **A loop that reports** had no error beyond its tolerance that its timer has watched. -/
theorem heldWatched (clocked : l.Clocked Sight.time asked error xs now)
    (hs : l.clock = some (false, s)) (settled : (l.checkSettled now).1 = true)
    (hl : error last = l.error) : HeldWatched s.settings now asked error (last :: xs) := by
  intro x hx inside edge asked
  rcases List.mem_cons.1 hx with rfl | hx
  · rw [(Loop.clock_checkSettled hs now).1] at settled
    rw [hl]
    exact Settling.not_lt_of_outside (Settling.of_check settled).1
  · exact clocked.within hs settled hx asked (Nat.lt_of_le_of_ne inside edge)

/-- A loop that reports was within tolerance throughout exactly when it was where its timer says
nothing. -/
theorem heldThroughout_iff (watched : HeldWatched s.settings now asked error (last :: xs))
    (hn : last.time = now) (finite : ∀ x ∈ last :: xs, (error x).isFinite = true) :
    HeldThroughout s.settings now error (last :: xs) ↔
      HeldUnwatched s.settings now asked error (last :: xs) := by
  constructor
  · intro held
    refine ⟨?_, fun x hx inside _ => held x hx inside⟩
    have here : InWindow s.settings now last.time := by
      rw [hn]
      exact Nat.le_add_right ..
    exact Machine.isNaN_of_le (held last List.mem_cons_self here)
  · rintro ⟨number, loose⟩ x hx inside
    by_cases known : AtEdge s.settings now x.time ∨ asked x = false
    · exact loose x hx inside known
    · obtain ⟨edge, unasked⟩ := not_or.1 known
      rw [Bool.not_eq_false] at unasked
      exact within_of_not_lt number (finite x hx) (watched x hx inside edge unasked)

end Loops

/-- **When a finished move was settled throughout.**  A poll finishes a move that was not stopped.
At every poll since the launch that asked for a loop, after the first instant of the settle time,
the error of the loop was not beyond its tolerance.  So the errors of both loops were within
tolerance at every poll that lies in their settle time, exactly when they were at those polls that
did not ask for the loop, or were made at the first instant. -/
theorem finished_within_iff {s₀ : Shared Float} (opened : s₀.Opened) {i : Nat}
    {past : List (Event Float)} (possible : Possible s₀ (.poll i .finished :: past))
    {length : Length Float} (moving : course s₀.controller past = .move length false)
    {d a : SettleSettings Float} (hd : s₀.controller.settle? .distance = some d)
    (ha : s₀.controller.settle? .angle = some a)
    (finite : ∀ x ∈ sights s₀ (.poll i .finished :: past),
      x.distance.isFinite = true ∧ x.angle.isFinite = true) :
    HeldWatched d (replay s₀ past).now Sight.askedDistance Sight.distance
        (sights s₀ (.poll i .finished :: past)) ∧
      HeldWatched a (replay s₀ past).now Sight.askedAngle Sight.angle
        (sights s₀ (.poll i .finished :: past)) ∧
      (HeldThroughout d (replay s₀ past).now Sight.distance
          (sights s₀ (.poll i .finished :: past)) ∧
        HeldThroughout a (replay s₀ past).now Sight.angle
          (sights s₀ (.poll i .finished :: past)) ↔
        HeldUnwatched d (replay s₀ past).now Sight.askedDistance Sight.distance
            (sights s₀ (.poll i .finished :: past)) ∧
          HeldUnwatched a (replay s₀ past).now Sight.askedAngle Sight.angle
            (sights s₀ (.poll i .finished :: past))) := by
  obtain ⟨before, enabled⟩ := possible
  have tracks := before.tracks opened
  have fits := tracks.fits
  rw [moving] at fits
  obtain ⟨mode, distance, angle, -⟩ := fits
  have timers := before.timersTrue opened
  obtain ⟨-, reports, -⟩ := ended_after enabled
  rw [show (replay s₀ past).controller.mode = .distance from mode] at reports
  obtain ⟨s, distanceClock, rfl⟩ :=
    Loop.clock_of_settle? ((tracks.wired.settle .distance).trans hd)
      (congrArg Loop.Setting.disabled distance)
  obtain ⟨s', angleClock, rfl⟩ :=
    Loop.clock_of_settle? ((tracks.wired.settle .angle).trans ha)
      (congrArg Loop.Setting.disabled angle)
  have watchedDistance : HeldWatched s.settings (replay s₀ past).now Sight.askedDistance
      Sight.distance (sights s₀ (.poll i .finished :: past)) :=
    heldWatched (timers.distance mode) distanceClock reports.1 rfl
  have watchedAngle : HeldWatched s'.settings (replay s₀ past).now Sight.askedAngle
      Sight.angle (sights s₀ (.poll i .finished :: past)) :=
    heldWatched (timers.angle mode) angleClock reports.2 rfl
  refine ⟨watchedDistance, watchedAngle, and_congr ?_ ?_⟩
  · exact heldThroughout_iff watchedDistance rfl fun x hx => (finite x hx).1
  · exact heldThroughout_iff watchedAngle rfl fun x hx => (finite x hx).2

/-! ### Runs -/

/-- A position loop that does nothing, and settles when its error has been within fifty degrees for
fifty milliseconds. -/
def passive : Loop Float := .position (.new ⟨0, 0, 0, 0⟩ ⟨50, 100000, 50⟩ 10000000)

/-- A bench with loops that do nothing. -/
def still : Shared Float := bench passive passive passive

/-- A move of no length, followed until both settle timers run. -/
def waited : List (Event Float) :=
  [.poll 0 .pending, .pass 50000000, .poll 0 .pending, .look 0, .wait 0, .work ⟨⟨0, 0⟩, ⟨0, 0⟩⟩,
    .wake, .start ⟨0, 0⟩, .launch 0, .ask 0 (.move ⟨0⟩)]

/-- The chassis stands still until the wait returns. -/
def steady : List (Event Float) := .pass 50000000 :: waited

/-- The chassis is pushed away and turned, pushed back while it is still turned, and turned back in
time. -/
def turnedAway : List (Event Float) :=
  [.work ⟨⟨0, 0⟩, ⟨0, 0⟩⟩, .wake, .pass 40000000, .poll 0 .pending, .pass 10000000,
    .poll 0 .pending, .work ⟨⟨0, 0⟩, ⟨500, -500⟩⟩, .wake, .pass 10000000, .poll 0 .pending,
    .work ⟨⟨0, 0⟩, ⟨1500, 500⟩⟩, .wake, .pass 10000000] ++ waited

theorem finished_within_iff_of_steady :
    HeldThroughout ⟨50, 100000, 50⟩ (replay still steady).now Sight.angle
      (sights still (.poll 0 .finished :: steady)) := by
  have possible : Possible still (.poll 0 .finished :: steady) := by decide +kernel
  have finite : ∀ x ∈ sights still (.poll 0 .finished :: steady),
      x.distance.isFinite = true ∧ x.angle.isFinite = true := by decide +kernel
  obtain ⟨-, -, throughout⟩ := finished_within_iff (opened_bench ..) possible rfl rfl rfl finite
  exact (throughout.2 ⟨by decide +kernel, by decide +kernel⟩).2

/-- **A wait finishes a move though its angle was out of tolerance within the settle time**, at
polls that found the distance loop not settled and did not look at the angle loop. -/
theorem finished_out_of_tolerance :
    Possible still (.poll 0 .finished :: turnedAway) ∧
      course still.controller turnedAway = .move ⟨0⟩ false ∧
      (∀ x ∈ sights still (.poll 0 .finished :: turnedAway),
        x.distance.isFinite = true ∧ x.angle.isFinite = true) ∧
      ¬ HeldThroughout ⟨50, 100000, 50⟩ (replay still turnedAway).now Sight.angle
        (sights still (.poll 0 .finished :: turnedAway)) := by
  refine ⟨by decide +kernel, rfl, by decide +kernel, by decide +kernel⟩

end Shared

end Drivetrain
