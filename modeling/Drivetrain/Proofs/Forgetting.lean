/-
A motion forgets what was before it.

Take two controllers of the same make, with any pasts, and let both launch the same motion at the
same instant.  From then on both get the same calls, polls and cycles at the same times, and the
sensors of the one read what those of the other read, but for an offset on each side that never
changes.  Then nobody can tell them apart: the same mode, the same orders to the motors, the same
loops at work, and waits that return at the same times.

What is not the same is everything that such a run leaves open: which mode a client had been
watching, whether the thread of the cycle was awake, where the hardware stands.  So the two
histories are laid side by side, and steps that only show there may be taken on one side alone.

Main definitions:

* `Drivetrain.Loop.Make` — what a position loop was made with;
* `Drivetrain.Controller.InStep`, `Drivetrain.Shared.InStep` — two controllers that cannot be told
  apart;
* `Drivetrain.Shared.SideBySide` — two histories of the same calls, polls and cycles.

Main results:

* `Drivetrain.Loop.renewed_eq` — two loops of one make, set on a target, are **the same loop**;
* `Drivetrain.Shared.InStep.call`, `Drivetrain.Shared.InStep.poll`, `Drivetrain.Shared.InStep.work`,
  `Drivetrain.Shared.inStep_after_aside` — what each step keeps of two controllers in step;
* `Drivetrain.Shared.forgets_past` — **nothing before a motion tells on it**.
-/

import Drivetrain.Proofs.Baseline
import Drivetrain.Proofs.Commands

set_option relaxedAutoImplicit false
set_option autoImplicit false

namespace Drivetrain

open Controller (Samples)

variable {α : Type}

/-! ### Loops of one make -/

namespace Loop

/-- **What a position loop was made with.** -/
structure Make (α : Type) where
  gains : Gains α
  sampleTime : Nat
  outputLimits : Range α
  integralLimits : Range α
  settle : SettleSettings α

/-- What a loop was made with, if it is a position loop. -/
def make? : Loop α → Option (Make α)
  | position p =>
      some ⟨p.gains, p.sampleTime, p.outputLimits, p.integralLimits, p.settling.settings⟩
  | scripted _ => none

theorem settle?_eq_make? (l : Loop α) : l.settle? = l.make?.map Make.settle := by
  cases l <;> rfl

@[simp] theorem make?_setDisabled (b : Bool) (l : Loop α) : (l.setDisabled b).make? = l.make? := by
  cases l <;> rfl

@[simp] theorem make?_setTarget (x : α) (l : Loop α) : (l.setTarget x).make? = l.make? := by
  cases l <;> rfl

@[simp] theorem make?_script (f : ScriptedLoop α → ScriptedLoop α) (l : Loop α) :
    (l.script f).make? = l.make? := by
  cases l <;> rfl

/-- A position loop follows no script. -/
theorem script_of_settle {l : Loop α} (h : l.settle?.isSome) (f : ScriptedLoop α → ScriptedLoop α) :
    l.script f = l := by
  cases l with
  | position p => rfl
  | scripted s => cases h

variable [Scalar α]

@[simp] theorem make?_reset (l : Loop α) : l.reset.make? = l.make? := by
  cases l <;> rfl

@[simp] theorem make?_step (x : α) (now : Nat) (l : Loop α) : (l.step x now).1.make? = l.make? := by
  cases l with
  | scripted s => rfl
  | position p =>
      simp only [step, Pid.step]
      split
      · rfl
      · split
        · rfl
        · split <;> rfl

@[simp] theorem make?_checkSettled (now : Nat) (l : Loop α) :
    (l.checkSettled now).2.make? = l.make? := by
  cases l with
  | scripted s => rfl
  | position p =>
      cases h : p.disabled with
      | true => simp only [checkSettled, Pid.checkSettled_of_disabled h]
      | false =>
          simp only [checkSettled, Pid.checkSettled_of_enabled h, make?, Settling.settings_check]

/-- **A loop set on a target is all make and target**: two of one make are the same loop. -/
theorem renewed_eq {l l' : Loop α} (real : l.settle?.isSome) (h : l.make? = l'.make?) (target : α) :
    (l.reset.setDisabled false).setTarget target =
      (l'.reset.setDisabled false).setTarget target := by
  cases l with
  | scripted s => cases real
  | position p =>
      cases l' with
      | scripted s => cases h
      | position p' =>
          simp only [make?, Option.some.injEq, Make.mk.injEq] at h
          obtain ⟨gains, sampleTime, outputLimits, integralLimits, settle⟩ := h
          simp only [reset, setDisabled, setTarget, Pid.reset, Pid.setDisabled, Pid.setTarget,
            Settling.reset, gains, sampleTime, outputLimits, integralLimits, settle]

/-- What a loop shows at an instant. -/
structure Face (α : Type) where
  error : α
  output : α
  /-- Whether it would report that it has settled. -/
  settled : Bool

def face (l : Loop α) (now : Nat) : Face α := ⟨l.error, l.output, (l.checkSettled now).1⟩

end Loop

/-! ### Controllers in step -/

/-- The loops that a mode has at work. -/
def Mode.slots : Mode → List Slot
  | none => []
  | distance => [.distance, .angle]
  | angle => [.turn]

theorem Mode.forall_slots_distance {P : Slot → Prop} :
    (∀ slot ∈ Mode.distance.slots, P slot) ↔ P .distance ∧ P .angle := by
  simp [slots]

theorem Mode.forall_slots_angle {P : Slot → Prop} :
    (∀ slot ∈ Mode.angle.slots, P slot) ↔ P .turn := by
  simp [slots]

namespace Controller

/-- The loop in a slot. -/
def loop (c : Controller α) : Slot → Loop α
  | .distance => c.distance
  | .turn => c.turn
  | .angle => c.angle

theorem settle?_loop (c : Controller α) (slot : Slot) : (c.loop slot).settle? = c.settle? slot := by
  cases slot <;> rfl

/-- **The same settings**, and loops of the same make. -/
structure Configured (c c' : Controller α) : Prop where
  scales : c.scales = c'.scales
  gearing : c.gearing = c'.gearing
  mirrored : c.mirrored = c'.mirrored
  moveThreshold : c.moveThreshold = c'.moveThreshold
  turnThreshold : c.turnThreshold = c'.turnThreshold
  make : ∀ slot, (c.loop slot).make? = (c'.loop slot).make?

namespace Configured

variable {c c' c'' : Controller α}

theorem refl (c : Controller α) : c.Configured c := ⟨rfl, rfl, rfl, rfl, rfl, fun _ => rfl⟩

theorem symm (h : c.Configured c') : c'.Configured c :=
  ⟨h.scales.symm, h.gearing.symm, h.mirrored.symm, h.moveThreshold.symm, h.turnThreshold.symm,
    fun slot => (h.make slot).symm⟩

theorem trans (h : c.Configured c') (h' : c'.Configured c'') : c.Configured c'' :=
  ⟨h.scales.trans h'.scales, h.gearing.trans h'.gearing, h.mirrored.trans h'.mirrored,
    h.moveThreshold.trans h'.moveThreshold, h.turnThreshold.trans h'.turnThreshold,
    fun slot => (h.make slot).trans (h'.make slot)⟩

/-- What each of two controllers keeps of its settings, it keeps of those of the other. -/
theorem both (h : c.Configured c') {d d' : Controller α} (left : c.Configured d)
    (right : c'.Configured d') : d.Configured d' :=
  left.symm.trans (h.trans right)

theorem positional (h : c.Configured c') (real : c.Positional) : c'.Positional := by
  intro slot
  rw [← settle?_loop, Loop.settle?_eq_make?, ← h.make slot, ← Loop.settle?_eq_make?, settle?_loop]
  exact real slot

variable [Scalar α]

/-- Two controllers of the same settings accept the same motions. -/
theorem motion? (h : c.Configured c') (r : Request α) : c.motion? r = c'.motion? r := by
  have moves : ∀ x, c.acceptMove x = c'.acceptMove x := by
    intro x
    rw [acceptMove, acceptMove, ignoresMove, ignoresMove, h.moveThreshold]
  have turns : ∀ x, c.acceptTurn x = c'.acceptTurn x := by
    intro x
    rw [acceptTurn, acceptTurn, ignoresTurn, ignoresTurn, h.turnThreshold, h.mirrored]
  cases r with
  | move x => exact moves x
  | moveRaw t => rw [Controller.motion?, moves, rawLength, h.scales]; rfl
  | turn x => exact turns x
  | turnRaw t => rw [Controller.motion?, turns, rawAngle, h.scales]; rfl
  | _ => rfl

end Configured

theorem configured_disableAll (c : Controller α) : c.Configured c.disableAll := by
  refine ⟨rfl, rfl, rfl, rfl, rfl, fun slot => ?_⟩
  cases slot <;> exact (Loop.make?_setDisabled ..).symm

theorem configured_finish (c : Controller α) : c.Configured c.finish := by
  have disabled := c.configured_disableAll
  exact ⟨rfl, rfl, rfl, rfl, rfl, disabled.make⟩

theorem configured_script (c : Controller α) (slot : Slot) (f : ScriptedLoop α → ScriptedLoop α) :
    c.Configured (c.script slot f) := by
  cases slot <;> refine ⟨rfl, rfl, rfl, rfl, rfl, fun slot => ?_⟩ <;>
    cases slot <;> simp [loop, script]

section Kept

variable [Scalar α]

theorem configured_launch (c : Controller α) (m : Motion α) : c.Configured (c.launch m) := by
  cases m with
  | move x =>
      refine ⟨rfl, rfl, rfl, rfl, rfl, fun slot => ?_⟩
      cases slot <;> simp [loop, launch, beginMove]
  | turn x mirrored =>
      refine ⟨rfl, rfl, rfl, rfl, rfl, fun slot => ?_⟩
      cases slot <;> simp [loop, launch, beginTurn]

theorem configured_cycle (c : Controller α) (samples : Samples) (now : Nat) :
    c.Configured (c.cycle samples now).1 := by
  cases h : c.mode with
  | none => rw [cycle_of_none h]; exact ⟨rfl, rfl, rfl, rfl, rfl, fun slot => by cases slot <;> rfl⟩
  | distance =>
      rw [cycle_of_distance h]
      refine ⟨rfl, rfl, rfl, rfl, rfl, fun slot => ?_⟩
      cases slot <;> simp [loop, rebased]
  | angle =>
      rw [cycle_of_angle h]
      refine ⟨rfl, rfl, rfl, rfl, rfl, fun slot => ?_⟩
      cases slot <;> simp [loop, rebased]

theorem configured_checkSettled (c : Controller α) (now : Nat) (mode : Mode) :
    c.Configured (c.checkSettled now mode).2 := by
  cases mode with
  | none => exact .refl c
  | angle =>
      refine ⟨rfl, rfl, rfl, rfl, rfl, fun slot => ?_⟩
      cases slot <;> simp [loop, checkSettled]
  | distance =>
      by_cases h : (c.distance.checkSettled now).1 = true
      · rw [checkSettled_distance_of_settled h]
        refine ⟨rfl, rfl, rfl, rfl, rfl, fun slot => ?_⟩
        cases slot <;> simp [loop]
      · rw [checkSettled_distance_of_unsettled h]
        refine ⟨rfl, rfl, rfl, rfl, rfl, fun slot => ?_⟩
        cases slot <;> simp [loop]

end Kept

/-- **Two controllers that cannot be told apart**: the same settings, the same mode, and the same
loops at work in it. -/
structure InStep (c c' : Controller α) : Prop where
  configured : c.Configured c'
  mode : c.mode = c'.mode
  loops : ∀ slot ∈ c.mode.slots, c.loop slot = c'.loop slot

namespace InStep

variable {c c' c'' : Controller α}

theorem refl (c : Controller α) : c.InStep c := ⟨.refl c, rfl, fun _ _ => rfl⟩

theorem symm (h : c.InStep c') : c'.InStep c :=
  ⟨h.configured.symm, h.mode.symm, fun slot hs => (h.loops slot (h.mode.symm ▸ hs)).symm⟩

theorem trans (h : c.InStep c') (h' : c'.InStep c'') : c.InStep c'' :=
  ⟨h.configured.trans h'.configured, h.mode.trans h'.mode,
    fun slot hs => (h.loops slot hs).trans (h'.loops slot (h.mode ▸ hs))⟩

/-- On a straight move the loops of distance and angle are the same. -/
theorem move (h : c.InStep c') (hm : c.mode = .distance) :
    c.distance = c'.distance ∧ c.angle = c'.angle :=
  ⟨h.loops .distance (by simp [hm, Mode.slots]), h.loops .angle (by simp [hm, Mode.slots])⟩

/-- On a turn its loop is the same. -/
theorem turn (h : c.InStep c') (hm : c.mode = .angle) : c.turn = c'.turn :=
  h.loops .turn (by simp [hm, Mode.slots])

theorem of_move (configured : c.Configured c') (hm : c.mode = .distance)
    (hm' : c'.mode = .distance) (distance : c.distance = c'.distance) (angle : c.angle = c'.angle) :
    c.InStep c' := by
  refine ⟨configured, hm.trans hm'.symm, ?_⟩
  rw [hm, Mode.forall_slots_distance]
  exact ⟨distance, angle⟩

theorem of_turn (configured : c.Configured c') (hm : c.mode = .angle) (hm' : c'.mode = .angle)
    (turn : c.turn = c'.turn) : c.InStep c' := by
  refine ⟨configured, hm.trans hm'.symm, ?_⟩
  rw [hm, Mode.forall_slots_angle]
  exact turn

/-- Out of a motion no loop is at work. -/
theorem of_none (configured : c.Configured c') (hm : c.mode = .none) (hm' : c'.mode = .none) :
    c.InStep c' :=
  ⟨configured, hm.trans hm'.symm, fun slot hs => by simp [hm, Mode.slots] at hs⟩

theorem disableAll (h : c.InStep c') : c.disableAll.InStep c'.disableAll := by
  refine ⟨h.configured.both (configured_disableAll c) (configured_disableAll c'), h.mode, ?_⟩
  intro slot hs
  have same := h.loops slot hs
  cases slot <;> exact congrArg (Loop.setDisabled true) same

variable [Scalar α]

theorem adjust (h : c.InStep c') (r : Request α) : (c.adjust r).InStep (c'.adjust r) := by
  cases r with
  | stop => exact h.disableAll
  | mirror b => exact ⟨{ h.configured with mirrored := rfl }, h.mode, h.loops⟩
  | setMoveThreshold x => exact ⟨{ h.configured with moveThreshold := rfl }, h.mode, h.loops⟩
  | setTurnThreshold x => exact ⟨{ h.configured with turnThreshold := rfl }, h.mode, h.loops⟩
  | _ => exact h

omit [Scalar α] in
theorem finish (h : c.Configured c') : c.finish.InStep c'.finish :=
  .of_none (h.both (configured_finish c) (configured_finish c')) rfl rfl

/-- **A motion brings two controllers into step**, whatever they were doing. -/
theorem launch (real : c.Positional) (h : c.Configured c') (m : Motion α) :
    (c.launch m).InStep (c'.launch m) := by
  have renewed := fun slot => Loop.renewed_eq (c.settle?_loop slot ▸ real slot) (h.make slot)
  have configured := h.both (configured_launch c m) (configured_launch c' m)
  cases m with
  | move x =>
      have target : c.moveTarget x = c'.moveTarget x := by
        rw [moveTarget, moveTarget, h.scales, h.gearing]
      refine .of_move configured rfl rfl ?_ (renewed .angle 0)
      rw [Controller.launch, Controller.launch, target]
      exact renewed .distance _
  | turn x mirrored =>
      have target : c.turnTarget x mirrored = c'.turnTarget x mirrored := by
        rw [turnTarget, turnTarget, h.scales, h.gearing]
      refine .of_turn configured rfl rfl ?_
      rw [Controller.launch, Controller.launch, target]
      exact renewed .turn _

/-- **A cycle of the same travel** keeps two controllers in step, and asks both for the same
maneuver. -/
theorem cycle (h : c.InStep c') {samples samples' : Samples} (now : Nat)
    (moved : c.mode ≠ .none → c.moved samples = c'.moved samples') :
    (c.cycle samples now).1.InStep (c'.cycle samples' now).1 ∧
      (c.cycle samples now).2 = (c'.cycle samples' now).2 := by
  have configured :=
    h.configured.both (configured_cycle c samples now) (configured_cycle c' samples' now)
  cases hm : c.mode with
  | none =>
      have hm' := h.mode.symm.trans hm
      rw [cycle_of_none hm, cycle_of_none hm'] at configured ⊢
      exact ⟨.of_none configured hm hm', rfl⟩
  | distance =>
      have hm' := h.mode.symm.trans hm
      have moved := moved (by simp [hm])
      obtain ⟨distance, angle⟩ := h.move hm
      rw [cycle_of_distance hm, cycle_of_distance hm', moved, distance, angle] at configured ⊢
      exact ⟨.of_move configured hm hm' rfl rfl, rfl⟩
  | angle =>
      have hm' := h.mode.symm.trans hm
      have moved := moved (by simp [hm])
      rw [cycle_of_angle hm, cycle_of_angle hm', moved, h.turn hm] at configured ⊢
      exact ⟨.of_turn configured hm hm' rfl, rfl⟩

/-- **A check of the mode** keeps two controllers in step. -/
theorem checkSettled (h : c.InStep c') (now : Nat) :
    (c.checkSettled now c.mode).2.InStep (c'.checkSettled now c.mode).2 := by
  have configured := h.configured.both (configured_checkSettled c now c.mode)
    (configured_checkSettled c' now c.mode)
  have kept := (c.checkSettled_resembles now c.mode).mode
  have kept' := (c'.checkSettled_resembles now c.mode).mode.trans h.mode.symm
  cases hm : c.mode with
  | none => exact ⟨h.configured, h.mode, h.loops⟩
  | angle =>
      rw [hm] at configured kept kept'
      refine .of_turn configured kept kept' ?_
      rw [Controller.checkSettled, Controller.checkSettled, h.turn hm]
  | distance =>
      rw [hm] at configured kept kept'
      obtain ⟨distance, angle⟩ := h.move hm
      -- the loop of the angle is asked on both sides, or on neither
      by_cases there : (c.distance.checkSettled now).1 = true
      · have there' := distance ▸ there
        have checked := checkSettled_distance_of_settled there
        have checked' := checkSettled_distance_of_settled there'
        exact .of_move configured kept kept' (by rw [checked, checked', distance])
          (by rw [checked, checked', angle])
      · have there' := distance ▸ there
        have checked := checkSettled_distance_of_unsettled there
        have checked' := checkSettled_distance_of_unsettled there'
        exact .of_move configured kept kept' (by rw [checked, checked', distance])
          (by rw [checked, checked', angle])

/-- Two controllers in step report alike. -/
theorem reports (h : c.InStep c') (now : Nat) :
    c.Reports now c.mode ↔ c'.Reports now c.mode := by
  cases hm : c.mode with
  | none => exact Iff.rfl
  | distance =>
      obtain ⟨distance, angle⟩ := h.move hm
      rw [Reports, Reports, distance, angle]
  | angle => rw [Reports, Reports, h.turn hm]

end InStep

end Controller

/-! ### Readings off by an offset -/

/-- Readings off by an offset on each side, which wrap as readings do. -/
def Sides.shifted (r offset : Readings) : Readings :=
  ⟨r.left + offset.left, r.right + offset.right⟩

def Controller.Samples.shifted (s : Samples) (offset : Readings) : Samples :=
  ⟨s.baseline.shifted offset, s.current.shifted offset⟩

/-- **Travel does not depend on where the sensors stand.** -/
theorem Controller.travel_shifted [Scalar α] (baseline current offset : Readings) :
    (travel (baseline.shifted offset) (current.shifted offset) : Sides α) =
      travel baseline current := by
  have same : ∀ b c o : Int32, c + o - (b + o) = c - b := by grind
  simp only [travel, Sides.shifted, same]

/-! ### Shared controllers in step -/

/-- **Two clients that can do the same**: they stand alike, or both wait, whatever they watch. -/
def Client.Alike (c c' : Client α) : Prop := c = c' ∨ (c.waits = true ∧ c'.waits = true)

namespace Client.Alike

variable {c c' c'' : Client α}

theorem refl (c : Client α) : c.Alike c := .inl rfl

theorem symm (h : c.Alike c') : c'.Alike c := by
  rcases h with rfl | ⟨waits, waits'⟩
  · exact .refl c
  · exact .inr ⟨waits', waits⟩

theorem trans (h : c.Alike c') (h' : c'.Alike c'') : c.Alike c'' := by
  rcases h with rfl | ⟨waits, waits'⟩
  · exact h'
  · rcases h' with rfl | ⟨-, waits''⟩
    · exact .inr ⟨waits, waits'⟩
    · exact .inr ⟨waits, waits''⟩

theorem of_free (free : c.isFree = true) (free' : c'.isFree = true) : c.Alike c' := by
  cases c with
  | free =>
      cases c' with
      | free => exact .refl _
      | _ => cases free'
  | _ => cases free

/-- A client that waits has no motion to launch. -/
theorem motion? (h : c.Alike c') : c.motion? = c'.motion? := by
  rcases h with rfl | ⟨waits, waits'⟩
  · rfl
  · cases c <;> cases c' <;>
      simp_all [Client.waits, Client.isDeciding, Client.watched?, Client.motion?]

end Client.Alike

namespace Shared

/-- **Two shared controllers that cannot be told apart** from now on. -/
structure InStep (s s' : Shared α) : Prop where
  controller : s.controller.InStep s'.controller
  full : s.drive.full = s'.drive.full
  now : s.now = s'.now
  clients : ∀ i, (s.clients i).Alike (s'.clients i)

namespace InStep

variable {s s' s'' : Shared α}

theorem symm (h : s.InStep s') : s'.InStep s :=
  ⟨h.controller.symm, h.full.symm, h.now.symm, fun i => (h.clients i).symm⟩

theorem trans (h : s.InStep s') (h' : s'.InStep s'') : s.InStep s'' :=
  ⟨h.controller.trans h'.controller, h.full.trans h'.full, h.now.trans h'.now,
    fun i => (h.clients i).trans (h'.clients i)⟩

theorem setClient (h : s.InStep s') (i : Nat) {c c' : Client α} (alike : c.Alike c') :
    (s.setClient i c).InStep (s'.setClient i c') :=
  ⟨h.controller, h.full, h.now, clients_setClient_both (R := fun _ => Client.Alike) h.clients alike⟩

theorem set (h : s.InStep s') {c c' : Controller α} (controllers : c.InStep c') :
    InStep { s with controller := c } { s' with controller := c' } :=
  ⟨controllers, h.full, h.now, h.clients⟩

variable [Scalar α]

theorem steer (h : s.InStep s') (m : Option (Maneuver α)) : (s.steer m).InStep (s'.steer m) := by
  constructor
  · rw [controller_steer, controller_steer]; exact h.controller
  · rw [full_steer, full_steer]; exact h.full
  · rw [now_steer, now_steer]; exact h.now
  · rw [clients_steer, clients_steer]; exact h.clients

end InStep

/-! ### Steps taken on one side -/

/-- Whether an event only shows in what a run leaves open: the thread of the cycle starts or looks
for work, a client looks which mode there is, a hand acts on the drive, or a script speaks to loops
that follow none. -/
def Event.aside : Event α → Bool
  | .start _ | .wake | .look _ | .poll _ .superseded | .act _ | .scriptOutput .. |
    .scriptSettled .. => true
  | _ => false

theorem setClient_waiting {s : Shared α} (i : Nat) {c : Client α}
    (before : (s.clients i).waits = true) (after : c.waits = true) :
    s.InStep (s.setClient i c) := by
  refine ⟨.refl _, rfl, rfl, fun j => ?_⟩
  by_cases hj : j = i
  · subst hj
    rw [clients_setClient_self]
    exact .inr ⟨before, after⟩
  · rw [clients_setClient_of_ne s hj]
    exact .refl _

variable [Scalar α]

omit [Scalar α] in
theorem script_of_positional {c : Controller α} (real : c.Positional) (slot : Slot)
    (f : ScriptedLoop α → ScriptedLoop α) : c.script slot f = c := by
  have same := Loop.script_of_settle (c.settle?_loop slot ▸ real slot) f
  cases slot <;> simp only [Controller.script, Controller.loop] at same ⊢ <;> rw [same]

/-- **An event aside leaves a controller in step** with what it was. -/
theorem inStep_after_aside {s : Shared α} {e : Event α} (enabled : s.Enabled e)
    (real : s.controller.Positional) (he : e.aside = true) : s.InStep (s.after e) := by
  have same : ∀ {t : Shared α}, s.controller.InStep t.controller →
      t.drive.full = s.drive.full → t.now = s.now → t.clients = s.clients → s.InStep t := by
    intro t controller full now clients
    exact ⟨controller, full.symm, now.symm, fun i => clients ▸ .refl _⟩
  have full := full_after enabled
  cases e with
  | start baseline =>
      refine same ?_ full rfl rfl
      exact ⟨⟨rfl, rfl, rfl, rfl, rfl, fun slot => by cases slot <;> rfl⟩, rfl,
        fun slot _ => by cases slot <;> rfl⟩
  | look i =>
      have deciding : (s.clients i).isDeciding = true := enabled
      exact setClient_waiting i (by simp [Client.waits, deciding]) rfl
  | poll i verdict =>
      obtain ⟨watched, hw, ⟨-, -, e⟩ | ⟨rfl, -⟩ | ⟨rfl, -⟩⟩ := poll_cases enabled
      · rw [e]
        exact setClient_waiting i (by simp [Client.waits, hw]) rfl
      all_goals cases he
  | scriptOutput slot x =>
      refine same ?_ full rfl rfl
      rw [after, script_of_positional real]
      exact .refl _
  | scriptSettled slot b =>
      refine same ?_ full rfl rfl
      rw [after, script_of_positional real]
      exact .refl _
  | wake | act a => exact same (.refl _) full rfl rfl
  | _ => cases he

/-! ### What runs leave alone -/

/-- Whether an event is a request that changes a setting. -/
def Event.sets : Event α → Bool
  | .ask _ (.mirror _) | .ask _ (.setMoveThreshold _) | .ask _ (.setTurnThreshold _) => true
  | _ => false

/-- **Only a request changes a setting**, and nothing what a loop was made with. -/
theorem configured_after {s : Shared α} {e : Event α} (enabled : s.Enabled e)
    (he : e.sets = false) : s.controller.Configured (s.after e).controller := by
  cases e with
  | ask i r =>
      cases hr : s.controller.motion? r with
      | some m => rw [after_ask_of_accepted hr]; exact .refl _
      | none =>
          rw [after_ask_of_none hr, controller_steer]
          cases r with
          | stop => exact Controller.configured_disableAll _
          | mirror | setMoveThreshold | setTurnThreshold => cases he
          | _ => exact .refl _
  | launch i =>
      obtain ⟨m, -, e⟩ := launch_cases enabled
      rw [e]
      exact s.controller.configured_launch m
  | poll i verdict =>
      have checked := fun watched => s.controller.configured_checkSettled s.now watched
      obtain ⟨watched, -, ⟨-, -, e⟩ | ⟨-, -, -, e⟩ | ⟨-, -, -, e⟩⟩ := poll_cases enabled
      · rw [e]; exact .refl _
      · rw [e]; exact checked watched
      · rw [e]; exact (checked watched).trans (Controller.configured_finish _)
  | work samples =>
      rw [controller_after_work]
      exact s.controller.configured_cycle samples s.now
  | scriptOutput slot x => exact Controller.configured_script ..
  | scriptSettled slot b => exact Controller.configured_script ..
  | start baseline => exact ⟨rfl, rfl, rfl, rfl, rfl, fun slot => by cases slot <;> rfl⟩
  | _ => exact .refl _

/-- No step changes what a loop was made with. -/
theorem make_after {s : Shared α} {e : Event α} (enabled : s.Enabled e) (slot : Slot) :
    ((s.after e).controller.loop slot).make? = (s.controller.loop slot).make? := by
  cases he : e.sets with
  | false => exact ((configured_after enabled he).make slot).symm
  | true =>
      -- a request that changes a setting changes no loop
      cases e with
      | ask i r =>
          cases r with
          | mirror | setMoveThreshold | setTurnThreshold => rfl
          | _ => cases he
      | _ => cases he

theorem make_replay {s : Shared α} {past : List (Event α)} (possible : Possible s past)
    (slot : Slot) :
    ((replay s past).controller.loop slot).make? = (s.controller.loop slot).make? := by
  refine Possible.invariant
    (P := fun _ t => (t.controller.loop slot).make? = (s.controller.loop slot).make?) rfl ?_
    possible
  intro past e _ enabled h
  exact (make_after enabled slot).trans h

theorem configured_replay {s : Shared α} {past : List (Event α)} (possible : Possible s past)
    (settled : ∀ e ∈ past, e.sets = false) :
    s.controller.Configured (replay s past).controller := by
  induction past with
  | nil => exact .refl _
  | cons e past ih =>
      obtain ⟨before, enabled⟩ := possible
      obtain ⟨he, settled⟩ := List.forall_mem_cons.1 settled
      exact (ih before settled).trans (configured_after enabled he)

/-! ### Steps taken together -/

/-- Whether an event is the same for both sides as it stands: a call of a client, or time that
passes. -/
def Event.common : Event α → Bool
  | .ask .. | .launch _ | .wait _ | .pass _ => true
  | _ => false

/-- What a poll comes to if its client watches the mode that the controller is in. -/
theorem poll_cases_of_current {s : Shared α} {i : Nat} {seen : Controller.Verdict}
    (enabled : s.Enabled (.poll i seen)) (current : seen ≠ .superseded) :
    (seen = .pending ∧ ¬ s.controller.Reports s.now s.controller.mode ∧
        s.after (.poll i seen) =
          { s with controller := (s.controller.checkSettled s.now s.controller.mode).2 }) ∨
      (seen = .finished ∧ s.controller.Reports s.now s.controller.mode ∧
        s.after (.poll i seen) =
          ({ s with
              controller := (s.controller.checkSettled s.now s.controller.mode).2.finish }.steer
            (some .stop)).setClient i .free) := by
  obtain ⟨watched, -, ⟨rfl, -⟩ | ⟨rfl, rfl, reports, e⟩ | ⟨rfl, rfl, reports, e⟩⟩ :=
    poll_cases enabled
  · exact absurd rfl current
  · exact .inl ⟨rfl, reports, e⟩
  · exact .inr ⟨rfl, reports, e⟩

namespace InStep

variable {s s' : Shared α}

theorem call (h : s.InStep s') (real : s.controller.Positional) {e : Event α}
    (enabled : s.Enabled e) (enabled' : s'.Enabled e) (he : e.common = true) :
    (s.after e).InStep (s'.after e) := by
  cases e with
  | ask i r =>
      have accepts := h.controller.configured.motion? r
      cases hr : s.controller.motion? r with
      | some m =>
          rw [after_ask_of_accepted hr, after_ask_of_accepted (accepts ▸ hr)]
          exact h.setClient i (.refl _)
      | none =>
          rw [after_ask_of_none hr, after_ask_of_none (accepts ▸ hr)]
          exact (h.set (h.controller.adjust r)).steer _
  | launch i =>
      obtain ⟨m, hm, e⟩ := launch_cases enabled
      obtain ⟨m', hm', e'⟩ := launch_cases enabled'
      have same : m' = m := Option.some.inj (hm'.symm.trans ((h.clients i).motion? ▸ hm))
      subst same
      rw [e, e']
      exact (h.set (.launch real h.controller.configured m')).setClient i (.refl _)
  | wait i => exact h.setClient i (.refl _)
  | pass d => exact ⟨h.controller, h.full, congrArg (· + d) h.now, h.clients⟩
  | _ => cases he

/-- **A poll sees the same on both sides**, unless its client watches a mode that has given way. -/
theorem poll (h : s.InStep s') {i : Nat} {seen seen' : Controller.Verdict}
    (enabled : s.Enabled (.poll i seen)) (enabled' : s'.Enabled (.poll i seen'))
    (current : seen ≠ .superseded) (current' : seen' ≠ .superseded) :
    seen = seen' ∧ (s.after (.poll i seen)).InStep (s'.after (.poll i seen')) := by
  have checked : (s.controller.checkSettled s.now s.controller.mode).2.InStep
      (s'.controller.checkSettled s'.now s'.controller.mode).2 := by
    rw [← h.now, ← h.controller.mode]
    exact h.controller.checkSettled s.now
  have reports : s.controller.Reports s.now s.controller.mode ↔
      s'.controller.Reports s'.now s'.controller.mode := by
    rw [← h.now, ← h.controller.mode]
    exact h.controller.reports s.now
  rcases poll_cases_of_current enabled current with ⟨rfl, pending, e⟩ | ⟨rfl, done, e⟩ <;>
    rcases poll_cases_of_current enabled' current' with ⟨rfl, pending', e'⟩ | ⟨rfl, done', e'⟩
  · rw [e, e']
    exact ⟨rfl, h.set checked⟩
  · exact absurd (reports.2 done') pending
  · exact absurd (reports.1 done) pending'
  · rw [e, e']
    exact ⟨rfl, ((h.set (.finish checked.configured)).steer _).setClient i (.refl _)⟩

theorem work (h : s.InStep s') {samples samples' : Samples}
    (moved : s.controller.mode ≠ .none →
      s.controller.moved samples = s'.controller.moved samples') :
    (s.after (.work samples)).InStep (s'.after (.work samples')) ∧
      s.maneuver? (.work samples) = s'.maneuver? (.work samples') := by
  obtain ⟨stepped, asked⟩ : (s.controller.cycle samples s.now).1.InStep
      (s'.controller.cycle samples' s'.now).1 ∧
      (s.controller.cycle samples s.now).2 = (s'.controller.cycle samples' s'.now).2 := by
    rw [← h.now]
    exact h.controller.cycle s.now moved
  have worked : InStep
      { s with controller := (s.controller.cycle samples s.now).1, worker := .resting }
      { s' with controller := (s'.controller.cycle samples' s'.now).1, worker := .resting } :=
    ⟨stepped, h.full, h.now, h.clients⟩
  rw [maneuver?, maneuver?, after_work, after_work, ← asked]
  exact ⟨worked.steer _, rfl⟩

theorem orders? (h : s.InStep s') {e e' : Event α} (same : s.maneuver? e = s'.maneuver? e') :
    s.orders? e = s'.orders? e' := by
  rw [Shared.orders?, Shared.orders?, same, h.full]

end InStep

/-! ### Histories side by side -/

/-- **Two histories of the same calls, polls and cycles**, the sensors of the second off by an
offset on each side.  Events aside may come on one side alone.  What a poll sees is not said: a poll
of a mode that has given way is an event aside, and of any other poll it has to be proved. -/
inductive SideBySide (offset : Readings) : List (Event α) → List (Event α) → Prop
  | nil : SideBySide offset [] []
  | left {e : Event α} {run run' : List (Event α)} (he : e.aside = true)
      (before : SideBySide offset run run') : SideBySide offset (e :: run) run'
  | right {e : Event α} {run run' : List (Event α)} (he : e.aside = true)
      (before : SideBySide offset run run') : SideBySide offset run (e :: run')
  | common {e : Event α} {run run' : List (Event α)} (he : e.common = true)
      (before : SideBySide offset run run') : SideBySide offset (e :: run) (e :: run')
  | poll (i : Nat) {seen seen' : Controller.Verdict} {run run' : List (Event α)}
      (current : seen ≠ .superseded) (current' : seen' ≠ .superseded)
      (before : SideBySide offset run run') :
      SideBySide offset (.poll i seen :: run) (.poll i seen' :: run')
  | work (samples : Samples) {run run' : List (Event α)} (before : SideBySide offset run run') :
      SideBySide offset (.work samples :: run) (.work (samples.shifted offset) :: run')

omit [Scalar α] in
theorem origin_of_aside {e : Event α} (he : e.aside = true) (past : List (Event α)) :
    origin (e :: past) = origin past := by
  cases e with
  | launch i => cases he
  | work samples => cases he
  | _ => rfl

omit [Scalar α] in
/-- Motions launched together are measured from readings off by the offset. -/
theorem origin_sideBySide {offset : Readings} {run run' start start' : List (Event α)}
    (side : SideBySide offset run run') (unseen : origin start = none)
    (unseen' : origin start' = none) :
    origin (run' ++ start') = (origin (run ++ start)).map (·.shifted offset) := by
  induction side with
  | nil => rw [List.nil_append, List.nil_append, unseen, unseen']; rfl
  | left he _ ih => rwa [List.cons_append, origin_of_aside he]
  | right he _ ih => rwa [List.cons_append, origin_of_aside he]
  | @common e _ _ he _ ih =>
      cases e with
      | launch i => rfl
      | ask | wait | pass => exact ih
      | _ => cases he
  | poll i _ _ _ ih => exact ih
  | @work samples run run' _ ih =>
      simp only [List.cons_append, origin, ih]
      cases origin (run ++ start) <;> rfl

/-- **Two runs that have shown the same**, and go on from states that cannot be told apart. -/
structure Together (s s' : Shared α) (run run' : List (Event α)) : Prop where
  inStep : (replay s run).InStep (replay s' run')
  commands : commands s run = commands s' run'
  returns : returns s run = returns s' run'

namespace Together

variable {s s' : Shared α} {run run' : List (Event α)}

theorem symm (h : Together s s' run run') : Together s' s run' run :=
  ⟨h.inStep.symm, h.commands.symm, h.returns.symm⟩

theorem left (h : Together s s' run run') {e : Event α} (enabled : (replay s run).Enabled e)
    (real : (replay s run).controller.Positional) (he : e.aside = true) :
    Together s s' (e :: run) run' := by
  have silent : (replay s run).orders? e = none ∧ (replay s run).returned? e = none := by
    cases e with
    | poll i seen => cases seen <;> first | exact ⟨rfl, rfl⟩ | cases he
    | ask i r => cases he
    | work samples => cases he
    | _ => exact ⟨rfl, rfl⟩
  exact
    { inStep := (inStep_after_aside enabled real he).symm.trans h.inStep
      commands := (trace_cons_of_none silent.1).trans h.commands
      returns := (trace_cons_of_none silent.2).trans h.returns }

theorem both (h : Together s s' run run') {e e' : Event α}
    (inStep : (replay s (e :: run)).InStep (replay s' (e' :: run')))
    (asked : (replay s run).maneuver? e = (replay s' run').maneuver? e')
    (returned : (replay s run).returned? e = (replay s' run').returned? e') :
    Together s s' (e :: run) (e' :: run') where
  inStep := inStep
  commands := trace_cons_congr h.commands h.inStep.now (h.inStep.orders? asked)
  returns := trace_cons_congr h.returns h.inStep.now returned

theorem common (h : Together s s' run run') (real : (replay s run).controller.Positional)
    {e : Event α} (enabled : (replay s run).Enabled e) (enabled' : (replay s' run').Enabled e)
    (he : e.common = true) : Together s s' (e :: run) (e :: run') := by
  refine h.both (h.inStep.call real enabled enabled' he) ?_ ?_ <;>
    cases e <;> first | rfl | cases he

theorem poll (h : Together s s' run run') {i : Nat} {seen seen' : Controller.Verdict}
    (enabled : (replay s run).Enabled (.poll i seen))
    (enabled' : (replay s' run').Enabled (.poll i seen'))
    (current : seen ≠ .superseded) (current' : seen' ≠ .superseded) :
    Together s s' (.poll i seen :: run) (.poll i seen' :: run') := by
  obtain ⟨rfl, inStep⟩ := h.inStep.poll enabled enabled' current current'
  refine h.both inStep ?_ ?_ <;> cases seen <;> rfl

theorem work (h : Together s s' run run') {samples samples' : Samples}
    (moved : (replay s run).controller.mode ≠ .none →
      (replay s run).controller.moved samples = (replay s' run').controller.moved samples') :
    Together s s' (.work samples :: run) (.work samples' :: run') := by
  obtain ⟨inStep, asked⟩ := h.inStep.work moved
  exact h.both inStep asked rfl

end Together

/-- **Histories side by side keep two controllers together.** -/
theorem SideBySide.together {s₀ s₀' : Shared α} (opened : s₀.Opened) (opened' : s₀'.Opened)
    {offset : Readings} {run run' start start' : List (Event α)} (unseen : origin start = none)
    (unseen' : origin start' = none) (real : (replay s₀ start).controller.Positional)
    (inStep : (replay s₀ start).InStep (replay s₀' start')) (side : SideBySide offset run run')
    (possible : Possible s₀ (run ++ start)) (possible' : Possible s₀' (run' ++ start')) :
    Together (replay s₀ start) (replay s₀' start') run run' := by
  have real' := inStep.controller.configured.positional real
  -- induction on the last step of the two histories
  induction side with
  | nil => exact ⟨inStep, rfl, rfl⟩
  | left he _ ih =>
      obtain ⟨before, enabled⟩ := possible_cons_append.1 possible
      have real := (wired_replay (possible_append.1 before).2).positional real
      exact (ih before possible').left enabled real he
  | right he _ ih =>
      obtain ⟨before, enabled⟩ := possible_cons_append.1 possible'
      have real' := (wired_replay (possible_append.1 before).2).positional real'
      exact ((ih possible before).symm.left enabled real' he).symm
  | common he _ ih =>
      obtain ⟨before, enabled⟩ := possible_cons_append.1 possible
      obtain ⟨before', enabled'⟩ := possible_cons_append.1 possible'
      have real := (wired_replay (possible_append.1 before).2).positional real
      exact (ih before before').common real enabled enabled' he
  | poll i current current' _ ih =>
      obtain ⟨before, enabled⟩ := possible_cons_append.1 possible
      obtain ⟨before', enabled'⟩ := possible_cons_append.1 possible'
      exact (ih before before').poll enabled enabled' current current'
  | @work samples run run' earlier ih =>
      obtain ⟨before, -⟩ := possible_cons_append.1 possible
      obtain ⟨before', -⟩ := possible_cons_append.1 possible'
      have together := ih before before'
      refine together.work fun moving => ?_
      -- both sides measure from their motion's own start, which is off by the same offset
      have moving' := together.inStep.controller.mode ▸ moving
      have moved := moved_eq_movedBy opened before
      have moved' := moved_eq_movedBy opened' before'
      rw [replay_append] at moved moved'
      rw [moved moving, moved' moving', movedBy, movedBy,
        origin_sideBySide earlier unseen unseen']
      cases origin (run ++ start) with
      | none => exact (Controller.travel_shifted ..).symm
      | some b => exact (Controller.travel_shifted ..).symm

/-! ### The theorem -/

/-- **Nothing before a motion tells on it.**  Two controllers with the same settings and loops of
the same make, each after a run of its own, launch the same motion at the same instant.  If from
then on their clients wait or call alike, and their histories go on side by side, they are always in
the same mode, the loops at work have the same error, the same output and the same report, and the
same orders have been given and the same waits have returned, at the same times. -/
theorem forgets_past {s₀ s₀' : Shared α} (opened : s₀.Opened) (opened' : s₀'.Opened)
    {past past' run run' : List (Event α)} {i i' : Nat} {m : Controller.Motion α}
    {offset : Readings} (possible : Possible s₀ (run ++ .launch i :: past))
    (possible' : Possible s₀' (run' ++ .launch i' :: past'))
    (real : s₀.controller.Positional)
    (configured : (replay s₀ past).controller.Configured (replay s₀' past').controller)
    (full : s₀.drive.full = s₀'.drive.full) (now : (replay s₀ past).now = (replay s₀' past').now)
    (accepted : ((replay s₀ past).clients i).motion? = some m)
    (accepted' : ((replay s₀' past').clients i').motion? = some m)
    (clients : ∀ j, ((replay s₀ (.launch i :: past)).clients j).Alike
      ((replay s₀' (.launch i' :: past')).clients j))
    (side : SideBySide offset run run') :
    let s := replay s₀ (run ++ .launch i :: past)
    let s' := replay s₀' (run' ++ .launch i' :: past')
    s.controller.mode = s'.controller.mode ∧
      (∀ slot ∈ s.controller.mode.slots,
        (s.controller.loop slot).face s.now = (s'.controller.loop slot).face s'.now) ∧
      commands (replay s₀ (.launch i :: past)) run =
        commands (replay s₀' (.launch i' :: past')) run' ∧
      returns (replay s₀ (.launch i :: past)) run =
        returns (replay s₀' (.launch i' :: past')) run' := by
  obtain ⟨before, -⟩ := possible_append.1 possible
  obtain ⟨before', -⟩ := possible_append.1 possible'
  have positional := (wired_replay before.1).positional real
  have inStep : (replay s₀ (.launch i :: past)).InStep (replay s₀' (.launch i' :: past')) := by
    obtain ⟨m₁, hm, e⟩ := launch_cases before.2
    obtain ⟨m₂, hm', e'⟩ := launch_cases before'.2
    cases accepted.symm.trans hm
    cases accepted'.symm.trans hm'
    refine ⟨?_, ?_, ?_, clients⟩
    · rw [replay_cons, replay_cons, e, e']
      exact .launch positional configured m
    · rw [full_replay before, full_replay before', full]
    · rw [replay_cons, replay_cons, e, e']
      exact now
  have together := side.together opened opened' rfl rfl ((wired_replay before).positional real)
    inStep possible possible'
  intro s s'
  have here : s.InStep s' := by
    have inStep := together.inStep
    rwa [← replay_append, ← replay_append] at inStep
  refine ⟨here.controller.mode, ?_, together.commands, together.returns⟩
  intro slot hs
  rw [here.controller.loops slot hs, here.now]

/-- A position loop with something to remember of every step. -/
def mindful : Loop Float := .position (.new ⟨1, 1, 1, 0⟩ ⟨50, 100000, 50⟩ 10000000)

/-- A turn under way when it was stopped, and a move accepted over it. -/
def busy : List (Event Float) :=
  [.ask 0 (.move ⟨2⟩), .pass 10000000, .ask 1 .stop, .work ⟨⟨0, 0⟩, ⟨70, -3⟩⟩, .wake,
    .start ⟨0, 0⟩, .launch 0, .ask 0 (.turn ⟨90⟩)]

/-- The same move accepted before there was any other. -/
def idle : List (Event Float) := [.ask 0 (.move ⟨2⟩), .start ⟨5, 5⟩, .pass 10000000]

/-- A move followed until it has settled, with sensors off by an offset. -/
def followed (offset : Readings) : List (Event Float) :=
  [.poll 1 .finished, .pass 50000000, .poll 1 .pending, .pass 50000000, .poll 1 .pending, .look 1,
    .wait 1, .work ((Samples.mk ⟨70, -3⟩ ⟨71, -2⟩).shifted offset), .wake]

theorem sideBySide_followed (offset : Readings) :
    SideBySide offset (followed ⟨0, 0⟩) (followed offset) := by
  have current : Controller.Verdict.pending ≠ .superseded := nofun
  have samples : (Samples.mk ⟨70, -3⟩ ⟨71, -2⟩).shifted ⟨0, 0⟩ = Samples.mk ⟨70, -3⟩ ⟨71, -2⟩ := rfl
  have worked : SideBySide offset (α := Float)
      [.work ((Samples.mk ⟨70, -3⟩ ⟨71, -2⟩).shifted ⟨0, 0⟩), .wake]
      [.work ((Samples.mk ⟨70, -3⟩ ⟨71, -2⟩).shifted offset), .wake] := by
    rw [samples]
    exact .work _ (.left rfl (.right rfl .nil))
  have looked := SideBySide.left (e := .look 1) rfl (.right (e := .look 1) rfl
    (.common (e := .wait 1) rfl worked))
  exact .poll 1 nofun nofun (.common rfl (.poll 1 current current
    (.common rfl (.poll 1 current current looked))))

/-- The wait for the move returns at the same time, whatever was before it. -/
theorem forgets_past_of_busy :
    returns (replay (bench mindful mindful mindful) (.launch 0 :: busy)) (followed ⟨0, 0⟩) =
        [(110000000, 1)] ∧
      returns (replay (bench mindful mindful mindful) (.launch 0 :: idle))
        (followed ⟨1000, -2147483647⟩) = [(110000000, 1)] := by
  have possible : Possible (bench mindful mindful mindful)
      (followed ⟨0, 0⟩ ++ .launch 0 :: busy) := by decide +kernel
  have possible' : Possible (bench mindful mindful mindful)
      (followed ⟨1000, -2147483647⟩ ++ .launch 0 :: idle) := by decide +kernel
  have returned : returns (replay (bench mindful mindful mindful) (.launch 0 :: busy))
      (followed ⟨0, 0⟩) = [(110000000, 1)] := by decide +kernel
  refine ⟨returned, ?_⟩
  obtain ⟨launched, -⟩ := possible_append.1 possible
  obtain ⟨launched', -⟩ := possible_append.1 possible'
  have configured : (replay (bench mindful mindful mindful) busy).controller.Configured
      (replay (bench mindful mindful mindful) idle).controller :=
    (configured_replay launched.1 (by decide)).symm.trans
      (configured_replay launched'.1 (by decide))
  have clients : ∀ j, ((replay (bench mindful mindful mindful) (.launch 0 :: busy)).clients j).Alike
      ((replay (bench mindful mindful mindful) (.launch 0 :: idle)).clients j) := by
    intro j
    rcases j with _ | _ | j
    · exact .of_free (by decide +kernel) (by decide +kernel)
    · exact .of_free (by decide +kernel) (by decide +kernel)
    · have others : ∀ past ∈ [Event.launch 0 :: busy, .launch 0 :: idle], ∀ e ∈ past,
          e.client? ≠ some (j + 2) := by simp [busy, idle, Event.client?]
      rw [clients_replay_of_ne launched (others _ (by simp)),
        clients_replay_of_ne launched' (others _ (by simp))]
      exact .refl _
  have accepted : ∀ {s : Shared Float} {x : Length Float}, s.controller.ignoresMove x = false →
      ((s.after (.ask 0 (.move x))).clients 0).motion? = some (.move x) := by
    intro s x heeded
    have accepted : s.controller.motion? (.move x) = some (.move x) := by
      rw [Controller.motion?, Controller.acceptMove, heeded]
      rfl
    rw [after_ask_of_accepted accepted, clients_setClient_self]
    rfl
  obtain ⟨-, -, -, same⟩ := forgets_past (opened_bench ..) (opened_bench ..) possible possible'
    (fun slot => by cases slot <;> rfl) configured rfl (by decide +kernel)
    (by rw [busy, replay_cons]; exact accepted (by decide +kernel))
    (by rw [idle, replay_cons]; exact accepted (by decide +kernel)) clients (sideBySide_followed _)
  exact same.symm.trans returned

end Shared

end Drivetrain
