/-
Blocking waits.

A waiting client looks at the controller, and as long as the motion goes on it sleeps until its next
deadline and looks again.  It follows the motion: when the mode that it watches gives way to
another, it goes on watching that one.  While it sleeps the clock moves, cycles run, and whatever a
script has planned happens at its time.

* `Drivetrain.Session.Script` — what is planned while a call blocks;
* `Drivetrain.Session.Waiting` — a wait that is under way;
* `Drivetrain.Session.Waiting.sleep` — one sleep;
* `Drivetrain.Session.wait` — the whole wait.
-/

import Drivetrain.Session

set_option relaxedAutoImplicit false
set_option autoImplicit false

namespace Drivetrain.Session

variable {α : Type} [Scalar α]

/-- **What is planned while a call blocks.**  Times are counted from the beginning of the call. -/
structure Script (α : Type) where
  /-- What happens, and when, in ascending order of times. -/
  events : List (Nat × Action α)
  /-- When the motion is given up, if it is. -/
  limit : Option Nat

/-- **A wait that is under way.** -/
structure Waiting (α : Type) where
  session : Session α
  /-- What is still planned, at instants of the clock. -/
  events : List (Nat × Action α)
  limit : Option Nat
  /-- The session after each event that happened. -/
  fired : Array (Session α)
  timedOut : Bool

namespace Waiting

/-- The events that happen before a sleep ends: those planned up to its end and up to the limit, an
event whose time is past at once. -/
def fire (w : Waiting α) (wake : Nat) : List (Nat × Action α) → Waiting α
  | [] => { w with events := [] }
  | (instant, action) :: rest =>
      if instant ≤ wake ∧ w.limit.all (instant ≤ ·) then
        let s := (w.session.advanceTo instant).perform action
        fire { w with session := s, fired := w.fired.push s } wake rest
      else { w with events := (instant, action) :: rest }

/-- The motion given up: a stop, every scripted loop settled, and nothing planned any more. -/
def giveUp (w : Waiting α) (instant : Nat) : Waiting α :=
  let settle (slot : Slot) (s : Session α) := s.perform (.scriptSettled slot true)
  let s := (w.session.advanceTo instant).request .stop
  { w with
    session := settle .angle (settle .turn (settle .distance s))
    events := []
    limit := none
    timedOut := true }

/-- **One sleep**, until an instant. -/
def sleep (w : Waiting α) (wake : Nat) : Waiting α :=
  let w := w.fire wake w.events
  let w :=
    match w.limit with
    | some instant => if instant ≤ wake then w.giveUp instant else w
    | none => w
  { w with session := w.session.advanceTo wake }

/-- The looks of a client and its sleeps between them, `none` if `patience` of them do not end the
wait.  `watched` is the mode that it watches, once it has looked which that is. -/
def looks : Nat → Waiting α → Pace → Option Mode → Option (Waiting α)
  | 0, _, _, _ => none
  | patience + 1, w, pace, none =>
      let mode := w.session.controller.mode
      let s := if mode = .none then w.session else w.session.note (.watching mode)
      looks patience { w with session := s } pace (some mode)
  | patience + 1, w, pace, some mode =>
      let s := w.session
      let (verdict, controller) := s.controller.poll mode s.now
      let s := { s with controller := controller }
      match verdict with
      | .finished => some { w with session := s.steer (some .stop) }
      | .superseded =>
          let s := if mode = .none then s else s.note (.superseded controller.mode mode)
          looks patience { w with session := s } pace none
      | .pending =>
          let pace := pace.next controller.period s.now
          let w := { w with session := s }
          let w := if pace.left s.now = 0 then w else w.sleep pace.last
          looks patience w pace (some mode)

end Waiting

/-- **A blocking wait**, `none` if it does not end within `patience` looks. -/
def wait (s : Session α) (script : Script α) (patience : Nat) : Option (Waiting α) :=
  let w : Waiting α :=
    { session := s.note .waiting
      events := script.events.map fun (t, a) => (s.now + t, a)
      limit := script.limit.map (s.now + ·)
      fired := #[]
      timedOut := false }
  (w.looks patience (.startingAt s.now) none).map fun w =>
    { w with session := w.session.note .waited }

end Drivetrain.Session
