/-
A demonstration: a straight move and a turn on simulated motors, and a report of both.

* `Drivetrain.Demo.run` — the demonstration with a given configuration file.
-/

import Drivetrain.Builder
import Drivetrain.Config.File
import Drivetrain.Session.Wait

set_option relaxedAutoImplicit false
set_option autoImplicit false

namespace Drivetrain.Demo

open Decimal (fixed)

/-- Where the configuration of the demonstration is kept. -/
def configPath : String := "config/controller.toml"

/-- **How a demonstration went.** -/
structure Outcome where
  lines : List String
  journal : List (Notice Float)
  /-- Why it failed, if it did. -/
  failure : Option (SetupError Float)

/-- Looks after which a motion is taken to be endless. -/
def patience : Nat := 1000000000

/-- The line that sets parts of the output apart. -/
def rule : String := "==========================================="

def heading : List String := [rule, "Chassis Controller Simulation", rule, ""]

def scalesLine (s : Scales Float) : String :=
  s!"Scales: {fixed 2 s.straight} deg/m straight, {fixed 3 s.turn} deg/deg turn"

def readingsLine (r : Readings) : String := s!"Sensors: left {r.left} deg, right {r.right} deg"

/-- The readings of both sides, and the session after they were taken. -/
def look (s : Session Float) : Readings × Session Float :=
  let (readings, drive) := s.drive.sense s.now
  (readings, { s with drive := drive })

/-- A motion that is waited for: the lines that report it and the session after it, if it ends. -/
def motion (s : Session Float) (request : Controller.Request Float) (title : String) :
    Option (List String × Session Float) := do
  let w ← (s.request request).wait ⟨[], none⟩ patience
  let (readings, after) := look w.session
  some (["", s!"{title} in {Text.duration (w.session.now - s.now)}", readingsLine readings], after)

/-- The true position of a simulated motor's shaft. -/
def position (now : Nat) : Motor Float → Float
  | .simulated m => (m.locate now).1
  | .bench m => m.encoder

def shaftsLine (s : Session Float) : String :=
  let shafts := s.drive.motors.leads.map (position s.now)
  s!"Shaft positions: left {fixed 1 shafts.left} deg, right {fixed 1 shafts.right} deg"

def summary (r : TimingReport) : List String :=
  ["=== Control Loop Metrics ===",
    s!"Active ticks: {r.ticks}",
    s!"Overruns: {r.overruns}",
    s!"Tick P50: {Text.duration r.p50}, P99: {Text.duration r.p99}, Max: {Text.duration r.max}",
    rule]

/-- The demonstration in a session whose cycle runs. -/
def play (s : Session Float) : List String × Session Float :=
  let opening := heading ++ [scalesLine s.controller.scales]
  match motion s (.move ⟨0.5⟩) "Moved 0.5 m" with
  | none => (opening, s)
  | some (moved, s) =>
      match motion s (.turn ⟨90⟩) "Turned 90 deg" with
      | none => (opening ++ moved, s)
      | some (turned, s) =>
          (opening ++ moved ++ turned ++ ["", shaftsLine s, ""] ++ summary s.timing.report, s)

/-- The builder of the demonstration. -/
def builder (config : Config Float) : Builder Float :=
  let motor : Motor Float := .simulated (.new config.gearset 0)
  (Builder.new.give (.config config)).give (.motors (.pair motor motor))

/-- **The demonstration** with what its configuration file holds. -/
def run (content : Except ReadFailure String) : Outcome :=
  match Config.load configPath content with
  | (.error e, notices) => ⟨heading, notices, some e⟩
  | (.ok config, notices) =>
      let b := builder config
      match b.build with
      | .error e => ⟨heading, notices ++ b.announce, some e⟩
      | .ok s =>
          let (lines, s) := play s
          ⟨lines, notices ++ s.close.journal.toList, none⟩

end Drivetrain.Demo
