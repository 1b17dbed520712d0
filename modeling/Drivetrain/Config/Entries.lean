/-
Reading a configuration from the entries of a settings file.

Entries are read in the order in which they were written, and the first that has the wrong type is
reported.  Entries that no configuration has are passed over.

* `Drivetrain.Config.ofEntries` — a configuration from entries;
* `Drivetrain.Config.ofText` — a usable configuration from the text of a file.
-/

import Drivetrain.Config
import Drivetrain.Toml.Document

set_option relaxedAutoImplicit false
set_option autoImplicit false

namespace Drivetrain

open Toml (Value Problem Found)

/-- What a value is called in place of one of the right type. -/
def Toml.Value.found : Value → Found
  | .text s => .text s
  | .integer n => .integer n
  | .float x => .float x
  | .boolean b => .boolean b
  | .array _ => .sequence
  | .moment | .table _ => .map

namespace Config

/-! ### Values of a type -/

/-- A value as a number, whole or not. -/
def number? : Value → Option Float
  | .float x => some x
  | .integer n => some (Float.ofInt n)
  | _ => none

/-- A number, which may be written as a whole one. -/
def number (v : Value) : Except Problem Float :=
  match number? v with
  | some x => .ok x
  | none => .error (.wrongType v.found "f64")

/-- A count, which may not be negative. -/
def count : Value → Except Problem Nat
  | .integer n => if 0 ≤ n then .ok n.toNat else .error (.wrongValue (.integer n) "u64")
  | v => .error (.wrongType v.found "u64")

/-- A cartridge: its color, or a table whose only key is a color and whose value is empty. -/
def color (v : Value) : Except Problem Gearset :=
  let named (s : String) : Except Problem Gearset :=
    match Gearset.ofColor? s with
    | some g => .ok g
    | none => .error (.unknownName s (Gearset.all.map Gearset.color))
  match v with
  | .text s => named s
  | .table [(key, value)] => do
      let g ← named key
      match value with
      | .table [] | .array [] => .ok g
      | _ => .error .malformed
  | _ => .error .malformed

/-! ### Records -/

/-- **How a record is read**: a value put under one of its keys, if it has the key. -/
abbrev Fields (σ : Type) := List (String × (Value → σ → Except Problem σ))

/-- The entries of a table put into a record, in the order in which they were written. -/
def readTable {σ : Type} (fields : Fields σ) (record : σ) :
    List (String × Value) → Except Problem σ
  | [] => .ok record
  | (key, v) :: rest => do
      let record ← match fields.lookup key with
        | some put => put v record
        | none => .ok record
      readTable fields record rest

/-- The elements of an array put into a record, in the order of its keys; the record keeps what they
do not reach, and what passes its keys is passed over. -/
def readArray {σ : Type} (record : σ) : Fields σ → List Value → Except Problem σ
  | (_, put) :: fields, v :: vs => do readArray (← put v record) fields vs
  | _, _ => .ok record

/-- A record from a table, or from an array of its values. -/
def readRecord {σ : Type} (name : String) (fields : Fields σ) (standard : σ) (v : Value) :
    Except Problem σ :=
  match v with
  | .table entries => readTable fields standard entries
  | .moment => .ok standard
  | .array vs => readArray standard fields vs
  | _ => .error (.wrongType v.found s!"struct {name}")

/-- The gains of a loop; those not given are zero. -/
def gains (v : Value) : Except Problem (Gains Float) :=
  let fields : Fields (Gains Float) :=
    [("kp", fun v g => do return { g with kp := ← number v }),
      ("ki", fun v g => do return { g with ki := ← number v }),
      ("kd", fun v g => do return { g with kd := ← number v }),
      ("kbias", fun v g => do return { g with kbias := ← number v })]
  readRecord "PidGains" fields ⟨0, 0, 0, 0⟩ v

/-- When a loop counts as settled; what is not given is standard. -/
def settling (v : Value) : Except Problem (SettleSettings Float) :=
  let fields : Fields (SettleSettings Float) :=
    [("error", fun v s => do return { s with error := ← number v }),
      ("derivative", fun v s => do return { s with derivative := ← number v }),
      ("time_ms", fun v s => do return { s with milliseconds := ← count v })]
  readRecord "SettleSettings" fields .standard v

/-- Scales: a table with both of them, or else with both dimensions of the wheels. -/
def scalesEntry (v : Value) : Except Problem (ScalesEntry Float) :=
  let entries := match v with
    | .table entries => entries
    | _ => []
  let pair (a b : String) : Option (Float × Float) := do
    some (← number? (← entries.lookup a), ← number? (← entries.lookup b))
  match pair "straight" "turn", pair "wheel_diameter" "wheelbase" with
  | some (straight, turn), _ => .ok (.raw straight turn)
  | none, some (diameter, wheelbase) => .ok (.dimensions diameter wheelbase)
  | none, none => .error (.noShape "ScalesConfig")

/-! ### The whole configuration -/

/-- The keys of a configuration. -/
def fields : Fields (Config Float) :=
  [("loop_period_ms", fun v c => do return { c with loopPeriod := ← count v }),
    ("gearset", fun v c => do return { c with gearset := ← color v }),
    ("gear_ratio", fun v c => do return { c with gearRatio := ← number v }),
    ("max_velocity", fun v c => do return { c with maxVelocity := some (← number v) }),
    ("max_voltage", fun v c => do return { c with maxVoltage := ← number v }),
    ("scales", fun v c => do return { c with scales := ← scalesEntry v }),
    ("distance_gains", fun v c => do return { c with distanceGains := ← gains v }),
    ("turn_gains", fun v c => do return { c with turnGains := ← gains v }),
    ("angle_gains", fun v c => do return { c with angleGains := some (← gains v) }),
    ("settle", fun v c => do return { c with settle := ← settling v }),
    ("move_threshold_m", fun v c => do return { c with moveThreshold := ← number v }),
    ("turn_threshold_deg", fun v c => do return { c with turnThreshold := ← number v })]

/-- **A configuration from entries**; what they do not give is standard. -/
def ofEntries (entries : List (String × Value)) : Except Problem (Config Float) :=
  readTable fields .standard entries

/-- A configuration from the text of a file, usable or not. -/
def read (text : String) : Except Problem (Config Float) :=
  match Toml.parse text with
  | some entries => ofEntries entries
  | none => .error .malformed

/-- **A usable configuration from the text of a file.** -/
def ofText (text : String) : Except (SetupError Float) (Config Float) :=
  match read text with
  | .error problem => .error (.config (.unreadable problem))
  | .ok config => config.checked

end Config

end Drivetrain
