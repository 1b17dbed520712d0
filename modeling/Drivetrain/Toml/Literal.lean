/-
Values as they are written.

Values stand inside each other to a limited depth, and the reader of a depth is made from that of
the depth below it.

* `Drivetrain.Toml.word` — a value without quotes or brackets;
* `Drivetrain.Toml.literal` — any value.
-/

import Drivetrain.Toml.Moment
import Drivetrain.Toml.Number
import Drivetrain.Toml.Value

set_option relaxedAutoImplicit false
set_option autoImplicit false

namespace Drivetrain.Toml

/-! ### Words -/

/-- A character of a value without quotes or brackets. -/
def isWordChar (c : Char) : Bool :=
  c.isAlphanum || c = '_' || c = '+' || c = '-' || c = '.' || c = ':'

/-- What a word stands for. -/
def word? (cs : List Char) : Option Value :=
  if cs = "true".toList then some (.boolean true)
  else if cs = "false".toList then some (.boolean false)
  else if isMoment cs then some .moment
  else
    match integer? cs with
    | some n => some (.integer n)
    | none => (float? cs).map .float

/-- The text after the time of a date that a blank parts from it, if there is one. -/
def dropClock (date rest : List Char) : List Char :=
  match rest with
  | ' ' :: more =>
      let clock := more.takeWhile isWordChar
      if isDate date && isClock clock then more.drop clock.length else rest
  | _ => rest

/-- **A value without quotes or brackets.** -/
def word (cs : List Char) : Option (Value × List Char) := do
  let w := cs.takeWhile isWordChar
  let rest := cs.drop w.length
  some (← word? w, dropClock w rest)

/-! ### Arrays and tables -/

/-- The elements of an array after its opening bracket, or after a comma in it. -/
def elements (element : Reader Value) : Nat → Reader (List Value)
  | 0, _ => none
  | fuel + 1, cs => do
      let cs ← skipTrivia false cs
      match cs with
      | ']' :: rest => some ([], rest)
      | _ => do
          let (v, rest) ← element cs
          match ← skipTrivia false rest with
          | ',' :: rest => do
              let (vs, rest) ← elements element fuel rest
              some (v :: vs, rest)
          | ']' :: rest => some ([v], rest)
          | _ => none

/-- A key, a sign of equality and a value. -/
def entry (value : Reader Value) (cs : List Char) :
    Option ((List String × String × Value) × List Char) := do
  let (keys, rest) ← dottedKey cs
  let key ← keys.getLast?
  match rest with
  | '=' :: rest => do
      let (v, rest) ← value (skipBlanks rest)
      some ((keys.dropLast, key, v), rest)
  | _ => none

/-- The entries of a table between braces, after its opening brace or a comma, put into the table
read so far. -/
def entries (value : Reader Value) : Nat → Node → Reader Node
  | 0, _, _ => none
  | fuel + 1, t, cs => do
      let ((path, key, v), rest) ← entry value cs
      let t ← t.insert path key (.value v)
      match skipBlanks rest with
      | ',' :: rest => entries value fuel t rest
      | '\x7d' :: rest => some (t, rest)
      | _ => none

/-- A table between braces, after its opening brace. -/
def inlineTable (value : Reader Value) (cs : List Char) : Option (Value × List Char) :=
  match skipBlanks cs with
  | '\x7d' :: rest => some (.table [], rest)
  | rest => (entries value (rest.length + 1) .emptyTable rest).map fun (t, rest) => (t.toValue, rest)

/-- A value inside which others may stand to a given depth. -/
def literalWithin : Nat → Reader Value
  | depth, cs =>
      match cs with
      | '"' :: _ | '\'' :: _ => (text cs).map fun (s, rest) => (.text s, rest)
      | '[' :: rest =>
          match depth with
          | 0 => none
          | depth + 1 =>
              (elements (literalWithin depth) (rest.length + 1) rest).map fun (vs, rest) =>
                (.array vs, rest)
      | '\x7b' :: rest =>
          match depth with
          | 0 => none
          | depth + 1 => inlineTable (literalWithin depth) rest
      | _ => word cs

/-- **Any value.** -/
def literal : Reader Value := literalWithin (nestingLimit - 1)

end Drivetrain.Toml
