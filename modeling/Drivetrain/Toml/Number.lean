/-
Numbers.

* `Drivetrain.Toml.integer?` — a whole number, to base ten, sixteen, eight or two;
* `Drivetrain.Toml.float?` — a number with a point, an exponent or both, or one that is not finite.
-/

import Drivetrain.Toml.Text

set_option relaxedAutoImplicit false
set_option autoImplicit false

namespace Drivetrain.Toml

/-- The digits of a word after its first, without the underscores between them. -/
def moreDigits (digit? : Char → Option Nat) : List Char → Option (List Nat)
  | [] => some []
  | '_' :: c :: cs => do
      let d ← digit? c
      some (d :: (← moreDigits digit? cs))
  | c :: cs => do
      let d ← digit? c
      some (d :: (← moreDigits digit? cs))

/-- The digits of a word, which may have single underscores between them. -/
def digits (digit? : Char → Option Nat) : List Char → Option (List Nat)
  | [] => none
  | c :: cs => do
      let d ← digit? c
      some (d :: (← moreDigits digit? cs))

/-- The value of a digit to a base. -/
def digitBelow (base : Nat) (c : Char) : Option Nat := (hexDigit? c).filter (· < base)

def ofDigits (base : Nat) (ds : List Nat) : Nat := ds.foldl (fun n d => n * base + d) 0

/-- A word without its sign, and whether that was a minus. -/
def splitSign : List Char → Bool × List Char
  | '-' :: cs => (true, cs)
  | '+' :: cs => (false, cs)
  | cs => (false, cs)

/-- The digits of a whole number to base ten: no zero before others. -/
def wholeDigits (cs : List Char) : Option (List Nat) :=
  match cs with
  | '0' :: _ :: _ => none
  | _ => digits (digitBelow 10) cs

/-- A whole number to base ten with its sign. -/
def signedWhole (cs : List Char) : Option Int := do
  let (negative, cs) := splitSign cs
  let n := ofDigits 10 (← wholeDigits cs)
  some (if negative then -(n : Int) else n)

/-- **A whole number**, which has to fit into sixty-four bits. -/
def integer? (cs : List Char) : Option Int := do
  let n ←
    match cs with
    | '0' :: 'x' :: ds => (digits (digitBelow 16) ds).map fun ds => (ofDigits 16 ds : Int)
    | '0' :: 'o' :: ds => (digits (digitBelow 8) ds).map fun ds => (ofDigits 8 ds : Int)
    | '0' :: 'b' :: ds => (digits (digitBelow 2) ds).map fun ds => (ofDigits 2 ds : Int)
    | _ => signedWhole cs
  if Int64.minValue.toInt ≤ n ∧ n ≤ Int64.maxValue.toInt then some n else none

/-- The machine number nearest to `ds * 10 ^ exponent`.  Numbers far outside the range of machine
numbers are told by their magnitude. -/
def nearest (ds : List Nat) (exponent : Int) : Float :=
  let ds := ds.dropWhile (· = 0)
  let magnitude := exponent + ds.length
  if ds.isEmpty ∨ magnitude < -330 then 0.0
  else if 310 < magnitude then 1.0 / 0.0
  else Float.ofScientific (ofDigits 10 ds) (exponent < 0) exponent.natAbs

/-- The exponent of a number, after its letter. -/
def exponent? (cs : List Char) : Option Int := do
  let (negative, cs) := splitSign cs
  let n := ofDigits 10 (← digits (digitBelow 10) cs)
  some (if negative then -(n : Int) else n)

/-- Whether a letter stands before an exponent. -/
def isExponentMark (c : Char) : Bool := c = 'e' || c = 'E'

/-- The magnitude of a number with a point, an exponent or both. -/
def magnitude? (cs : List Char) : Option Float := do
  let whole := cs.takeWhile fun c => c != '.' && !isExponentMark c
  let ws ← wholeDigits whole
  match cs.drop whole.length with
  | '.' :: rest => do
      let places := rest.takeWhile fun c => !isExponentMark c
      let ps ← digits (digitBelow 10) places
      let e ← match rest.drop places.length with
        | [] => some 0
        | _ :: e => exponent? e
      some (nearest (ws ++ ps) (e - ps.length))
  | _ :: e => do some (nearest ws (← exponent? e))
  | [] => none

/-- **A number that is not whole.**  One too large for a machine number is refused, but a negative
one is minus infinity. -/
def float? (cs : List Char) : Option Float :=
  let (negative, rest) := splitSign cs
  let signed (x : Float) : Float := if negative then -x else x
  if rest = ['i', 'n', 'f'] then some (signed (1.0 / 0.0))
  else if rest = ['n', 'a', 'n'] then some (0.0 / 0.0)
  else do
    let x := signed (← magnitude? rest)
    if x.isInf && !negative then none else some x

end Drivetrain.Toml
