/-
Dates and times.

* `Drivetrain.Toml.isMoment` — whether a word is a date, a time, or a date with a time;
* `Drivetrain.Toml.isDate`, `Drivetrain.Toml.isClock` — the parts of one that is split by a blank.
-/

set_option relaxedAutoImplicit false
set_option autoImplicit false

namespace Drivetrain.Toml

/-- The number that a given count of decimal digits stands for. -/
def decimal? (count : Nat) (cs : List Char) : Option Nat :=
  if cs.length = count ∧ cs.all Char.isDigit then
    some (cs.foldl (fun n c => n * 10 + (c.toNat - '0'.toNat)) 0)
  else none

/-- Whether two digits stand for a number in a range. -/
def inRange (lo hi : Nat) (cs : List Char) : Bool :=
  match decimal? 2 cs with
  | some n => decide (lo ≤ n) && decide (n ≤ hi)
  | none => false

/-- Whether a year has a 29th of February. -/
def isLeapYear (year : Nat) : Bool := year % 4 == 0 && (year % 100 != 0 || year % 400 == 0)

def daysIn (year month : Nat) : Nat :=
  match month with
  | 2 => if isLeapYear year then 29 else 28
  | 4 | 6 | 9 | 11 => 30
  | _ => 31

/-- **Whether a word is a date.** -/
def isDate (cs : List Char) : Bool :=
  match cs with
  | [y₁, y₂, y₃, y₄, '-', m₁, m₂, '-', d₁, d₂] =>
      match decimal? 4 [y₁, y₂, y₃, y₄], decimal? 2 [m₁, m₂] with
      | some year, some month =>
          decide (1 ≤ month) && decide (month ≤ 12) && inRange 1 (daysIn year month) [d₁, d₂]
      | _, _ => false
  | _ => false

/-- Whether the end of a word is nothing, or a fraction of a second. -/
def isFraction : List Char → Bool
  | [] => true
  | '.' :: ds => !ds.isEmpty && ds.all Char.isDigit
  | _ => false

/-- Whether the end of a word is a distance from universal time. -/
def isOffset : List Char → Bool
  | ['Z'] | ['z'] => true
  | [sign, h₁, h₂, ':', m₁, m₂] =>
      (sign = '+' || sign = '-') && inRange 0 23 [h₁, h₂] && inRange 0 59 [m₁, m₂]
  | _ => false

/-- Whether a word is a time, followed by what `rest` accepts.  A minute may have a leap
second. -/
def isTime (rest : List Char → Bool) : List Char → Bool
  | h₁ :: h₂ :: ':' :: m₁ :: m₂ :: ':' :: s₁ :: s₂ :: tail =>
      inRange 0 23 [h₁, h₂] && inRange 0 59 [m₁, m₂] && inRange 0 60 [s₁, s₂] && rest tail
  | _ => false

/-- Whether a word ends in a fraction, an offset or both. -/
def isTimeEnd (cs : List Char) : Bool :=
  let fraction := cs.takeWhile fun c => c = '.' || c.isDigit
  let offset := cs.drop fraction.length
  isFraction fraction && (offset.isEmpty || isOffset offset)

/-- **Whether a word is the time of a date**, with or without an offset. -/
def isClock (cs : List Char) : Bool := isTime isTimeEnd cs

/-- **Whether a word is a date, a time, or a date with a time.** -/
def isMoment (cs : List Char) : Bool :=
  isTime isFraction cs || isDate cs ||
    (isDate (cs.take 10) &&
      match cs.drop 10 with
      | 'T' :: clock | 't' :: clock => isClock clock
      | _ => false)

end Drivetrain.Toml
