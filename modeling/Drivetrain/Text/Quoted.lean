/-
Quoted text: a text between quotes in which every character can be told from its neighbors.

* `Drivetrain.Text.quoted` — a text as it is quoted in a message;
* `Drivetrain.Text.byName` — a name set apart from the sentence around it.
-/

import Drivetrain.Text.Unprintable

set_option relaxedAutoImplicit false
set_option autoImplicit false

namespace Drivetrain.Text

/-- The digits of a number to base sixteen. -/
def hexDigits (n : Nat) : List Char := Nat.toDigits 16 n

/-- A character by its number, in the form `\u\x7b…\x7d`. -/
def byNumber (c : Char) : List Char := ['\\', 'u', '\x7b'] ++ hexDigits c.toNat ++ ['\x7d']

/-- **How a character is quoted**: the quote, the backslash and the common control characters behind
a backslash, what cannot be seen by its number, all else as it is. -/
def quotedChar (c : Char) : List Char :=
  if c = '"' then ['\\', '"']
  else if c = '\\' then ['\\', '\\']
  else if c = '\n' then ['\\', 'n']
  else if c = '\r' then ['\\', 'r']
  else if c = '\t' then ['\\', 't']
  else if c = '\x00' then ['\\', '0']
  else if isUnprintable c then byNumber c
  else [c]

/-- **A text as it is quoted in a message.** -/
def quoted (s : String) : String :=
  String.ofList (['"'] ++ s.toList.flatMap quotedChar ++ ['"'])

/-- A name set apart from the sentence around it. -/
def byName (s : String) : String := "\x60" ++ s ++ "\x60"

end Drivetrain.Text
