/-
Readers: functions that take something from the front of a text and give back the rest.

* `Drivetrain.Toml.Reader` — a reader, which answers `none` where the text breaks the rules;
* `Drivetrain.Toml.skipBlanks`, `Drivetrain.Toml.skipTrivia` — what may stand between two things, on
  one line or on several;
* `Drivetrain.Toml.lineEnd` — the end of a line, with a comment before it.
-/

set_option relaxedAutoImplicit false
set_option autoImplicit false

namespace Drivetrain.Toml

/-- **A reader**: what it takes from the front of a text, and the rest. -/
abbrev Reader (β : Type) := List Char → Option (β × List Char)

/-- A blank inside a line. -/
def isBlank (c : Char) : Bool := c = ' ' || c = '\t'

/-- A character that may stand in a comment: no control character but the tab. -/
def isPlain (c : Char) : Bool := c = '\t' || (decide (' ' ≤ c) && c != '\x7f')

/-- The text without the blanks at its front. -/
def skipBlanks (cs : List Char) : List Char := cs.dropWhile isBlank

/-- The text without the comment at its front, if there is one. -/
def skipComment : List Char → List Char
  | '#' :: cs => cs.dropWhile isPlain
  | cs => cs

/-- The text after a line break, if there is one at its front. -/
def lineBreak? : List Char → Option (List Char)
  | '\n' :: cs => some cs
  | '\r' :: '\n' :: cs => some cs
  | _ => none

/-- **The end of a line**: blanks, a comment, and a line break or the end of the text. -/
def lineEnd (cs : List Char) : Option (List Char) :=
  match skipComment (skipBlanks cs) with
  | [] => some []
  | rest => lineBreak? rest

/-- The text without the blanks, comments and line breaks at its front.  A comment in it has to end
with its line. -/
def skipTrivia (inComment : Bool) : List Char → Option (List Char)
  | [] => if inComment then none else some []
  | '\n' :: cs => skipTrivia false cs
  | '\r' :: '\n' :: cs => skipTrivia false cs
  | c :: cs =>
      if inComment then if isPlain c then skipTrivia true cs else none
      else if isBlank c then skipTrivia false cs
      else if c = '#' then skipTrivia true cs
      else some (c :: cs)

end Drivetrain.Toml
