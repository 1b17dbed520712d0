/-
Quoted texts and keys.

* `Drivetrain.Toml.text` — a text between quotes, on one line or several, with or without escapes;
* `Drivetrain.Toml.dottedKey` — keys with points between them.
-/

import Drivetrain.Toml.Reader

set_option relaxedAutoImplicit false
set_option autoImplicit false

namespace Drivetrain.Toml

/-! ### Escapes -/

/-- The value of a digit to base sixteen. -/
def hexDigit? (c : Char) : Option Nat :=
  if c.isDigit then some (c.toNat - '0'.toNat)
  else if 'a' ≤ c ∧ c ≤ 'f' then some (c.toNat - 'a'.toNat + 10)
  else if 'A' ≤ c ∧ c ≤ 'F' then some (c.toNat - 'A'.toNat + 10)
  else none

/-- A character by a number of digits to base sixteen.  Numbers that stand for no character are
refused. -/
def charByNumber (digits : Nat) (cs : List Char) : Option (Char × List Char) := do
  let ds ← (cs.take digits).mapM hexDigit?
  if ds.length = digits then
    let n := ds.foldl (fun n d => n * 16 + d) 0
    if n.isValidChar then some (Char.ofNat n, cs.drop digits) else none
  else none

/-- The character that an escape stands for, read after its backslash. -/
def escaped : Reader Char
  | 'b' :: cs => some ('\x08', cs)
  | 't' :: cs => some ('\t', cs)
  | 'n' :: cs => some ('\n', cs)
  | 'f' :: cs => some ('\x0c', cs)
  | 'r' :: cs => some ('\r', cs)
  | '"' :: cs => some ('"', cs)
  | '\\' :: cs => some ('\\', cs)
  | 'u' :: cs => charByNumber 4 cs
  | 'U' :: cs => charByNumber 8 cs
  | _ => none

/-! ### Texts on one line -/

/-- The rest of a text with escapes, after its opening quote. -/
def basicRest : Nat → List Char → Reader (List Char)
  | 0, _, _ => none
  | fuel + 1, taken, cs =>
      match cs with
      | '"' :: rest => some (taken.reverse, rest)
      | '\\' :: rest => do
          let (c, rest) ← escaped rest
          basicRest fuel (c :: taken) rest
      | c :: rest => if isPlain c then basicRest fuel (c :: taken) rest else none
      | [] => none

/-- The rest of a text without escapes, after its opening quote. -/
def literalRest (taken : List Char) : Reader (List Char)
  | '\'' :: rest => some (taken.reverse, rest)
  | c :: rest => if isPlain c then literalRest (c :: taken) rest else none
  | [] => none

/-! ### Texts on several lines -/

/-- The text after the blanks and line breaks that follow an escaped line break, if one is
escaped. -/
def escapedBreak? (cs : List Char) : Option (List Char) :=
  (lineBreak? (skipBlanks cs)).map fun rest => skipBreaks rest
where
  /-- The text without the blanks and line breaks at its front. -/
  skipBreaks : List Char → List Char
    | '\n' :: cs => skipBreaks cs
    | '\r' :: '\n' :: cs => skipBreaks cs
    | c :: cs => if isBlank c then skipBreaks cs else c :: cs
    | [] => []

/-- The rest of a text on several lines, after its opening quotes.  One or two quotes are part of
the text, and so are up to two before the three that close it; line breaks read as one
character. -/
def multilineRest (quote : Char) (escapes : Bool) : Nat → List Char → Reader (List Char)
  | 0, _, _ => none
  | fuel + 1, taken, cs =>
      let quotes := cs.takeWhile (· = quote)
      if 6 ≤ quotes.length then none
      else if 3 ≤ quotes.length then
        some (taken.reverse ++ List.replicate (quotes.length - 3) quote, cs.drop quotes.length)
      else if 0 < quotes.length then
        multilineRest quote escapes fuel (quotes ++ taken) (cs.drop quotes.length)
      else
        match lineBreak? cs with
        | some rest => multilineRest quote escapes fuel ('\n' :: taken) rest
        | none =>
            match cs with
            | [] => none
            | c :: rest =>
                if c = '\\' && escapes then
                  match escapedBreak? rest with
                  | some rest => multilineRest quote escapes fuel taken rest
                  | none => do
                      let (c, rest) ← escaped rest
                      multilineRest quote escapes fuel (c :: taken) rest
                else if isPlain c then multilineRest quote escapes fuel (c :: taken) rest
                else none

/-- A text on several lines, after its opening quotes; a line break right after them is dropped. -/
def multiline (quote : Char) (escapes : Bool) (cs : List Char) : Option (List Char × List Char) :=
  multilineRest quote escapes (cs.length + 1) [] ((lineBreak? cs).getD cs)

/-! ### Texts and keys -/

def lineText : Reader String
  | '"' :: cs => (basicRest (cs.length + 1) [] cs).map fun (t, rest) => (String.ofList t, rest)
  | '\'' :: cs => (literalRest [] cs).map fun (t, rest) => (String.ofList t, rest)
  | _ => none

/-- **A text between quotes.** -/
def text : Reader String
  | '"' :: '"' :: '"' :: cs =>
      (multiline '"' true cs).map fun (t, rest) => (String.ofList t, rest)
  | '\'' :: '\'' :: '\'' :: cs =>
      (multiline '\'' false cs).map fun (t, rest) => (String.ofList t, rest)
  | cs => lineText cs

/-- A character of a key without quotes. -/
def isBare (c : Char) : Bool := c.isAlphanum || c = '_' || c = '-'

/-- A key, with or without quotes. -/
def simpleKey (cs : List Char) : Option (String × List Char) :=
  match cs with
  | '"' :: _ | '\'' :: _ => lineText cs
  | _ =>
      let key := cs.takeWhile isBare
      if key.isEmpty then none else some (String.ofList key, cs.drop key.length)

/-- The parts of a dotted key, with the blanks around them. -/
def keyParts : Nat → Reader (List String)
  | 0, _ => none
  | fuel + 1, cs => do
      let (key, rest) ← simpleKey (skipBlanks cs)
      match skipBlanks rest with
      | '.' :: rest => do
          let (keys, rest) ← keyParts fuel rest
          some (key :: keys, rest)
      | rest => some ([key], rest)

/-- Parts that a dotted key may have, and values that may stand inside each other. -/
def nestingLimit : Nat := 80

/-- **A dotted key**, which may not have too many parts. -/
def dottedKey (cs : List Char) : Option (List String × List Char) := do
  let (keys, rest) ← keyParts (cs.length + 1) cs
  if keys.length < nestingLimit then some (keys, rest) else none

end Drivetrain.Toml
