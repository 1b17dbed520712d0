/-
Settings files: entries, and headers that say which table the entries after them belong to.

* `Drivetrain.Toml.Document` — what has been read of a file;
* `Drivetrain.Toml.Document.openTable`, `Drivetrain.Toml.Document.openElement` — the two headers;
* `Drivetrain.Toml.parse` — the entries of a whole file.
-/

import Drivetrain.Toml.Literal

set_option relaxedAutoImplicit false
set_option autoImplicit false

namespace Drivetrain.Toml

/-- **What has been read of a file.**  The table that is being filled stands beside the others until
the next header, or the end, puts it into its place. -/
structure Document where
  root : Node
  /-- The table that is being filled. -/
  current : Node
  /-- Where it belongs; nowhere, if it is the root itself. -/
  path : List String
  /-- Whether it is an element of a list of tables. -/
  isElement : Bool

namespace Document

def start : Document := ⟨.emptyTable, .emptyTable, [], false⟩

/-- A table put under its key, where an implicit table gives way to it. -/
def place (key : String) (t : Node) : Node → Option (Node × Unit)
  | .table implicit dotted entries =>
      match Node.lookup key entries with
      | none => some (.table implicit dotted (entries ++ [(key, t)]), ())
      | some (.table true _ _) => some (.table implicit dotted (Node.replace key t entries), ())
      | some _ => none
  | _ => none

/-- A table added to the list of tables under a key. -/
def append (key : String) (added : List Node) : Node → Option (Node × Unit)
  | .table implicit dotted entries =>
      match Node.lookup key entries with
      | none => some (.table implicit dotted (entries ++ [(key, .tables added)]), ())
      | some (.tables elements) =>
          some (.table implicit dotted (Node.replace key (.tables (elements ++ added)) entries), ())
      | some _ => none
  | _ => none

/-- The table under a key taken away, if it may get a header of its own: nothing but paths and
headers of tables inside it may have named it.  A new table, if there is none. -/
def claim (key : String) : Node → Option (Node × Node)
  | .table implicit dotted entries =>
      match Node.lookup key entries with
      | none => some (.table implicit dotted entries, .emptyTable)
      | some (.table true false inner) =>
          some (.table implicit dotted (Node.remove key entries), .table false false inner)
      | some _ => none
  | _ => none

/-- The root after the table that is being filled has been put into its place. -/
def close (d : Document) : Option Node :=
  match d.path.getLast? with
  | none => some d.current
  | some key =>
      (d.root.update false d.path.dropLast
        (if d.isElement then append key [d.current] else place key d.current)).map (·.1)

/-- **The header of a table.** -/
def openTable (d : Document) (path : List String) : Option Document := do
  let key ← path.getLast?
  let (root, current) ← (← d.close).update false path.dropLast (claim key)
  some ⟨root, current, path, false⟩

/-- **The header of an element** of a list of tables. -/
def openElement (d : Document) (path : List String) : Option Document := do
  let key ← path.getLast?
  let (root, _) ← (← d.close).update false path.dropLast (append key [])
  some ⟨root, .emptyTable, path, true⟩

/-- One more entry of the table that is being filled. -/
def insert (d : Document) (path : List String) (key : String) (v : Value) : Option Document :=
  (d.current.insert path key (.value v)).map fun t => { d with current := t }

end Document

/-- What stands on a line: a header, an entry, or neither; and the text after the line. -/
def line (d : Document) (cs : List Char) : Option (Document × List Char) := do
  match skipBlanks cs with
  | '[' :: '[' :: rest => do
      let (path, rest) ← dottedKey rest
      match rest with
      | ']' :: ']' :: rest => some (← d.openElement path, ← lineEnd rest)
      | _ => none
  | '[' :: rest => do
      let (path, rest) ← dottedKey rest
      match rest with
      | ']' :: rest => some (← d.openTable path, ← lineEnd rest)
      | _ => none
  | rest =>
      match lineEnd rest with
      | some rest => some (d, rest)
      | none => do
          let ((path, key, v), rest) ← entry literal rest
          some (← d.insert path key v, ← lineEnd rest)

/-- The lines of a file. -/
def lines : Nat → Document → List Char → Option Document
  | _, d, [] => some d
  | 0, _, _ => none
  | fuel + 1, d, cs => do
      let (d, rest) ← line d cs
      lines fuel d rest

/-- The mark that may stand before the first character of a file. -/
def byteOrderMark : Char := '\uFEFF'

/-- **The entries of a whole file**, if it follows the rules. -/
def parse (s : String) : Option (List (String × Value)) := do
  let cs := s.toList
  let cs := if cs.head? = some byteOrderMark then cs.drop 1 else cs
  let root ← (← lines (cs.length + 1) .start cs).close
  match root.toValue with
  | .table entries => some entries
  | _ => none

end Drivetrain.Toml
