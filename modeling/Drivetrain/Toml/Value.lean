/-
The values of a settings file.

* `Drivetrain.Toml.Value` — a value;
* `Drivetrain.Toml.Node` — a value or table while the file is being read, when it still matters how
  a table came to be;
* `Drivetrain.Toml.Node.insert` — one more entry, behind a dotted key;
* `Drivetrain.Toml.Node.toValue` — the value once the file has been read.
-/

set_option relaxedAutoImplicit false
set_option autoImplicit false

namespace Drivetrain.Toml

/-- **A value.**  Entries of a table stand in the order in which they were written. -/
inductive Value where
  | text (value : String)
  | integer (value : Int)
  | float (value : Float)
  | boolean (value : Bool)
  /-- A date, a time or both; nothing depends on which. -/
  | moment
  | array (elements : List Value)
  | table (entries : List (String × Value))

/-- **A value or table while the file is being read.**  A table is `implicit` while nothing but the
path to a table inside it has named it, and `dotted` if a dotted key made it. -/
inductive Node where
  | value (value : Value)
  | table (implicit dotted : Bool) (entries : List (String × Node))
  | tables (elements : List Node)

namespace Node

def emptyTable : Node := table false false []

def lookup (key : String) : List (String × Node) → Option Node
  | [] => none
  | (k, n) :: rest => if k = key then some n else lookup key rest

/-- The entries with that of a key changed, in its place. -/
def replace (key : String) (node : Node) : List (String × Node) → List (String × Node)
  | [] => []
  | (k, n) :: rest => if k = key then (k, node) :: rest else (k, n) :: replace key node rest

def remove (key : String) (entries : List (String × Node)) : List (String × Node) :=
  entries.filter (·.1 != key)

/-- **The table that a path leads to, changed.**  Missing tables on the way are made, and are
`dotted` if the path is that of a dotted key.  The path may not lead through a value, and a dotted
key not through a table with a header of its own; through a list of tables it leads into the
last. -/
def update {β : Type} (dotted : Bool) :
    List String → (Node → Option (Node × β)) → Node → Option (Node × β)
  | [], f, n => f n
  | key :: path, f, table implicit dotted' entries =>
      match lookup key entries with
      | none => do
          let (child, b) ← update dotted path f (table true dotted [])
          some (table implicit dotted' (entries ++ [(key, child)]), b)
      | some (value _) => none
      | some (tables elements) => do
          let last ← elements.getLast?
          let (child, b) ← update dotted path f last
          some (table implicit dotted' (replace key (tables (elements.dropLast ++ [child])) entries),
            b)
      | some (table implicit' dotted'' entries') =>
          if dotted && !implicit' then none
          else do
            let (child, b) ← update dotted path f (table implicit' dotted'' entries')
            some (table implicit dotted' (replace key child entries), b)
  | _ :: _, _, _ => none

/-- One more entry in a table.  A table that dotted keys made takes entries behind dotted keys
only, and every other table only entries of its own. -/
def push (behindDots : Bool) (key : String) (node : Node) : Node → Option (Node × Unit)
  | table implicit dotted entries =>
      if dotted != behindDots then none
      else
        match lookup key entries with
        | none => some (table implicit dotted (entries ++ [(key, node)]), ())
        | some _ => none
  | _ => none

/-- **One more entry**, behind a dotted key whose last part is `key`. -/
def insert (t : Node) (path : List String) (key : String) (node : Node) : Option Node :=
  (t.update true path (push (!path.isEmpty) key node)).map (·.1)

mutual

/-- **The value once the file has been read.** -/
def toValue : Node → Value
  | value v => v
  | table _ _ entries => .table (entryValues entries)
  | tables elements => .array (elementValues elements)

def elementValues : List Node → List Value
  | [] => []
  | n :: rest => n.toValue :: elementValues rest

def entryValues : List (String × Node) → List (String × Value)
  | [] => []
  | (key, n) :: rest => (key, n.toValue) :: entryValues rest

end

end Node

end Drivetrain.Toml
