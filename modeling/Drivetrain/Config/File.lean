/-
Loading a configuration from a file.

* `Drivetrain.ReadFailure` — why a file cannot be read;
* `Drivetrain.Folder` — a folder held in memory, and `Drivetrain.Folder.read` a file of it;
* `Drivetrain.Config.load` — the configuration that a file holds, and the standard one where there
  is no file.
-/

import Drivetrain.Config.Entries
import Drivetrain.Notice

set_option relaxedAutoImplicit false
set_option autoImplicit false

namespace Drivetrain

/-- **Why a file cannot be read.** -/
inductive ReadFailure where
  | missing
  /-- A folder has the name of the file. -/
  | isFolder
  /-- A file stands where the path needs a folder. -/
  | notFolder
  /-- The path, or a name in it, is too long. -/
  | nameTooLong
  /-- The path holds a character that ends names. -/
  | nameWithNull
  /-- The file is no text. -/
  | notText
  | other (text : String)
  deriving Repr, DecidableEq

def ReadFailure.message : ReadFailure → String
  | missing => "No such file or directory (os error 2)"
  | isFolder => "Is a directory (os error 21)"
  | notFolder => "Not a directory (os error 20)"
  | nameTooLong => "File name too long (os error 36)"
  | nameWithNull => "file name contained an unexpected NUL byte"
  | notText => "stream did not contain valid UTF-8"
  | other text => text

/-! ### Folders held in memory -/

/-- **What a folder held in memory may contain.** -/
inductive Folder where
  /-- A file with its bytes. -/
  | file (bytes : ByteArray)
  | folder (entries : List (String × Folder))

namespace Folder

def empty : Folder := folder []

/-- The bytes that a name may have. -/
def longestName : Nat := 255

/-- The bytes that a path may have. -/
def longestPath : Nat := 4095

/-- The folder with something put under a path; folders on the way are made, and a file in the way
gives place to one. -/
def put : Folder → List String → Folder → Folder
  | _, [], content => content
  | folder entries, name :: path, content =>
      let inner := put ((entries.lookup name).getD empty) path content
      folder (entries.filter (·.1 != name) ++ [(name, inner)])
  | file _, name :: path, content => folder [(name, put empty path content)]

/-- The names of a path. -/
def names (path : String) : List String :=
  ((path.split (· = '/')).toList.map fun s => s.copy).filter fun s => s != "" && s != "."

/-- What names lead to, `above` holding the folders above `here`.  Above the outermost folder there
is another, of which nothing is known. -/
def follow : List String → (above : List Folder) → (here : Folder) → Except ReadFailure Folder
  | [], _, here => .ok here
  | _ :: _, _, file _ => .error .notFolder
  | ".." :: rest, parent :: above, folder _ => follow rest above parent
  | ".." :: rest, [], folder _ => follow rest [] empty
  | name :: rest, above, folder entries =>
      if longestName < name.utf8ByteSize then .error .nameTooLong
      else
        match entries.lookup name with
        | none => .error .missing
        | some inner => follow rest (folder entries :: above) inner

/-- Whether a path can only be that of a folder. -/
def namesFolder (path : String) : Bool := path.endsWith "/" || path.endsWith "/."

/-- **The text of a file.**  A path from the root leads out of the folder, where there is
nothing. -/
def read (f : Folder) (path : String) : Except ReadFailure String :=
  if path.contains '\x00' then .error .nameWithNull
  else if path = "" then .error .missing
  else if longestPath < path.utf8ByteSize then .error .nameTooLong
  else do
    match ← follow (names path) [] (if path.startsWith "/" then empty else f) with
    | folder _ => .error .isFolder
    | file bytes =>
        if namesFolder path then .error .notFolder
        else
          match String.fromUTF8? bytes with
          | some text => .ok text
          | none => .error .notText

end Folder

/-! ### Loading -/

namespace Config

/-- **The configuration that a file holds**, and what is reported of it.  Without a file it is the
standard one. -/
def load (path : String) (content : Except ReadFailure String) :
    Except (SetupError Float) (Config Float) × List (Notice Float) :=
  match content with
  | .ok text => (ofText text, [])
  | .error .missing => (.ok .standard, [.noConfig path])
  | .error e => (.error (.config (.inaccessible path e.message)), [])

end Config

end Drivetrain
