/-
What can be wrong with a settings file.

* `Drivetrain.Toml.Found` — what was found in place of a value of the right type;
* `Drivetrain.Toml.Problem` — the problem, and `Drivetrain.Toml.Problem.message` its text.
-/

import Drivetrain.Decimal.Numeral
import Drivetrain.Text.Quoted

set_option relaxedAutoImplicit false
set_option autoImplicit false

namespace Drivetrain.Toml

/-- **What was found** in place of a value of the right type. -/
inductive Found where
  | boolean (value : Bool)
  | integer (value : Int)
  | float (value : Float)
  | text (value : String)
  | sequence
  | map

namespace Found

def message : Found → String
  | boolean b => s!"boolean {Text.byName (toString b)}"
  | integer n => s!"integer {Text.byName (toString n)}"
  | float x => s!"floating point {Text.byName (Decimal.numeral .pointed x)}"
  | text s => s!"string {Text.quoted s}"
  | sequence => "sequence"
  | map => "map"

end Found

/-- **What is wrong with a settings file.** -/
inductive Problem where
  /-- The text follows no rule of the format, or defines something twice. -/
  | malformed
  /-- A value has the wrong type. -/
  | wrongType (found : Found) (expected : String)
  /-- A value has the right type and cannot be held by it. -/
  | wrongValue (found : Found) (expected : String)
  /-- A name is none of those known. -/
  | unknownName (name : String) (known : List String)
  /-- A table has none of the shapes that it may have. -/
  | noShape (type : String)

def Problem.message : Problem → String
  | malformed => "malformed"
  | wrongType found expected => s!"invalid type: {found.message}, expected {expected}"
  | wrongValue found expected => s!"invalid value: {found.message}, expected {expected}"
  | unknownName name known =>
      s!"unknown variant {Text.byName name}, expected one of " ++
        ", ".intercalate (known.map Text.byName)
  | noShape type => s!"data did not match any variant of untagged enum {type}"

end Drivetrain.Toml
