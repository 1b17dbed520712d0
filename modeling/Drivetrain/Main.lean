/-
The command line: the demonstration, with the configuration file in the working directory.

Lines go to standard output, notices to standard error; a failure is the exit code.

* `Drivetrain.readConfig` — the text of the configuration file, or why it cannot be read;
* `main` — the program.
-/

import Drivetrain.Demo

set_option relaxedAutoImplicit false
set_option autoImplicit false

namespace Drivetrain

/-- **The text of the configuration file**, or why it cannot be read. -/
def readConfig : IO (Except ReadFailure String) := do
  try
    let bytes ← IO.FS.readBinFile Demo.configPath
    match String.fromUTF8? bytes with
    | some text => return .ok text
    | none => return .error .notText
  catch
    | .noFileOrDirectory .. => return .error .missing
    | e => return .error (.other (toString e))

end Drivetrain

/-- **The program.** -/
def main : IO UInt32 := do
  let outcome := Drivetrain.Demo.run (← Drivetrain.readConfig)
  for line in outcome.lines do
    IO.println line
  for notice in outcome.journal do
    if notice.level ≠ .debug then
      IO.eprintln notice.line
  match outcome.failure with
  | some e =>
      IO.eprintln s!"chassis-demo failed: {e.message}"
      return 1
  | none => return 0
