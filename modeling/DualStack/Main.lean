import DualStack.Command.Execute
import DualStack.Settings.Daemon

/-!
# The operator tool

Reads the command line and the settings file, carries the command out on databases held in
memory, and prints what the command says. The exit code is zero for a success, one for a failure
and two for a command line that is not understood.
-/

set_option autoImplicit false

namespace DualStack.Tool

/-- What stands at a path. -/
def settingsFile (path : String) : IO SettingsFile := do
  try
    let bytes ← IO.FS.readBinFile path
    return .content bytes
  catch
    | .noFileOrDirectory .. => return .missing
    | .inappropriateType .. => return .directory
    | error => throw error

/-- How the tool is called. -/
def usageLine : String :=
  "Usage: ue-config [--config <FILE>] [--log-level <LEVEL>] <" ++
    "|".intercalate Invocation.commandNames ++ "> [OPTIONS]"

/-- Prints an error, and gives the exit code of a failure. -/
def fail (message : String) : IO UInt32 := do
  IO.eprintln s!"Error: {message}"
  return 1

/-- Carries out a command line that was understood. -/
def carryOut (invocation : Invocation) : IO UInt32 := do
  let file ← settingsFile invocation.configPath
  match Settings.load invocation.configPath file with
  | .error failure => fail s!"loading {invocation.configPath}: {failure.message}"
  | .ok _ =>
    match invocation.command.execute Databases.empty with
    | .error error => fail error.message
    | .ok (output, _) =>
      IO.println output.text
      return if output.success then 0 else 1

end DualStack.Tool

/-- The entry point. -/
def main (args : List String) : IO UInt32 := do
  match DualStack.Invocation.parse args with
  | .ok invocation => DualStack.Tool.carryOut invocation
  | .error .help =>
    IO.println DualStack.Tool.usageLine
    return 0
  | .error .version =>
    IO.println "ue-config"
    return 0
  | .error _ =>
    IO.eprintln DualStack.Tool.usageLine
    return 2
