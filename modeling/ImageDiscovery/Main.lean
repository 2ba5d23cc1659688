import ImageDiscovery.Command.Run
import Std.Time.DateTime.Timestamp

/-!
# The program

The outermost layer: files, the clock, the environment and the standard streams. Servers are out of
its reach, so that a pass that has to ask one fails with no connection.
-/

namespace ImageDiscovery.Command

/-- The time of the clock. -/
def clockTime : IO Time.Timestamp := do
  let nanos := (← Std.Time.Timestamp.now).toNanosecondsSinceUnixEpoch.val
  return ⟨nanos / 1000000000, (nanos % 1000000000).toNat⟩

/-- The machine that the program runs on. -/
def machine : Shell IO where
  readText path := do
    try return some (← IO.FS.readFile path)
    catch _ => return none
  writeText path text := do
    try
      IO.FS.writeFile path text
      return true
    catch _ => return false
  now := clockTime
  transport := .offline IO

/-- The variables of the environment that parameters are taken from, with their values. -/
def environmentValues : IO (List (String × String)) := do
  let names := Discovery.parameters.filterMap (·.environment)
  names.filterMapM fun name => do
    return (← IO.getEnv name).map (name, ·)

/-- What is said to someone who asks for help. -/
def helpText : String :=
  "Usage: freightyard <COMMAND>\n\nCommands:\n" ++
  "  discover  Run one discovery pass and record it in the Warehouse status\n" ++
  "  status    Show the persisted discovery result of a Warehouse\n" ++
  "  version   Print version information\n"

/-- Writes what the program ends with. -/
def Outcome.show : Outcome → IO Unit
  | .done text => do (← IO.getStdout).putStr text
  | .failed e => IO.eprintln e.report
  | .halted .help => do (← IO.getStdout).putStr helpText
  | .halted .misuse => IO.eprint helpText

end ImageDiscovery.Command

open ImageDiscovery Command

/-- Does what the command line asks for. -/
def main (args : List String) : IO UInt32 := do
  let values ← environmentValues
  let outcome ← execute machine (fun name => values.lookup name) args
  outcome.show
  return outcome.exitCode
