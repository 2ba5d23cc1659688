import ImageDiscovery.Command.Arguments

/-!
# Commands

The program has three commands: to make a discovery pass over a warehouse, to report what the last
pass found, and to tell its version.

## Main definitions

* `Command` — the commands.
* `Command.ofArguments` — the command that a command line asks for.
-/

namespace ImageDiscovery

/-- How the document of a warehouse is written. -/
inductive Command.DocumentFormat where
  | yaml | json
  deriving DecidableEq, Repr

/-- How the findings of a pass are reported. -/
inductive Command.ReportFormat where
  | text | json
  deriving DecidableEq, Repr

/-- A discovery pass to be made. -/
structure Command.Discovery where
  /-- The path of the document of the warehouse. -/
  warehouse : String
  /-- The path of the documents of freight. -/
  freight : Option String
  /-- The path of the entries for credentials. -/
  credentials : Option String
  /-- The path of the options. -/
  config : Option String
  /-- Where the document is written to, if not to the standard output. -/
  output : Option String
  format : Command.DocumentFormat
  deriving DecidableEq, Repr

/-- A report to be made. -/
structure Command.Report where
  /-- The path of the document of the warehouse. -/
  warehouse : String
  format : Command.ReportFormat
  /-- Every reference is shown. -/
  verbose : Bool
  deriving DecidableEq, Repr

/-- What the program is asked to do. -/
inductive Command where
  | discover (d : Command.Discovery)
  | status (r : Command.Report)
  | version
  deriving DecidableEq, Repr

namespace Command

/-- The parameter for the document of the warehouse. -/
def warehouseParameter : Parameter := .path "warehouse" (some 'w') (some "FREIGHTYARD_WAREHOUSE")

/-- What can be said about a discovery pass. -/
def Discovery.parameters : List Parameter := [
  warehouseParameter,
  .path "freight" none (some "FREIGHTYARD_FREIGHT"),
  .path "credentials" none (some "FREIGHTYARD_CREDENTIALS"),
  .path "config" (some 'c') (some "FREIGHTYARD_CONFIG"),
  .path "output" (some 'o') none,
  .choice "format" (some 'f') ["yaml", "json"]]

/-- The discovery pass that settings ask for. -/
def Discovery.ofSettings (s : Settings) : Except Halt Discovery := do
  return {
    warehouse := ← s.value "warehouse"
    freight := s.value? "freight"
    credentials := s.value? "credentials"
    config := s.value? "config"
    output := s.value? "output"
    format := if s.value? "format" = some "json" then .json else .yaml }

/-- What can be said about a report. -/
def Report.parameters : List Parameter := [
  warehouseParameter,
  .choice "format" (some 'f') ["text", "json"],
  .switch "verbose" (some 'v')]

/-- The report that settings ask for. -/
def Report.ofSettings (s : Settings) : Except Halt Report := do
  return {
    warehouse := ← s.value "warehouse"
    format := if s.value? "format" = some "json" then .json else .text
    verbose := (s.value? "verbose").isSome }

/-- What is asked for by arguments that name no command. -/
def ofFirst (arg : String) : Except Halt Command :=
  match Argument.ofString arg with
  | .named "help" none => .error .help
  | .named "version" none => .ok version
  | .letters ('h' :: _) => .error .help
  | .letters ('V' :: _) => .ok version
  | _ => .error .misuse

/-- The command that a command line asks for, given the variables of the environment. -/
def ofArguments (environment : String → Option String) : List String → Except Halt Command
  | [] => .error .misuse
  | "discover" :: args => do
    let settings ← Settings.ofArguments environment Discovery.parameters args
    return discover (← Discovery.ofSettings settings)
  | "status" :: args => do
    let settings ← Settings.ofArguments environment Report.parameters args
    return status (← Report.ofSettings settings)
  | "version" :: args => do
    let _ ← Settings.ofArguments environment [] args
    return version
  | ["help"] => .error .help
  | ["help", name] =>
    .error (if ["discover", "status", "version", "help"].contains name then .help else .misuse)
  | arg :: _ => ofFirst arg

end Command

end ImageDiscovery
