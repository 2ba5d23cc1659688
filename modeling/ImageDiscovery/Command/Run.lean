import ImageDiscovery.Command.Basic
import ImageDiscovery.Command.Shell
import ImageDiscovery.Command.Status
import ImageDiscovery.Document.Yaml.Writer
import ImageDiscovery.Pattern.Reader

/-!
# Running commands

A command yields a text for the standard output, or fails. A discovery pass reads its documents in a
fixed order, so that the first one that is not right is reported: the warehouse, the options, the
freight and the credentials. Nothing is written unless the pass succeeds.

## Main definitions

* `Command.run` — what a command does.
* `Command.Outcome` — how the program ends, and `Command.execute` the whole of it.
-/

namespace ImageDiscovery.Command

open Document

/-- The document of a warehouse in a format. -/
def DocumentFormat.write (f : DocumentFormat) (w : Warehouse) : String :=
  match f with
  | yaml => Yaml.write w.toNode
  | json => Json.pretty w.toNode ++ "\n"

/-- The findings in a format. -/
def Report.write (r : Report) (f : Findings) : String :=
  match r.format with
  | .text => f.text r.verbose
  | .json => Json.pretty f.toNode ++ "\n"

/-- The name and version of the program. -/
def versionText : String := "freightyard 0.1.0\n"

variable {m : Type → Type} [Monad m]

/-- The warehouse of a document, if nothing is wrong with it. -/
def readWarehouse (shell : Shell m) (path : String) : ExceptT Error m Warehouse := do
  let w ← readDocument shell Warehouse.read path
  match w.fault? with
  | some fault => throw (.invalidWarehouse path fault)
  | none => return w

/-- The warehouse with a pass in its status. -/
def Discovery.pass (d : Discovery) (shell : Shell m) : ExceptT Error m Warehouse := do
  let w ← readWarehouse shell d.warehouse
  let options ← readOptional shell DiscoveryOptions.read .initial d.config
  let freight ← readOptional shell (Node.readList Freight.read) [] d.freight
  let entries ← readOptional shell (Node.readList CredentialEntry.read) [] d.credentials
  let store ← match CredentialStore.ofEntries entries with
    | .ok s => pure s
    | .error fault => throw (.invalidCredentials fault)
  let now ← shell.now
  let collaborators :=
    Collaborators.ofRegistries options.registry shell.transport store (.ofList freight)
  let artifacts ← (collaborators.discover now options.retention w).adapt
    (.discovery w.metadata.name)
  return w.recording artifacts

/-- Makes a pass, and writes the document of the warehouse to where it is wanted. -/
def Discovery.run (d : Discovery) (shell : Shell m) : ExceptT Error m String := do
  let text := d.format.write (← d.pass shell)
  match d.output with
  | none => return text
  | some path =>
    if ← shell.writeText path text then return ""
    else throw (.unwritable path)

/-- What a command does: the text for the standard output, or why there is none. -/
def run (shell : Shell m) : Command → ExceptT Error m String
  | discover d => d.run shell
  | status r => do
    return r.write (.ofWarehouse (← readDocument shell Warehouse.read r.warehouse))
  | version => pure versionText

/-! ### The program -/

/-- How the program ends. -/
inductive Outcome where
  /-- With a text for the standard output. -/
  | done (text : String)
  | failed (e : Error)
  /-- No command was run. -/
  | halted (h : Halt)
  deriving DecidableEq, Repr

/-- The exit code of the program. -/
def Outcome.exitCode : Outcome → UInt32
  | done _ => 0
  | failed _ => 1
  | halted .misuse => 2
  | halted .help => 0

/-- What the program does for a command line, given the variables of the environment. -/
def execute (shell : Shell m) (environment : String → Option String) (args : List String) :
    m Outcome :=
  match ofArguments environment args with
  | .error h => pure (.halted h)
  | .ok command => do
    match ← (command.run shell).run with
    | .ok text => return .done text
    | .error e => return .failed e

end ImageDiscovery.Command
