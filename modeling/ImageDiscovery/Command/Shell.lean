import ImageDiscovery.Discovery.Registry
import ImageDiscovery.Document.Json.Reader
import ImageDiscovery.Document.Yaml.Reader

/-!
# Files of commands

Commands read documents from files and write them there, in either format. The extension of a file
tells its format: `json` for the one, and anything else for the other, which reads the former too.

## Main definitions

* `Command.Shell` — what a command needs of the machine that it runs on.
* `Command.Error` — why a command fails, with its wording and its causes.
* `Command.readDocument` — the value that a file holds.
-/

namespace ImageDiscovery.Command

open Document Text Time

/-- What a command needs of the machine that it runs on. -/
structure Shell (m : Type → Type) where
  /-- The text of a file, if it can be read. -/
  readText : String → m (Option String)
  /-- Writes a text to a file, and tells whether that went well. -/
  writeText : String → String → m Bool
  /-- The time of the clock. -/
  now : m Timestamp
  transport : Http.Transport m

/-- The formats of files. -/
inductive FileFormat where
  | json | yaml
  deriving DecidableEq, Repr

namespace FileFormat

/-- The last component of a path; one that leads upwards has no name. -/
def fileName? (path : List Char) : Option (List Char) :=
  match (((split '/' path).filter fun p => p != [] && p != ['.']).getLast?) with
  | some ['.', '.'] => none
  | name => name

/-- What follows the last dot of a name, unless that begins it. -/
def extension? (name : List Char) : Option (List Char) :=
  match cut '.' name.reverse with
  | some (_, []) => none
  | some (ext, _) => some ext.reverse
  | none => none

/-- The format of the file at a path. -/
def ofPath (path : String) : FileFormat :=
  if (fileName? path.toList).bind extension? = some "json".toList then json else yaml

/-- The name of a format. -/
def name : FileFormat → String
  | json => "JSON"
  | yaml => "YAML"

/-- The document value that a text writes. -/
def read : FileFormat → String → Option Node
  | json => Json.read
  | yaml => Yaml.read

end FileFormat

/-- Why a command fails. -/
inductive Error where
  | unreadable (path : String)
  | undecodable (format : FileFormat) (path : String)
  | invalidWarehouse (path : String) (fault : Warehouse.Fault)
  | invalidCredentials (fault : CredentialStore.Fault)
  | discovery (warehouse : String) (cause : DiscoveryError)
  | unwritable (path : String)
  deriving DecidableEq, Repr

namespace Error

/-- The wording of an error, without its causes. -/
def message : Error → String
  | unreadable path => "failed to read " ++ path
  | undecodable format path => "failed to parse " ++ format.name ++ " in " ++ path
  | invalidWarehouse path _ => "invalid Warehouse in " ++ path
  | invalidCredentials _ => "invalid credential entries"
  | discovery warehouse _ => "discovery failed for Warehouse " ++ warehouse
  | unwritable path => "failed to write " ++ path

/-- The wordings of the causes, the nearest one first. -/
def causes : Error → List String
  | invalidWarehouse _ fault => [fault.message]
  | invalidCredentials fault => [fault.message]
  | discovery _ cause => [cause.message, cause.causeMessage]
  | _ => []

/-- The causes with their numbers, which a single one does not need. -/
def causeLines : List String → List String
  | [] => []
  | [c] => ["", "Caused by:", "    " ++ c]
  | cs => ["", "Caused by:"] ++ cs.zipIdx.map fun c => "    " ++ toString c.2 ++ ": " ++ c.1

/-- An error as it is shown to the user. -/
def report (e : Error) : String :=
  "\n".intercalate (("Error: " ++ e.message) :: causeLines e.causes)

end Error

variable {m : Type → Type} [Monad m]

/-- The value that a file holds. -/
def readDocument {α : Type} (shell : Shell m) (read : Reader α) (path : String) :
    ExceptT Error m α := do
  match ← (shell.readText path : m (Option String)) with
  | none => throw (.unreadable path)
  | some text =>
    match ((FileFormat.ofPath path).read text).bind read with
    | none => throw (.undecodable (FileFormat.ofPath path) path)
    | some a => return a

/-- The value that a file holds, or a default where no file is named. -/
def readOptional {α : Type} (shell : Shell m) (read : Reader α) (default : α) :
    Option String → ExceptT Error m α
  | some path => readDocument shell read path
  | none => pure default

end ImageDiscovery.Command
