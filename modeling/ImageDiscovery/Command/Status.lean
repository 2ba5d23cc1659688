import ImageDiscovery.Document.Json.Writer
import ImageDiscovery.Warehouse.Basic

/-!
# Reports on warehouses

A report tells what the last discovery pass over a warehouse found: for each repository its
references, and which of them are kept for active freight. It is written for people, in short or in
full, or as a document.

## Main definitions

* `Command.Findings` — what is reported.
* `Command.Findings.ofWarehouse` — the findings of the last pass over a warehouse.
* `Command.Findings.text`, `Command.Findings.toNode` — a report for people, and as a document.
-/

namespace ImageDiscovery.Command

open Document Time

/-- What is reported about a warehouse. -/
structure Findings where
  metadata : ObjectMeta
  observedGeneration : Int
  discoveredAt : Option Timestamp
  repositories : List ImageResult
  deriving DecidableEq

namespace Findings

/-- The findings of the last pass over a warehouse. -/
def ofWarehouse (w : Warehouse) : Findings where
  metadata := w.metadata
  observedGeneration := w.status.observedGeneration
  discoveredAt := w.status.discoveredArtifacts.bind (·.discoveredAt)
  repositories := w.previousResults

/-- The number of references. -/
def total (f : Findings) : Nat := (f.repositories.flatMap (·.references)).length

/-- The number of references that are kept for active freight. -/
def retained (f : Findings) : Nat := (f.repositories.flatMap (·.retained)).length

/-- The pass was made for the present generation of the warehouse. -/
def isCurrent (f : Findings) : Bool :=
  f.discoveredAt.isSome && f.metadata.generation == f.observedGeneration

/-! ### For people -/

/-- A timestamp for people. -/
def timeText (t : Timestamp) : String := t.text "+00:00"

/-- The title with a line below it that is as long. -/
def titleLines (f : Findings) : List String :=
  let title := "Warehouse " ++ f.metadata.ns ++ "/" ++ f.metadata.name
  [title, String.ofList (List.replicate title.length '='), ""]

/-- What is said where no pass was made. -/
def nothingLines : List String :=
  ["No discovery recorded.", "", "Run 'freightyard discover' to run a discovery pass."]

/-- When and for which generation the pass was made, and how much it found. -/
def passLines (f : Findings) (time : Timestamp) : List String :=
  ["Discovered at " ++ timeText time ++ " for generation " ++ toString f.observedGeneration ++
      " (" ++ (if f.isCurrent then "current" else "stale") ++ ", spec at generation " ++
      toString f.metadata.generation ++ ")",
    "Total: " ++ toString f.total ++ " references (" ++ toString f.retained ++
      " retained for active freight)",
    ""]

/-- All that is known about one reference. -/
def referenceLines (r : ImageReference) : List String :=
  [(if r.fromActiveFreight then "  ○ " ++ r.tag ++ " (retained)" else "  ● " ++ r.tag)] ++
  (r.digest.map fun d => "      Digest: " ++ d).toList ++
  (r.createdAt.map fun t => "      Created: " ++ timeText t).toList

/-- A repository with its references, all of them or only their number. -/
def repositoryLines (verbose : Bool) (r : ImageResult) : List String :=
  let name := match r.platform with
    | some p => r.repoUrl ++ " [" ++ p ++ "]"
    | none => r.repoUrl
  let body := match r.references with
    | [] => ["  No images discovered"]
    | newest :: others =>
      if verbose then (newest :: others).flatMap referenceLines
      else ["  Images: " ++ toString r.references.length ++ " (" ++ toString r.retained.length ++
        " retained), newest " ++ newest.tag]
  [name] ++ body ++ [""]

/-- A report for people, in full or in short. -/
def text (f : Findings) (verbose : Bool) : String :=
  let lines := f.titleLines ++ match f.discoveredAt with
    | none => nothingLines
    | some time => f.passLines time ++ f.repositories.flatMap (repositoryLines verbose)
  String.join (lines.map (· ++ "\n"))

/-! ### As a document -/

/-- An optional value, written as nothing where it is absent. -/
def orNull (n : Option Node) : Node := n.getD .null

/-- The document of one reference. -/
def referenceNode (r : ImageReference) : Node :=
  .mapping [("tag", .text r.tag), ("digest", orNull (r.digest.map .text)),
    ("createdAt", orNull (r.createdAt.map timestampNode)), ("retained", .bool r.fromActiveFreight)]

/-- The document of one repository. -/
def repositoryNode (r : ImageResult) : Node :=
  .mapping [("repoURL", .text r.repoUrl), ("platform", orNull (r.platform.map .text)),
    ("references", .array (r.references.map referenceNode))]

/-- A report as a document. -/
def toNode (f : Findings) : Node :=
  .mapping [("namespace", .text f.metadata.ns), ("warehouse", .text f.metadata.name),
    ("generation", .integer f.metadata.generation),
    ("observedGeneration", .integer f.observedGeneration),
    ("discoveredAt", orNull (f.discoveredAt.map timestampNode)),
    ("repositories", .array (f.repositories.map repositoryNode)),
    ("totalReferences", .integer f.total), ("retainedReferences", .integer f.retained)]

end Findings

end ImageDiscovery.Command
