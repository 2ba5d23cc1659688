import ImageDiscovery.Warehouse.Subscription
import ImageDiscovery.Warehouse.Result

/-!
# Warehouses

A warehouse is an object with subscriptions, and with a status that records what the last discovery
pass found and for which generation of the object it was made.

## Main definitions

* `ObjectMeta` — the name and the generation of an object.
* `Warehouse`, `Warehouse.Spec`, `Warehouse.Status` — warehouses.
* `Warehouse.fault?` — what is wrong with a warehouse.
* `Warehouse.imageSubscriptions`, `Warehouse.previousResult?` — what a pass starts from.
* `Warehouse.Status.record` — the status after a pass.
-/

namespace ImageDiscovery

open Document

/-- The name and the generation of an object. -/
structure ObjectMeta where
  ns : String
  name : String
  generation : Int
  deriving DecidableEq, Repr

namespace ObjectMeta

/-- The metadata that a document writes. -/
def read (n : Node) : Option ObjectMeta := do
  let f ← n.record ["namespace", "name", "generation"]
  return {
    ns := ← f.required "namespace" Node.readText
    name := ← f.required "name" Node.readText
    generation := ← f.orDefault "generation" Node.readSigned 0 }

/-- The document of metadata. -/
def toNode (m : ObjectMeta) : Node :=
  .mapping [("namespace", .text m.ns), ("name", .text m.name),
    ("generation", .integer m.generation)]

end ObjectMeta

/-- What a warehouse is to follow. -/
structure Warehouse.Spec where
  subscriptions : List RepoSubscription
  deriving DecidableEq, Repr

namespace Warehouse.Spec

/-- The subscriptions that a document writes. -/
def read (n : Node) : Option Spec := do
  let f ← n.record ["subscriptions"]
  return { subscriptions := ← f.orDefault "subscriptions" (Node.readList RepoSubscription.read) [] }

/-- The document of the subscriptions. -/
def toNode (s : Spec) : Node :=
  .mapping [("subscriptions", .array (s.subscriptions.map RepoSubscription.toNode))]

end Warehouse.Spec

/-- What is known about a warehouse from its last discovery pass. -/
structure Warehouse.Status where
  /-- The generation of the warehouse that the pass was made for. -/
  observedGeneration : Int
  discoveredArtifacts : Option Artifacts
  deriving DecidableEq

namespace Warehouse.Status

/-- No pass has been made. -/
def initial : Status := ⟨0, none⟩

/-- The status after a pass for a generation. -/
def record (_ : Status) (generation : Int) (artifacts : Artifacts) : Status :=
  ⟨generation, some artifacts⟩

/-- The status that a document writes. -/
def read (n : Node) : Option Status := do
  let f ← n.record ["observedGeneration", "discoveredArtifacts"]
  return {
    observedGeneration := ← f.orDefault "observedGeneration" Node.readSigned 0
    discoveredArtifacts := ← f.optional "discoveredArtifacts" Artifacts.read }

/-- The document of a status. -/
def toNode (s : Status) : Node :=
  .mapping ([("observedGeneration", .integer s.observedGeneration)] ++
    Node.field? "discoveredArtifacts" (s.discoveredArtifacts.map Artifacts.toNode))

end Warehouse.Status

/-- An object with subscriptions, and what is known from its last discovery pass. -/
structure Warehouse where
  metadata : ObjectMeta
  spec : Warehouse.Spec
  status : Warehouse.Status
  deriving DecidableEq

namespace Warehouse

/-- The subscriptions to images, in order. -/
def imageSubscriptions (w : Warehouse) : List ImageSubscription :=
  w.spec.subscriptions.filterMap (·.image)

/-- The results of the last pass. -/
def previousResults (w : Warehouse) : List ImageResult :=
  match w.status.discoveredArtifacts with
  | some a => a.images
  | none => []

/-- The first result of the last pass for a repository. -/
def previousResult? (w : Warehouse) (repoUrl : String) : Option ImageResult :=
  w.previousResults.find? (·.repoUrl == repoUrl)

/-- The references of the last pass for a repository. -/
def previousReferences (w : Warehouse) (repoUrl : String) : List ImageReference :=
  match w.previousResult? repoUrl with
  | some r => r.references
  | none => []

/-- Why a warehouse is not valid. -/
inductive Fault where
  | emptyName
  | emptyNamespace
  /-- The subscription at the index is not valid. -/
  | subscription (index : Nat) (fault : RepoSubscription.Fault)
  deriving DecidableEq, Repr

/-- The wording of a fault. -/
def Fault.message : Fault → String
  | emptyName => "Invalid metadata: name must not be empty"
  | emptyNamespace => "Invalid metadata: namespace must not be empty"
  | subscription index fault =>
    "Invalid subscription at index " ++ toString index ++ ": " ++ fault.message

/-- What is wrong with the first subscription that is not valid, where the first one has the given
index. -/
def subscriptionFault? (index : Nat) : List RepoSubscription → Option Fault
  | [] => none
  | s :: ss =>
    match s.fault? with
    | some f => some (.subscription index f)
    | none => subscriptionFault? (index + 1) ss

/-- What is wrong with a warehouse, if anything: first with its name, then with its
subscriptions. -/
def fault? (w : Warehouse) : Option Fault :=
  if w.metadata.name.isEmpty then some .emptyName
  else if w.metadata.ns.isEmpty then some .emptyNamespace
  else subscriptionFault? 0 w.spec.subscriptions

/-- The warehouse with the results of a pass in its status. -/
def recording (w : Warehouse) (artifacts : Artifacts) : Warehouse :=
  { w with status := w.status.record w.metadata.generation artifacts }

/-- The warehouse that a document writes. -/
def read (n : Node) : Option Warehouse := do
  let f ← n.record ["metadata", "spec", "status"]
  return {
    metadata := ← f.required "metadata" ObjectMeta.read
    spec := ← f.orDefault "spec" Spec.read ⟨[]⟩
    status := ← f.orDefault "status" Status.read .initial }

/-- The document of a warehouse. -/
def toNode (w : Warehouse) : Node :=
  .mapping [("metadata", w.metadata.toNode), ("spec", w.spec.toNode), ("status", w.status.toNode)]

end Warehouse

end ImageDiscovery
