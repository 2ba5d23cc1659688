import ImageDiscovery.Registry.Manifest

/-!
# Results of discovery

A discovery pass finds a list of image references for each subscription. A reference is a tag with
what is known about its image; one that is kept for its use in active freight only is marked so.

## Main definitions

* `ImageReference` — a tag of a repository, with `ImageReference.bare` and
  `ImageReference.retained`.
* `ImageResult` — the references of one repository.
* `Artifacts` — the results of a pass.
-/

namespace ImageDiscovery

open Document Time

/-- A timestamp in a document. -/
def readTimestamp (n : Node) : Option Timestamp := n.readText.bind Timestamp.ofRelaxed?

/-- The document of a timestamp. -/
def timestampNode (t : Timestamp) : Node := .text t.documentText

/-- A tag of a repository, with what is known about its image. -/
structure ImageReference where
  tag : String
  digest : Option String
  createdAt : Option Timestamp
  annotations : Annotations
  /-- The tag is kept because active freight uses it. -/
  fromActiveFreight : Bool
  deriving DecidableEq

namespace ImageReference

/-- A tag of whose image nothing is known. -/
def bare (tag : String) : ImageReference := ⟨tag, none, none, .empty, false⟩

/-- A tag that is kept because active freight uses it. -/
def retained (tag : String) : ImageReference := { bare tag with fromActiveFreight := true }

/-- The reference that a document writes. -/
def read (n : Node) : Option ImageReference := do
  let f ← n.record ["tag", "digest", "createdAt", "annotations", "fromActiveFreight"]
  return {
    tag := ← f.required "tag" Node.readText
    digest := ← f.optional "digest" Node.readText
    createdAt := ← f.optional "createdAt" readTimestamp
    annotations := ← f.orDefault "annotations" Annotations.read .empty
    fromActiveFreight := ← f.orDefault "fromActiveFreight" Node.readBool false }

/-- The document of a reference. -/
def toNode (r : ImageReference) : Node :=
  .mapping <|
    [("tag", .text r.tag)] ++ Node.field? "digest" (r.digest.map .text) ++
    Node.field? "createdAt" (r.createdAt.map timestampNode) ++ Annotations.field? r.annotations ++
    (if r.fromActiveFreight then [("fromActiveFreight", .bool true)] else [])

end ImageReference

/-- The references of one repository. -/
structure ImageResult where
  repoUrl : String
  platform : Option String
  references : List ImageReference
  deriving DecidableEq

namespace ImageResult

/-- The references that are kept because active freight uses them. -/
def retained (r : ImageResult) : List ImageReference := r.references.filter (·.fromActiveFreight)

/-- The result that a document writes. -/
def read (n : Node) : Option ImageResult := do
  let f ← n.record ["repoURL", "platform", "references"]
  return {
    repoUrl := ← f.required "repoURL" Node.readText
    platform := ← f.optional "platform" Node.readText
    references := ← f.orDefault "references" (Node.readList ImageReference.read) [] }

/-- The document of a result. -/
def toNode (r : ImageResult) : Node :=
  .mapping <|
    [("repoURL", .text r.repoUrl)] ++ Node.field? "platform" (r.platform.map .text) ++
    (if r.references.isEmpty then []
      else [("references", .array (r.references.map ImageReference.toNode))])

end ImageResult

/-- The results of a pass, and when it was made. -/
structure Artifacts where
  discoveredAt : Option Timestamp
  images : List ImageResult
  deriving DecidableEq

namespace Artifacts

/-- The results that a document writes. -/
def read (n : Node) : Option Artifacts := do
  let f ← n.record ["discoveredAt", "images"]
  return {
    discoveredAt := ← f.optional "discoveredAt" readTimestamp
    images := ← f.orDefault "images" (Node.readList ImageResult.read) [] }

/-- The document of the results. -/
def toNode (a : Artifacts) : Node :=
  .mapping (Node.field? "discoveredAt" (a.discoveredAt.map timestampNode) ++
    [("images", .array (a.images.map ImageResult.toNode))])

end Artifacts

end ImageDiscovery
