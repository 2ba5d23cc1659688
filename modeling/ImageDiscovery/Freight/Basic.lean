import ImageDiscovery.Warehouse.Basic

/-!
# Freight

Freight is a set of images that came from a warehouse and travels through stages. It is active as
long as some stage holds it.

## Main definitions

* `Freight`, with `Freight.Origin`, `Freight.Image` and `Freight.Stage`.
* `Freight.isActive` — some stage holds the freight.
-/

namespace ImageDiscovery

open Document Time

/-- Where freight came from. -/
structure Freight.Origin where
  /-- The name of the warehouse; empty where it is not known. -/
  name : String
  deriving DecidableEq, Repr

namespace Freight.Origin

/-- Warehouses are the only kind of origin. -/
def kindName : String := "Warehouse"

/-- The origin that a document writes. -/
def read (n : Node) : Option Origin := do
  let f ← n.record ["kind", "name"]
  let _ ← f.orDefault "kind" (Node.readName [(kindName, ())]) ()
  return { name := ← f.required "name" Node.readText }

/-- The document of an origin. -/
def toNode (o : Origin) : Node := .mapping [("kind", .text kindName), ("name", .text o.name)]

end Freight.Origin

/-- An image of freight. -/
structure Freight.Image where
  repoUrl : String
  tag : String
  digest : String
  deriving DecidableEq, Repr

namespace Freight.Image

/-- The image that a document writes. -/
def read (n : Node) : Option Image := do
  let f ← n.record ["repoURL", "tag", "digest"]
  return {
    repoUrl := ← f.required "repoURL" Node.readText
    tag := ← f.orDefault "tag" Node.readText ""
    digest := ← f.orDefault "digest" Node.readText "" }

/-- The document of an image. -/
def toNode (i : Image) : Node :=
  .mapping ([("repoURL", .text i.repoUrl), ("tag", .text i.tag)] ++
    (if i.digest.isEmpty then [] else [("digest", .text i.digest)]))

end Freight.Image

/-- How a stage holds freight. -/
structure Freight.Stage where
  since : Option Timestamp
  deriving DecidableEq, Repr

namespace Freight.Stage

/-- The stage that a document writes. -/
def read (n : Node) : Option Stage := do
  let f ← n.record ["since"]
  return { since := ← f.optional "since" readTimestamp }

/-- The document of a stage. -/
def toNode (s : Stage) : Node := .mapping (Node.field? "since" (s.since.map timestampNode))

end Freight.Stage

/-- The stages that hold freight, by their names. -/
structure Freight.Status where
  currentlyIn : Dictionary Freight.Stage
  deriving DecidableEq

namespace Freight.Status

/-- No stage holds the freight. -/
def initial : Status := ⟨.empty⟩

/-- The status that a document writes. -/
def read (n : Node) : Option Status := do
  let f ← n.record ["currentlyIn"]
  return { currentlyIn := ← f.orDefault "currentlyIn" (Node.readDictionary Stage.read) .empty }

/-- The document of a status. -/
def toNode (s : Status) : Node :=
  .mapping (if s.currentlyIn.isEmpty then []
    else [("currentlyIn", .mapping (s.currentlyIn.map Stage.toNode).entries)])

end Freight.Status

/-- A set of images that came from a warehouse and travels through stages. -/
structure Freight where
  metadata : ObjectMeta
  origin : Freight.Origin
  images : List Freight.Image
  status : Freight.Status
  deriving DecidableEq

namespace Freight

/-- Some stage holds the freight. -/
def isActive (f : Freight) : Bool := !f.status.currentlyIn.isEmpty

/-- New freight from a warehouse, without images and stages. -/
def ofWarehouse (ns name warehouse : String) : Freight :=
  ⟨⟨ns, name, 1⟩, ⟨warehouse⟩, [], .initial⟩

/-- The freight with one more image. -/
def withImage (f : Freight) (i : Image) : Freight := { f with images := f.images ++ [i] }

/-- The freight held by one more stage. -/
def inStage (f : Freight) (name : String) (s : Stage) : Freight :=
  { f with status := ⟨f.status.currentlyIn.insert name s⟩ }

/-- The freight that a document writes. -/
def read (n : Node) : Option Freight := do
  let f ← n.record ["metadata", "origin", "images", "status"]
  return {
    metadata := ← f.required "metadata" ObjectMeta.read
    origin := ← f.orDefault "origin" Origin.read ⟨""⟩
    images := ← f.orDefault "images" (Node.readList Image.read) []
    status := ← f.orDefault "status" Status.read .initial }

/-- The document of freight. -/
def toNode (f : Freight) : Node :=
  .mapping <|
    [("metadata", f.metadata.toNode), ("origin", f.origin.toNode)] ++
    (if f.images.isEmpty then [] else [("images", .array (f.images.map Image.toNode))]) ++
    [("status", f.status.toNode)]

end Freight

end ImageDiscovery
