import ImageDiscovery.Registry.Platform
import ImageDiscovery.Time.Timestamp.Reader

/-!
# Documents of registries

What a registry says about an image: lists of tags, descriptors of content, manifests of images,
indexes that name a manifest for each platform, and the configurations of images.

## Main definitions

* `MediaType` — the kinds of manifests.
* `TagList`, `Descriptor`, `Manifest`, `ImageIndex`, `ImageConfig` — the documents, each with its
  reader.
* `ImageIndex.find?` — the entry of an index for a platform.
* `ImageConfig.createdAt`, `ImageConfig.serves` — when an image was built and where it serves.
-/

namespace ImageDiscovery

open Document Time

namespace MediaType

/-- The manifest of one image. -/
def manifest : String := "application/vnd.oci.image.manifest.v1+json"

/-- The index of manifests for several platforms. -/
def index : String := "application/vnd.oci.image.index.v1+json"

/-- The older kind of manifest. -/
def olderManifest : String := "application/vnd.docker.distribution.manifest.v2+json"

/-- The older kind of index. -/
def olderIndex : String := "application/vnd.docker.distribution.manifest.list.v2+json"

/-- The kinds that a client accepts, the preferred one first. -/
def accepted : String := ", ".intercalate [index, manifest, olderIndex, olderManifest]

/-- The media type is one of an index. -/
def isIndex (s : String) : Bool := s == index || s == olderIndex

/-- The media type is one of the manifest of an image. -/
def isManifest (s : String) : Bool := s == manifest || s == olderManifest

end MediaType

/-- Texts by key. -/
abbrev Annotations := Dictionary String

/-- The document of annotations. -/
def Annotations.toNode (a : Annotations) : Node := .mapping (a.map Node.text).entries

/-- A field for annotations, left out where there are none. -/
def Annotations.field? (a : Annotations) : List (String × Node) :=
  if a.isEmpty then [] else [("annotations", Annotations.toNode a)]

/-- The annotations that a document writes. -/
def Annotations.read : Reader Annotations := Node.readDictionary Node.readText

/-- One page of the tags of a repository. -/
structure TagList where
  name : String
  tags : Option (List String)
  deriving DecidableEq

/-- The page that a document writes. -/
def TagList.read (n : Node) : Option TagList := do
  let f ← n.record ["name", "tags"]
  return {
    name := ← f.orDefault "name" Node.readText ""
    tags := ← f.optional "tags" (Node.readList Node.readText) }

/-- A reference to content by its digest. -/
structure Descriptor where
  mediaType : String
  digest : String
  size : Nat
  platform : Option Platform
  annotations : Annotations
  deriving DecidableEq

namespace Descriptor

/-- The descriptor that a document writes. -/
def read (n : Node) : Option Descriptor := do
  let f ← n.record ["mediaType", "digest", "size", "platform", "annotations"]
  return {
    mediaType := ← f.orDefault "mediaType" Node.readText ""
    digest := ← f.required "digest" Node.readText
    size := ← f.orDefault "size" Node.readUnsigned 0
    platform := ← f.optional "platform" Platform.read
    annotations := ← f.orDefault "annotations" Annotations.read .empty }

/-- The document of a descriptor. -/
def toNode (d : Descriptor) : Node :=
  .mapping ([("mediaType", .text d.mediaType), ("digest", .text d.digest),
      ("size", .integer d.size)] ++
    Node.field? "platform" (d.platform.map Platform.toNode) ++ Annotations.field? d.annotations)

end Descriptor

/-- The manifest of one image. -/
structure Manifest where
  mediaType : Option String
  config : Descriptor
  layers : List Descriptor
  annotations : Annotations
  deriving DecidableEq

/-- The manifest that a document writes. -/
def Manifest.read (n : Node) : Option Manifest := do
  let f ← n.record ["mediaType", "config", "layers", "annotations"]
  return {
    mediaType := ← f.optional "mediaType" Node.readText
    config := ← f.required "config" Descriptor.read
    layers := ← f.orDefault "layers" (Node.readList Descriptor.read) []
    annotations := ← f.orDefault "annotations" Annotations.read .empty }

/-- The index of the manifests of an image for several platforms. -/
structure ImageIndex where
  mediaType : Option String
  manifests : List Descriptor
  annotations : Annotations
  deriving DecidableEq

namespace ImageIndex

/-- The index that a document writes. -/
def read (n : Node) : Option ImageIndex := do
  let f ← n.record ["mediaType", "manifests", "annotations"]
  return {
    mediaType := ← f.optional "mediaType" Node.readText
    manifests := ← f.required "manifests" (Node.readList Descriptor.read)
    annotations := ← f.orDefault "annotations" Annotations.read .empty }

/-- The first entry that declares a platform which serves the wanted one. -/
def find? (i : ImageIndex) (wanted : Platform) : Option Descriptor :=
  i.manifests.find? fun d => d.platform.any wanted.admits

end ImageIndex

/-- The configuration of an image. -/
structure ImageConfig where
  created : Option String
  os : Option String
  architecture : Option String
  variant : Option String
  deriving DecidableEq

namespace ImageConfig

/-- The configuration that a document writes. -/
def read (n : Node) : Option ImageConfig := do
  let f ← n.record ["created", "os", "architecture", "variant"]
  return {
    created := ← f.optional "created" Node.readText
    os := ← f.optional "os" Node.readText
    architecture := ← f.optional "architecture" Node.readText
    variant := ← f.optional "variant" Node.readText }

/-- When the image was built, if that is a timestamp by the strict reading. -/
def createdAt (c : ImageConfig) : Option Timestamp := c.created.bind Timestamp.ofStrict?

/-- The platform that the configuration declares, if it declares both of its parts. -/
def platform? (c : ImageConfig) : Option Platform :=
  match c.os, c.architecture with
  | some os, some arch => some ⟨os, arch, c.variant⟩
  | _, _ => none

/-- The image serves where a platform is wanted; one that declares no platform serves anywhere. -/
def serves (c : ImageConfig) (wanted : Platform) : Bool := c.platform?.all wanted.admits

end ImageConfig

end ImageDiscovery
