import ImageDiscovery.Registry.Error
import ImageDiscovery.Warehouse.Result

/-!
# Sources of tags

A source lists the tags of one repository and tells what is known about the image of a tag. Each
question may fail, and may have effects in a monad.

## Main definitions

* `ImageMetadata` — what is known about an image.
* `TagSource` — a source of tags.
-/

namespace ImageDiscovery

open Time

/-- What is known about the image of a tag. -/
structure ImageMetadata where
  digest : String
  createdAt : Option Timestamp
  annotations : Annotations
  deriving DecidableEq

/-- The reference to a tag with what is known about its image. -/
def ImageMetadata.reference (m : ImageMetadata) (tag : String) : ImageReference :=
  ⟨tag, some m.digest, m.createdAt, m.annotations, false⟩

/-- A source of the tags of one repository. -/
structure TagSource (m : Type → Type) where
  /-- All tags. -/
  listTags : ExceptT RegistryError m (List String)
  /-- What is known about the image of a tag for a platform, or nothing where there is no such
  image. -/
  metadata : String → Option Platform → ExceptT RegistryError m (Option ImageMetadata)

end ImageDiscovery
