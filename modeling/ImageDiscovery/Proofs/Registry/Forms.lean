import Mathlib.Tactic.MkIffOfInductiveProp
import ImageDiscovery.Proofs.Document.Form
import ImageDiscovery.Registry.Challenge
import ImageDiscovery.Registry.Manifest

/-!
# What documents of registries say

The documents that a registry answers with are records: pages of tags, answers of token services,
descriptors, manifests, indexes and configurations. For each of them the fields are told with what
they say, which of them may be missing, and what counts then.

## Main definitions

* `SaysTags`, `SaysTokens` — pages of tags and answers of token services.
* `SaysPlatform`, `SaysDescriptor`, `SaysManifest`, `SaysIndex`, `SaysConfig` — what is known about
  images.

## Main results

* `exists_tagList_iff` — the tags that are read from a page are the ones that it shows.
* `finds_tokens`, `finds_platform`, `finds_descriptor`, `finds_manifest`, `finds_index`,
  `finds_config` — the readers find what the documents say.
-/

namespace ImageDiscovery

open Document

/-! ### Pages of tags -/

/-- The page shows the tags. Where the field of the tags is missing or nothing, it shows none. -/
structure SaysTags (n : Node) (tags : List String) : Prop where
  record : IsRecord ["name", "tags"] n
  name : ∃ name, HasOr ["name", "tags"] n "name" SaysText "" name
  tags : (∃ v, Gives ["name", "tags"] n "tags" v ∧ ¬ IsNothing v ∧ SaysList SaysText v tags) ∨
    (∀ v, Gives ["name", "tags"] n "tags" v → IsNothing v) ∧ tags = []

/-- The name and the tags that a page gives, before tags that it does not give are taken for
none. -/
theorem tagList_read_iff {n : Node} {page : TagList} : TagList.read n = some page ↔
    IsRecord ["name", "tags"] n ∧ HasOr ["name", "tags"] n "name" SaysText "" page.name ∧
      MayHave ["name", "tags"] n "tags" (SaysList SaysText) page.tags := by
  obtain ⟨name, tags⟩ := page
  refine bind_record_eq_some_iff (by decide) fun f hf => ?_
  simp [Option.bind_eq_some_iff, hf.orDefault_iff finds_text,
    hf.optional_iff (finds_list finds_text)]

/-- The tags that are read from a page are the ones that it shows. -/
theorem exists_tagList_iff {n : Node} {tags : List String} :
    (∃ page, TagList.read n = some page ∧ page.tags.getD [] = tags) ↔ SaysTags n tags := by
  simp only [tagList_read_iff]
  constructor
  · rintro ⟨⟨name, _⟩, ⟨hrecord, hname, ⟨v, shown, hv, hnot, hshown, rfl⟩ | ⟨hv, rfl⟩⟩, rfl⟩
    · exact ⟨hrecord, ⟨name, hname⟩, .inl ⟨v, hv, hnot, hshown⟩⟩
    · exact ⟨hrecord, ⟨name, hname⟩, .inr ⟨hv, rfl⟩⟩
  · rintro ⟨hrecord, ⟨name, hname⟩, ⟨v, hv, hnot, hshown⟩ | ⟨hv, rfl⟩⟩
    · exact ⟨⟨name, some tags⟩, ⟨hrecord, hname, .inl ⟨v, tags, hv, hnot, hshown, rfl⟩⟩, rfl⟩
    · exact ⟨⟨name, none⟩, ⟨hrecord, hname, .inr ⟨hv, rfl⟩⟩, rfl⟩

/-! ### Answers of token services -/

/-- The answer names a token in two ways, each of which may be missing. -/
@[mk_iff]
structure SaysTokens (n : Node) (a : TokenAnswer) : Prop where
  record : IsRecord ["token", "access_token"] n
  token : MayHave ["token", "access_token"] n "token" SaysText a.token
  accessToken : MayHave ["token", "access_token"] n "access_token" SaysText a.accessToken

theorem finds_tokens : Finds TokenAnswer.read SaysTokens := by
  intro n ⟨token, accessToken⟩
  rw [saysTokens_iff]
  refine bind_record_eq_some_iff (by decide) fun f hf => ?_
  simp [Option.bind_eq_some_iff, hf.optional_iff finds_text]

/-! ### Platforms and descriptors -/

/-- The fields of a platform. -/
def Platform.fieldNames : List String := ["os", "architecture", "variant"]

/-- A platform has an operating system and an architecture, and may have a variant. -/
@[mk_iff]
structure SaysPlatform (n : Node) (p : Platform) : Prop where
  record : IsRecord Platform.fieldNames n
  os : Has Platform.fieldNames n "os" SaysText p.os
  architecture : Has Platform.fieldNames n "architecture" SaysText p.architecture
  variant : MayHave Platform.fieldNames n "variant" SaysText p.variant

theorem finds_platform : Finds Platform.read SaysPlatform := by
  intro n ⟨os, architecture, variant⟩
  rw [saysPlatform_iff]
  refine bind_record_eq_some_iff (by decide) fun f hf => ?_
  simp [Option.bind_eq_some_iff, Platform.fieldNames, hf.required_iff finds_text,
    hf.optional_iff finds_text]

/-- The fields of a descriptor. -/
def Descriptor.fieldNames : List String :=
  ["mediaType", "digest", "size", "platform", "annotations"]

/-- A descriptor has a digest, and may have a media type, a size, a platform and annotations. -/
@[mk_iff]
structure SaysDescriptor (n : Node) (d : Descriptor) : Prop where
  record : IsRecord Descriptor.fieldNames n
  mediaType : HasOr Descriptor.fieldNames n "mediaType" SaysText "" d.mediaType
  digest : Has Descriptor.fieldNames n "digest" SaysText d.digest
  size : HasOr Descriptor.fieldNames n "size" SaysUnsigned 0 d.size
  platform : MayHave Descriptor.fieldNames n "platform" SaysPlatform d.platform
  annotations : HasOr Descriptor.fieldNames n "annotations" (SaysDictionary SaysText) .empty
    d.annotations

theorem finds_annotations : Finds Annotations.read (SaysDictionary SaysText) :=
  finds_dictionary finds_text

theorem finds_descriptor : Finds Descriptor.read SaysDescriptor := by
  intro n ⟨mediaType, digest, size, platform, annotations⟩
  rw [saysDescriptor_iff]
  refine bind_record_eq_some_iff (by decide) fun f hf => ?_
  simp [Option.bind_eq_some_iff, Descriptor.fieldNames, hf.required_iff finds_text,
    hf.orDefault_iff finds_text, hf.orDefault_iff finds_unsigned, hf.optional_iff finds_platform,
    hf.orDefault_iff finds_annotations]

/-! ### Manifests, indexes and configurations -/

/-- The fields of a manifest. -/
def Manifest.fieldNames : List String := ["mediaType", "config", "layers", "annotations"]

/-- The manifest of an image has the descriptor of its configuration, and may have a media type,
layers and annotations. -/
@[mk_iff]
structure SaysManifest (n : Node) (m : Manifest) : Prop where
  record : IsRecord Manifest.fieldNames n
  mediaType : MayHave Manifest.fieldNames n "mediaType" SaysText m.mediaType
  config : Has Manifest.fieldNames n "config" SaysDescriptor m.config
  layers : HasOr Manifest.fieldNames n "layers" (SaysList SaysDescriptor) [] m.layers
  annotations : HasOr Manifest.fieldNames n "annotations" (SaysDictionary SaysText) .empty
    m.annotations

theorem finds_manifest : Finds Manifest.read SaysManifest := by
  intro n ⟨mediaType, config, layers, annotations⟩
  rw [saysManifest_iff]
  refine bind_record_eq_some_iff (by decide) fun f hf => ?_
  simp [Option.bind_eq_some_iff, Manifest.fieldNames, hf.optional_iff finds_text,
    hf.required_iff finds_descriptor, hf.orDefault_iff (finds_list finds_descriptor),
    hf.orDefault_iff finds_annotations]

/-- The fields of an index. -/
def ImageIndex.fieldNames : List String := ["mediaType", "manifests", "annotations"]

/-- An index has the descriptors of manifests, and may have a media type and annotations. -/
@[mk_iff]
structure SaysIndex (n : Node) (i : ImageIndex) : Prop where
  record : IsRecord ImageIndex.fieldNames n
  mediaType : MayHave ImageIndex.fieldNames n "mediaType" SaysText i.mediaType
  manifests : Has ImageIndex.fieldNames n "manifests" (SaysList SaysDescriptor) i.manifests
  annotations : HasOr ImageIndex.fieldNames n "annotations" (SaysDictionary SaysText) .empty
    i.annotations

theorem finds_index : Finds ImageIndex.read SaysIndex := by
  intro n ⟨mediaType, manifests, annotations⟩
  rw [saysIndex_iff]
  refine bind_record_eq_some_iff (by decide) fun f hf => ?_
  simp [Option.bind_eq_some_iff, ImageIndex.fieldNames, hf.optional_iff finds_text,
    hf.required_iff (finds_list finds_descriptor), hf.orDefault_iff finds_annotations]

/-- The fields of a configuration. -/
def ImageConfig.fieldNames : List String := ["created", "os", "architecture", "variant"]

/-- The configuration of an image may say when the image was built, and for which platform. -/
@[mk_iff]
structure SaysConfig (n : Node) (c : ImageConfig) : Prop where
  record : IsRecord ImageConfig.fieldNames n
  created : MayHave ImageConfig.fieldNames n "created" SaysText c.created
  os : MayHave ImageConfig.fieldNames n "os" SaysText c.os
  architecture : MayHave ImageConfig.fieldNames n "architecture" SaysText c.architecture
  variant : MayHave ImageConfig.fieldNames n "variant" SaysText c.variant

theorem finds_config : Finds ImageConfig.read SaysConfig := by
  intro n ⟨created, os, architecture, variant⟩
  rw [saysConfig_iff]
  refine bind_record_eq_some_iff (by decide) fun f hf => ?_
  simp [Option.bind_eq_some_iff, ImageConfig.fieldNames, hf.optional_iff finds_text]

end ImageDiscovery
