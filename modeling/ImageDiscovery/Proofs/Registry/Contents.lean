import Mathlib.Data.List.Basic
import ImageDiscovery.Proofs.Registry.Kinds
import ImageDiscovery.Proofs.Registry.Reading
import ImageDiscovery.Proofs.Registry.Responses

/-!
# Manifests, indexes and configurations

A tag or a digest leads to the manifest of one image, or to an index of manifests for several
platforms. The configuration of an image, which its manifest names, says when the image was built
and for which platform. What a visit reads is told here by what the body of the response says, and
by the kind of it.

## Main definitions

* `Platform.Meets` — a platform serves where another one is wanted.
* `Descriptor.Serves`, `ImageConfig.Declares` — the platforms of an entry and of a configuration.
* `ImageIndex.IsFirstFor` — the entry of an index for a platform.
* `Manifest.image`, `ImageIndex.image` — what is known about an image.
* `Visit.HoldsIndex`, `Visit.HoldsManifest`, `Visit.HoldsOther`, `Visit.HoldsConfig` — what a visit
  reads.

## Main results

* `ImageIndex.find?_eq_some_iff`, `ImageConfig.serves_iff` — how platforms are compared.
* `Visit.readAs_eq_ok_none_iff`, `Visit.readAs_document_eq_index_iff`,
  `Visit.readAs_document_eq_manifest_iff`, `Visit.readAs_manifest_eq_ok_iff`,
  `Visit.config_eq_ok_iff` — what a client makes of what it reads.
* `RegistryClient.fetchManifest_eq`, `RegistryClient.fetchConfig_eq` — the client makes it of the
  response alone.
-/

namespace ImageDiscovery

open Document Http Time

/-! ### Platforms -/

/-- An image of the platform `p` serves where `wanted` is wanted: it has the same operating system
and architecture, and the same variant if one is wanted. -/
structure Platform.Meets (p wanted : Platform) : Prop where
  os : wanted.os = p.os
  architecture : wanted.architecture = p.architecture
  variant : wanted.variant = none ∨ p.variant = wanted.variant

theorem Platform.admits_iff {p wanted : Platform} : wanted.admits p = true ↔ p.Meets wanted := by
  simp only [admits, Bool.and_eq_true, Bool.or_eq_true, beq_iff_eq, Option.isNone_iff_eq_none]
  constructor
  · rintro ⟨⟨hos, harch⟩, hvariant⟩
    exact ⟨hos, harch, hvariant⟩
  · rintro ⟨hos, harch, hvariant⟩
    exact ⟨⟨hos, harch⟩, hvariant⟩

/-- The entry declares a platform, and it is one that serves the wanted one. -/
def Descriptor.Serves (d : Descriptor) (wanted : Platform) : Prop :=
  ∃ p, d.platform = some p ∧ p.Meets wanted

theorem Descriptor.any_admits_iff {d : Descriptor} {wanted : Platform} :
    d.platform.any wanted.admits = true ↔ d.Serves wanted := by
  simp only [Option.any_eq_true, Platform.admits_iff]
  rfl

/-- The entry serves the wanted platform, and no entry before it does. -/
def ImageIndex.IsFirstFor (index : ImageIndex) (wanted : Platform) (entry : Descriptor) : Prop :=
  entry.Serves wanted ∧ ∃ before after, index.manifests = before ++ entry :: after ∧
    ∀ d ∈ before, ¬ d.Serves wanted

theorem ImageIndex.find?_eq_some_iff {index : ImageIndex} {wanted : Platform}
    {entry : Descriptor} : index.find? wanted = some entry ↔ index.IsFirstFor wanted entry := by
  unfold find? IsFirstFor
  simp only [List.find?_eq_some_iff_append, Descriptor.any_admits_iff, Bool.not_eq_true',
    ← Bool.not_eq_true]

theorem ImageIndex.find?_eq_none_iff {index : ImageIndex} {wanted : Platform} :
    index.find? wanted = none ↔ ∀ d ∈ index.manifests, ¬ d.Serves wanted := by
  unfold find?
  simp only [List.find?_eq_none, Descriptor.any_admits_iff]

/-- The configuration declares an operating system and an architecture: those of the platform. -/
structure ImageConfig.Declares (config : ImageConfig) (p : Platform) : Prop where
  os : config.os = some p.os
  architecture : config.architecture = some p.architecture
  variant : config.variant = p.variant

theorem ImageConfig.platform?_eq_some_iff {config : ImageConfig} {p : Platform} :
    config.platform? = some p ↔ config.Declares p := by
  unfold platform?
  split
  · next os arch hos harch =>
    rw [Option.some.injEq]
    constructor
    · rintro rfl
      exact ⟨hos, harch, rfl⟩
    · rintro ⟨hos', harch', hvariant⟩
      obtain rfl : os = p.os := Option.some.inj (hos.symm.trans hos')
      obtain rfl : arch = p.architecture := Option.some.inj (harch.symm.trans harch')
      rw [hvariant]
  · next hnone => exact iff_of_false nofun fun h => hnone _ _ h.os h.architecture

/-- A configuration serves unless it declares a platform that does not. -/
theorem ImageConfig.serves_iff {config : ImageConfig} {wanted : Platform} :
    config.serves wanted = true ↔ ∀ p, config.Declares p → p.Meets wanted := by
  unfold serves
  simp only [Option.all_eq_true, platform?_eq_some_iff, Platform.admits_iff]

theorem ImageConfig.all_serves_iff {config : ImageConfig} {wanted : Option Platform} :
    wanted.all config.serves = true ↔
      ∀ p ∈ wanted, ∀ q, config.Declares q → q.Meets p := by
  simp only [Option.all_eq_true, serves_iff]
  rfl

theorem ImageConfig.not_all_serves_iff {config : ImageConfig} {wanted : Option Platform} :
    ¬ wanted.all config.serves = true ↔
      ∃ p q, wanted = some p ∧ config.Declares q ∧ ¬ q.Meets p := by
  rw [all_serves_iff]
  push Not
  constructor
  · rintro ⟨p, hp, q, hq, hnot⟩
    exact ⟨p, q, hp, hq, hnot⟩
  · rintro ⟨p, q, hp, hq, hnot⟩
    exact ⟨p, hp, q, hq, hnot⟩

/-! ### Images -/

/-- When an image was built, by the annotation that tells it. -/
def annotatedTime (a : Annotations) : Option Timestamp :=
  (a.find? "org.opencontainers.image.created").bind Timestamp.ofStrict?

/-- What is known about the image of a manifest: when it was built is told by its configuration, or
else by an annotation. -/
def Manifest.image (manifest : Manifest) (digest : String) (config : ImageConfig) :
    ImageMetadata where
  digest := digest
  createdAt := (config.created.bind Timestamp.ofStrict?).or (annotatedTime manifest.annotations)
  annotations := manifest.annotations

/-- What is known about an index itself: when it was built is told by an annotation. -/
def ImageIndex.image (index : ImageIndex) (digest : String) : ImageMetadata where
  digest := digest
  createdAt := annotatedTime index.annotations
  annotations := index.annotations

/-! ### Contents -/

namespace RegistryClient

/-- The digest of what is in a response: the one that the registry names, or else the one of the
body. -/
def digestOf (r : Response) : String :=
  (r.headerText? "docker-content-digest").getD (Digest.sha256Text r.body)

/-- What a response says about the content with a tag or digest. -/
def contentOf (r : Response) : Except RegistryError (Option Content) :=
  if r.status = 404 then .ok none
  else do
    let r ← checkStatus r
    let body ← completeBody r
    let mediaType ← detectMediaType ((r.headerText? "content-type").map mediaTypeOfHeader) body
    return some
      ⟨(r.headerText? "docker-content-digest").getD (Digest.sha256Text body), mediaType, body⟩

/-- What a response says about the configuration of an image. -/
def configOf (r : Response) : Except RegistryError ImageConfig := do
  let r ← checkStatus r
  bodyDocument ImageConfig.read (← completeBody r)

section

variable {m : Type → Type} [Monad m] [LawfulMonad m] (c : RegistryClient m)

/-- What a client makes of a manifest is settled by the response. -/
theorem fetchManifest_eq (reference : String) : c.fetchManifest reference =
    c.get (c.config.apiUrl ++ "/manifests/" ++ reference) (some MediaType.accepted) >>=
      fun r => liftM (contentOf r) := by
  unfold fetchManifest contentOf
  congr
  funext r
  split
  · rfl
  · simp only [liftM_bind]
    rfl

/-- What a client makes of a configuration is settled by the response. -/
theorem fetchConfig_eq (digest : String) : c.fetchConfig digest =
    c.get (c.config.apiUrl ++ "/blobs/" ++ digest) none >>= fun r => liftM (configOf r) := by
  unfold fetchConfig configOf
  simp only [liftM_bind]

end

end RegistryClient

/-- The manifest that the content is, which has to be the one of a single image. -/
def Content.manifest (content : Content) : Except RegistryError Manifest :=
  if MediaType.isManifest content.mediaType then
    RegistryClient.bodyDocument Manifest.read content.body
  else .error (.unsupportedMediaType content.mediaType)

/-- The index or the manifest that the content is. -/
def Content.document (content : Content) : Except RegistryError (ImageIndex ⊕ Manifest) :=
  if MediaType.isIndex content.mediaType then
    RegistryClient.bodyDocument ImageIndex.read content.body >>= fun index => .ok (.inl index)
  else content.manifest >>= fun manifest => .ok (.inr manifest)

/-- The response has a digest: the one that the registry names, or else the one of the body. -/
def HasDigest (r : Response) (digest : String) : Prop :=
  r.headerText? "docker-content-digest" = some digest ∨
    r.headerText? "docker-content-digest" = none ∧ digest = Digest.sha256Text r.body

theorem RegistryClient.digestOf_eq_iff {r : Response} {digest : String} :
    digestOf r = digest ↔ HasDigest r digest := by
  unfold digestOf HasDigest
  cases r.headerText? "docker-content-digest" <;> simp [eq_comm]

/-- A document that is read from content, with the digest of the content. -/
def Content.readAs {α : Type} (f : Content → Except RegistryError α) :
    Option Content → Except RegistryError (Option (String × α))
  | none => .ok none
  | some content => f content >>= fun a => .ok (some (content.digest, a))

namespace Visit

/-- The visit reads a response that went well, and all of its body. -/
def Obtains (v : Visit) (r : Response) : Prop :=
  v.outcome = .ok r ∧ r.isSuccess = true ∧ r.complete = true

/-- The visit reads an index. -/
def HoldsIndex (v : Visit) (digest : String) (index : ImageIndex) : Prop :=
  ∃ r t n, v.Obtains r ∧ HasDigest r digest ∧ HasKind r (some t) ∧ IsIndexType t ∧
    RegistryClient.bodyValue? r.body = some n ∧ SaysIndex n index

/-- The visit reads the manifest of an image. -/
def HoldsManifest (v : Visit) (digest : String) (manifest : Manifest) : Prop :=
  ∃ r t n, v.Obtains r ∧ HasDigest r digest ∧ HasKind r (some t) ∧ IsManifestType t ∧
    RegistryClient.bodyValue? r.body = some n ∧ SaysManifest n manifest

/-- The visit reads what is not the manifest of an image: its kind is another one, or it has
none. -/
def HoldsOther (v : Visit) (mediaType : String) : Prop :=
  ∃ r, v.Obtains r ∧ (HasKind r (some mediaType) ∧ ¬ IsManifestType mediaType ∨
    HasKind r none ∧ mediaType = "unknown")

/-- The visit reads the configuration of an image. -/
def HoldsConfig (v : Visit) (config : ImageConfig) : Prop :=
  ∃ r n, v.Obtains r ∧ RegistryClient.bodyValue? r.body = some n ∧ SaysConfig n config

/-- What the visit reads, with its kind, as the client takes it from the response. -/
def Holds (v : Visit) (content : Content) : Prop :=
  ∃ r, v.Obtains r ∧ content.digest = RegistryClient.digestOf r ∧
    RegistryClient.kindOf r = .ok content.mediaType ∧ content.body = r.body

/-- What a client makes of the visit of content, which it reads as a document. -/
def readAs {α : Type} (f : Content → Except RegistryError α) (v : Visit) :
    Except RegistryError (Option (String × α)) :=
  v.outcome >>= fun r => RegistryClient.contentOf r >>= Content.readAs f

/-- What a client makes of the visit of a configuration. -/
def config (v : Visit) : Except RegistryError ImageConfig := v.outcome >>= RegistryClient.configOf

end Visit

namespace RegistryClient

variable {r : Response} {content : Content}

theorem contentOf_eq_ok_none_iff : contentOf r = .ok none ↔ r.status = 404 := by
  unfold contentOf
  refine ⟨fun h => ?_, fun h => if_pos h⟩
  by_contra hstatus
  rw [if_neg hstatus] at h
  simp only [bind_eq_ok_iff] at h
  obtain ⟨_, -, _, -, _, -, h⟩ := h
  exact nomatch h

theorem contentOf_eq_ok_some_iff : contentOf r = .ok (some content) ↔
    r.isSuccess = true ∧ r.complete = true ∧ content.digest = digestOf r ∧
      kindOf r = .ok content.mediaType ∧ content.body = r.body := by
  unfold contentOf
  by_cases hstatus : r.status = 404
  · rw [if_pos hstatus]
    exact iff_of_false nofun fun h => r.status_ne_of_isSuccess h.1 hstatus
  · rw [if_neg hstatus]
    simp only [bind_eq_ok_iff, checkStatus_eq_ok_iff, completeBody_eq_ok_iff]
    constructor
    · rintro ⟨_, ⟨hsuccess, rfl⟩, _, ⟨hcomplete, rfl⟩, mediaType, hkind, h⟩
      obtain rfl := Option.some.inj (Except.ok.inj h)
      exact ⟨hsuccess, hcomplete, rfl, hkind, rfl⟩
    · obtain ⟨digest, mediaType, body⟩ := content
      rintro ⟨hsuccess, hcomplete, rfl, hkind, rfl⟩
      exact ⟨r, ⟨hsuccess, rfl⟩, r.body, ⟨hcomplete, rfl⟩, mediaType, hkind, rfl⟩

theorem contentOf_eq_error {e : RegistryError} (hsuccess : r.isSuccess = true)
    (hcomplete : r.complete = true) (hkind : kindOf r = .error e) : contentOf r = .error e := by
  unfold contentOf
  rw [if_neg (r.status_ne_of_isSuccess hsuccess), checkStatus, if_pos hsuccess]
  change completeBody r >>= _ = _
  rw [completeBody, if_pos hcomplete]
  change kindOf r >>= _ = _
  rw [hkind]
  rfl

end RegistryClient

namespace Content

variable {content : Content} {index : ImageIndex} {manifest : Manifest}

theorem manifest_eq_ok_iff : content.manifest = .ok manifest ↔
    MediaType.isManifest content.mediaType = true ∧
      (RegistryClient.bodyValue? content.body).bind Manifest.read = some manifest := by
  unfold Content.manifest
  split
  · next h => rw [RegistryClient.bodyDocument_eq_ok_iff, and_iff_right h]
  · next h => exact iff_of_false nofun fun h' => h h'.1

theorem document_eq_index_iff : content.document = .ok (.inl index) ↔
    MediaType.isIndex content.mediaType = true ∧
      (RegistryClient.bodyValue? content.body).bind ImageIndex.read = some index := by
  unfold document
  split
  · next h =>
    simp only [bind_eq_ok_iff, RegistryClient.bodyDocument_eq_ok_iff, Except.ok.injEq,
      Sum.inl.injEq, exists_eq_right, h, true_and]
  · next h =>
    refine iff_of_false (fun h' => ?_) fun h' => h h'.1
    obtain ⟨_, -, h'⟩ := bind_eq_ok_iff.1 h'
    exact nomatch h'

theorem document_eq_manifest_iff : content.document = .ok (.inr manifest) ↔
    content.manifest = .ok manifest := by
  unfold document
  split
  · next h =>
    have hkind : ¬ MediaType.isManifest content.mediaType = true :=
      mt isManifest_iff.1 (isIndex_iff.1 h).not_isManifestType
    refine iff_of_false (fun h' => ?_) fun h' => ?_
    · obtain ⟨_, -, h'⟩ := bind_eq_ok_iff.1 h'
      exact nomatch h'
    · exact hkind (manifest_eq_ok_iff.1 h').1
  · simp only [bind_eq_ok_iff, Except.ok.injEq, Sum.inr.injEq, exists_eq_right]

end Content

namespace Visit

variable {α : Type} {f : Content → Except RegistryError α} {v : Visit} {digest mediaType : String}
  {a : α} {index : ImageIndex} {manifest : Manifest} {config : ImageConfig}

theorem holds_iff {content : Content} : v.Holds content ↔
    ∃ r, v.outcome = .ok r ∧ RegistryClient.contentOf r = .ok (some content) := by
  simp only [Holds, Obtains, RegistryClient.contentOf_eq_ok_some_iff, and_assoc]

/-- A document that the client reads from a response of its kind is what the body says. -/
theorem exists_holds_iff {β : Type} {read : Reader β} {form : Form β} (hread : Finds read form)
    (isKind : String → Bool) (IsKind : String → Prop) (hkind : ∀ t, isKind t = true ↔ IsKind t)
    {b : β} :
    (∃ content, v.Holds content ∧ content.digest = digest ∧ isKind content.mediaType = true ∧
      (RegistryClient.bodyValue? content.body).bind read = some b) ↔
    ∃ r t n, v.Obtains r ∧ HasDigest r digest ∧ HasKind r (some t) ∧ IsKind t ∧
      RegistryClient.bodyValue? r.body = some n ∧ form n b := by
  simp only [Option.bind_eq_some_iff, hread _ _, hkind, ← RegistryClient.digestOf_eq_iff,
    ← RegistryClient.kindOf_eq_ok_iff]
  constructor
  · rintro ⟨⟨_, t, _⟩, ⟨r, hr, rfl, ht, rfl⟩, hdigest, hkind, n, hn, hb⟩
    exact ⟨r, t, n, hr, hdigest, ht, hkind, hn, hb⟩
  · rintro ⟨r, t, n, hr, hdigest, ht, hkind, hn, hb⟩
    exact ⟨⟨RegistryClient.digestOf r, t, r.body⟩, ⟨r, hr, rfl, ht, rfl⟩, hdigest, hkind, n, hn, hb⟩

theorem readAs_eq_ok_none_iff : v.readAs f = .ok none ↔ v.IsMissing := by
  unfold readAs IsMissing
  rw [bind_eq_ok_iff]
  refine exists_congr fun r => and_congr_right fun _ => ?_
  rw [bind_eq_ok_iff, ← RegistryClient.contentOf_eq_ok_none_iff]
  constructor
  · rintro ⟨_ | content, hcontent, h⟩
    · exact hcontent
    · obtain ⟨_, -, h⟩ := bind_eq_ok_iff.1 h
      exact nomatch h
  · exact fun h => ⟨none, h, rfl⟩

theorem readAs_eq_ok_some_iff : v.readAs f = .ok (some (digest, a)) ↔
    ∃ content, v.Holds content ∧ content.digest = digest ∧ f content = .ok a := by
  unfold readAs
  simp only [bind_eq_ok_iff, holds_iff]
  constructor
  · rintro ⟨r, hr, _ | content, hcontent, h⟩
    · exact nomatch h
    · obtain ⟨a', ha, h⟩ := bind_eq_ok_iff.1 h
      obtain ⟨rfl, rfl⟩ := Prod.mk.inj (Option.some.inj (Except.ok.inj h))
      exact ⟨content, ⟨r, hr, hcontent⟩, rfl, ha⟩
  · rintro ⟨content, ⟨r, hr, hcontent⟩, rfl, ha⟩
    exact ⟨r, hr, some content, hcontent, bind_eq_ok_iff.2 ⟨a, ha, rfl⟩⟩

theorem readAs_document_eq_index_iff :
    v.readAs Content.document = .ok (some (digest, .inl index)) ↔ v.HoldsIndex digest index := by
  simp only [readAs_eq_ok_some_iff, Content.document_eq_index_iff]
  exact exists_holds_iff finds_index MediaType.isIndex IsIndexType fun _ => isIndex_iff

theorem readAs_manifest_eq_ok_iff :
    v.readAs Content.manifest = .ok (some (digest, manifest)) ↔
      v.HoldsManifest digest manifest := by
  simp only [readAs_eq_ok_some_iff, Content.manifest_eq_ok_iff]
  exact exists_holds_iff finds_manifest MediaType.isManifest IsManifestType fun _ => isManifest_iff

theorem readAs_document_eq_manifest_iff :
    v.readAs Content.document = .ok (some (digest, .inr manifest)) ↔
      v.HoldsManifest digest manifest := by
  rw [← readAs_manifest_eq_ok_iff]
  simp only [readAs_eq_ok_some_iff, Content.document_eq_manifest_iff]

/-- What is not the manifest of an image is not read as one. -/
theorem HoldsOther.readAs_manifest_eq (h : v.HoldsOther mediaType) :
    v.readAs Content.manifest = .error (.unsupportedMediaType mediaType) := by
  obtain ⟨r, ⟨hr, hsuccess, hcomplete⟩, ⟨hkind, hother⟩ | hnone⟩ := h
  · have hcontent : RegistryClient.contentOf r =
        .ok (some ⟨RegistryClient.digestOf r, mediaType, r.body⟩) :=
      RegistryClient.contentOf_eq_ok_some_iff.2
        ⟨hsuccess, hcomplete, rfl, RegistryClient.kindOf_eq_ok_iff.2 hkind, rfl⟩
    have hmanifest : Content.manifest ⟨RegistryClient.digestOf r, mediaType, r.body⟩ =
        .error (.unsupportedMediaType mediaType) :=
      if_neg (mt isManifest_iff.1 hother)
    exact bind_eq_error_iff.2 (.inr ⟨r, hr, bind_eq_error_iff.2 (.inr ⟨_, hcontent,
      bind_eq_error_iff.2 (.inl hmanifest)⟩)⟩)
  · have hkind := RegistryClient.kindOf_eq_unsupported_iff.2 hnone
    exact bind_eq_error_iff.2 (.inr ⟨r, hr, bind_eq_error_iff.2
      (.inl (RegistryClient.contentOf_eq_error hsuccess hcomplete hkind))⟩)

theorem config_eq_ok_iff : v.config = .ok config ↔ v.HoldsConfig config := by
  unfold Visit.config HoldsConfig Obtains RegistryClient.configOf
  simp only [bind_eq_ok_iff, RegistryClient.checkStatus_eq_ok_iff,
    RegistryClient.completeBody_eq_ok_iff, RegistryClient.bodyDocument_eq_ok_iff,
    Option.bind_eq_some_iff, finds_config _ _]
  refine exists_congr fun r => ?_
  constructor
  · rintro ⟨hr, _, ⟨hsuccess, rfl⟩, _, ⟨hcomplete, rfl⟩, n, hn, hconfig⟩
    exact ⟨n, ⟨hr, hsuccess, hcomplete⟩, hn, hconfig⟩
  · rintro ⟨n, ⟨hr, hsuccess, hcomplete⟩, hn, hconfig⟩
    exact ⟨hr, r, ⟨hsuccess, rfl⟩, r.body, ⟨hcomplete, rfl⟩, n, hn, hconfig⟩

end Visit

end ImageDiscovery
