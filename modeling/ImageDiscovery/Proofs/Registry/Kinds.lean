import ImageDiscovery.Proofs.Document.Form
import ImageDiscovery.Proofs.Text.Edges
import ImageDiscovery.Registry.Client

/-!
# Kinds of manifests

Whether a response holds the manifest of one image or an index of manifests is told by its media
type. The header counts if it names a kind that is known. Otherwise the body counts: it may name a
kind itself, known or not, and if it names none, the fields that it has tell one.

## Main definitions

* `IsIndexType`, `IsManifestType` — the kinds that are known.
* `HeaderNames`, `NamesKnown` — the media type in a header.
* `TellsKind`, `HasKind` — the kind that a body tells, and the kind of the manifest in a response.

## Main results

* `RegistryClient.kindOf_eq_ok_iff`, `RegistryClient.kindOf_eq_unsupported_iff` — the kind that a
  client takes it for.
-/

namespace ImageDiscovery

open Document Http Text

variable {header t : String} {r : Response} {n : Node}

/-! ### Media types -/

/-- The media type is one of an index. -/
def IsIndexType (t : String) : Prop :=
  t = "application/vnd.oci.image.index.v1+json" ∨
    t = "application/vnd.docker.distribution.manifest.list.v2+json"

/-- The media type is one of the manifest of an image. -/
def IsManifestType (t : String) : Prop :=
  t = "application/vnd.oci.image.manifest.v1+json" ∨
    t = "application/vnd.docker.distribution.manifest.v2+json"

theorem isIndex_iff : MediaType.isIndex t = true ↔ IsIndexType t := by
  simp [MediaType.isIndex, IsIndexType, MediaType.index, MediaType.olderIndex]

theorem isManifest_iff : MediaType.isManifest t = true ↔ IsManifestType t := by
  simp [MediaType.isManifest, IsManifestType, MediaType.manifest, MediaType.olderManifest]

/-- An index is no manifest of an image. -/
theorem IsIndexType.not_isManifestType (h : IsIndexType t) : ¬ IsManifestType t := by
  rcases h with rfl | rfl <;> simp [IsManifestType]

/-- The header names a media type before its parameters, which follow a semicolon. -/
def HeaderNames (header t : String) : Prop :=
  ∃ front parameters, header.toList = front ++ parameters ∧ ';' ∉ front ∧
    (∀ c ∈ parameters.head?, c = ';') ∧ t.toList = trim front

theorem mediaTypeOfHeader_eq_iff :
    RegistryClient.mediaTypeOfHeader header = t ↔ HeaderNames header t := by
  unfold RegistryClient.mediaTypeOfHeader
  constructor
  · rintro rfl
    refine ⟨header.toList.takeWhile (· != ';'), header.toList.dropWhile (· != ';'),
      List.takeWhile_append_dropWhile.symm, fun h => ?_, fun c hc => ?_, String.toList_ofList⟩
    · have hne := List.mem_takeWhile_imp h
      exact absurd hne (by decide)
    · have hstays := of_mem_head?_dropWhile hc
      simpa using hstays
  · rintro ⟨front, parameters, hheader, hfront, hhead, ht⟩
    have hparameters : parameters.takeWhile (· != ';') = [] := by
      cases parameters with
      | nil => rfl
      | cons c parameters => rw [hhead c rfl, List.takeWhile_cons, if_neg (by decide)]
    have hfront' : ∀ c ∈ front, (c != ';') = true := fun c hc =>
      bne_iff_ne.2 fun heq => hfront (heq ▸ hc)
    rw [hheader, List.takeWhile_append_of_pos hfront', hparameters, List.append_nil, ← ht,
      String.ofList_toList]

/-- The header of the response names a kind that is known. -/
def NamesKnown (r : Response) (t : String) : Prop :=
  ∃ header, r.headerText? "content-type" = some header ∧ HeaderNames header t ∧
    (IsIndexType t ∨ IsManifestType t)

theorem filter_isKnown_eq_some_iff :
    ((r.headerText? "content-type").map RegistryClient.mediaTypeOfHeader).filter
      RegistryClient.isKnown = some t ↔ NamesKnown r t := by
  unfold NamesKnown RegistryClient.isKnown
  simp only [Option.filter_eq_some_iff, Option.map_eq_some_iff, mediaTypeOfHeader_eq_iff,
    Bool.or_eq_true, isIndex_iff, isManifest_iff]
  constructor
  · rintro ⟨⟨header, hheader, ht⟩, hknown⟩
    exact ⟨header, hheader, ht, hknown⟩
  · rintro ⟨header, hheader, ht, hknown⟩
    exact ⟨⟨header, hheader, ht⟩, hknown⟩

/-! ### Kinds -/

/-- The kind that a body tells, if it tells one: the one that it names; else the one of an index if
it lists manifests, and the one of a manifest if it has a configuration. -/
inductive TellsKind (n : Node) : Option String → Prop
  | named {t : String} (h : HasMember n "mediaType" (.text t)) : TellsKind n (some t)
  | index {v : Node} (hnamed : ∀ t, ¬ HasMember n "mediaType" (.text t))
      (h : HasMember n "manifests" v) : TellsKind n (some "application/vnd.oci.image.index.v1+json")
  | manifest {v : Node} (hnamed : ∀ t, ¬ HasMember n "mediaType" (.text t))
      (hindex : ∀ v, ¬ HasMember n "manifests" v) (h : HasMember n "config" v) :
    TellsKind n (some "application/vnd.oci.image.manifest.v1+json")
  | nothing (hnamed : ∀ t, ¬ HasMember n "mediaType" (.text t))
      (hindex : ∀ v, ¬ HasMember n "manifests" v) (hmanifest : ∀ v, ¬ HasMember n "config" v) :
    TellsKind n none

/-- Each body tells a kind, or tells none. -/
theorem exists_tellsKind (n : Node) : ∃ kind, TellsKind n kind := by
  by_cases hnamed : ∃ t, HasMember n "mediaType" (.text t)
  · obtain ⟨t, ht⟩ := hnamed
    exact ⟨_, .named ht⟩
  by_cases hindex : ∃ v, HasMember n "manifests" v
  · obtain ⟨v, hv⟩ := hindex
    exact ⟨_, .index (not_exists.1 hnamed) hv⟩
  by_cases hmanifest : ∃ v, HasMember n "config" v
  · obtain ⟨v, hv⟩ := hmanifest
    exact ⟨_, .manifest (not_exists.1 hnamed) (not_exists.1 hindex) hv⟩
  · exact ⟨_, .nothing (not_exists.1 hnamed) (not_exists.1 hindex) (not_exists.1 hmanifest)⟩

/-- The kind of the manifest in a response, if it has one: the one that the header names, and
otherwise the one that the body tells, which then has to write a value that can be read. -/
inductive HasKind (r : Response) : Option String → Prop
  | header {t : String} (h : NamesKnown r t) : HasKind r (some t)
  | body {n : Node} {kind : Option String} (hheader : ∀ t, ¬ NamesKnown r t)
      (hbody : RegistryClient.bodyValue? r.body = some n)
      (hread : n.isReadable Node.maxDepth = true) (h : TellsKind n kind) : HasKind r kind

namespace RegistryClient

/-- The kind of manifest in a response. -/
def kindOf (r : Response) : Except RegistryError String :=
  detectMediaType ((r.headerText? "content-type").map mediaTypeOfHeader) r.body

/-- What a client makes of a kind; that there is none is an error. -/
def kindResult : Option String → Except RegistryError String
  | some t => .ok t
  | none => .error (.unsupportedMediaType "unknown")

/-- The client takes a response for what it is. -/
theorem kindOf_eq_kindResult {kind : Option String} (h : HasKind r kind) :
    kindOf r = kindResult kind := by
  unfold kindOf detectMediaType
  cases h with
  | header h =>
    rw [filter_isKnown_eq_some_iff.2 h]
    rfl
  | @body n _ hheader hbody hread h =>
    have hnone : ((r.headerText? "content-type").map mediaTypeOfHeader).filter isKnown = none :=
      Option.eq_none_iff_forall_ne_some.2 fun t ht => hheader t (filter_isKnown_eq_some_iff.1 ht)
    rw [hnone, hbody, Option.filter_some_pos hread]
    dsimp only
    have hunnamed (hnamed : ∀ t, ¬ HasMember n "mediaType" (.text t)) (t : String) :
        n.get? "mediaType" ≠ some (.text t) := fun hget => hnamed t (get?_eq_some_iff.1 hget)
    have habsent {key : String} (hkey : ∀ v, ¬ HasMember n key v) : n.get? key = none :=
      Option.eq_none_iff_forall_ne_some.2 fun v hv => hkey v (get?_eq_some_iff.1 hv)
    cases h with
    | named h =>
      rw [get?_eq_some_iff.2 h]
      rfl
    | index hnamed h =>
      split
      · next t hget => exact absurd hget (hunnamed hnamed t)
      · rw [get?_eq_some_iff.2 h]
        rfl
    | manifest hnamed hindex h =>
      split
      · next t hget => exact absurd hget (hunnamed hnamed t)
      · rw [habsent hindex, get?_eq_some_iff.2 h]
        rfl
    | nothing hnamed hindex hmanifest =>
      split
      · next t hget => exact absurd hget (hunnamed hnamed t)
      · rw [habsent hindex, habsent hmanifest]
        rfl

/-- A response of which nothing can be said is no manifest. -/
theorem kindOf_eq_error_json (h : ∀ kind, ¬ HasKind r kind) : kindOf r = .error .json := by
  have hnone : ((r.headerText? "content-type").map mediaTypeOfHeader).filter isKnown = none :=
    Option.eq_none_iff_forall_ne_some.2 fun t ht => h _ (.header (filter_isKnown_eq_some_iff.1 ht))
  have hbody : (bodyValue? r.body).filter (·.isReadable Node.maxDepth) = none := by
    refine Option.eq_none_iff_forall_ne_some.2 fun n hn => ?_
    obtain ⟨hn, hread⟩ := Option.filter_eq_some_iff.1 hn
    obtain ⟨kind, hkind⟩ := exists_tellsKind n
    exact h kind (.body (fun t ht => h _ (.header ht)) hn hread hkind)
  rw [kindOf, detectMediaType, hnone, hbody]

/-- The kind that a client finds is the one of the response. -/
theorem kindOf_eq_ok_iff : kindOf r = .ok t ↔ HasKind r (some t) := by
  refine ⟨fun hok => ?_, kindOf_eq_kindResult⟩
  by_cases h : ∃ kind, HasKind r kind
  · obtain ⟨kind, hkind⟩ := h
    rw [kindOf_eq_kindResult hkind] at hok
    cases kind with
    | none => exact nomatch hok
    | some _ =>
      obtain rfl := Except.ok.inj hok
      exact hkind
  · exact nomatch (kindOf_eq_error_json (not_exists.1 h)).symm.trans hok

theorem kindOf_eq_unsupported_iff :
    kindOf r = .error (.unsupportedMediaType t) ↔ HasKind r none ∧ t = "unknown" := by
  constructor
  · intro herror
    by_cases h : ∃ kind, HasKind r kind
    · obtain ⟨kind, hkind⟩ := h
      rw [kindOf_eq_kindResult hkind] at herror
      cases kind with
      | none =>
        obtain rfl := RegistryError.unsupportedMediaType.inj (Except.error.inj herror)
        exact ⟨hkind, rfl⟩
      | some _ => exact nomatch herror
    · exact nomatch (kindOf_eq_error_json (not_exists.1 h)).symm.trans herror
  · rintro ⟨h, rfl⟩
    exact kindOf_eq_kindResult h

end RegistryClient

end ImageDiscovery
