import ImageDiscovery.Proofs.Document.Record
import ImageDiscovery.Proofs.Time.Written
import ImageDiscovery.Warehouse.Basic

/-!
# Stored warehouses

A warehouse is stored as a document with its subscriptions and with the results of its last pass,
and each of these is read again as it was: fields that are left out because they are nothing, empty
or at their default are nothing, empty or at their default again. What can be stored has numbers of
64 bits and timestamps of the calendar.

## Main definitions

* `ImageReference.Storable`, `ImageResult.Storable`, `Artifacts.Storable`, `ObjectMeta.Storable`,
  `ImageSubscription.Storable`, `RepoSubscription.Storable`, `Warehouse.Storable` — what can be
  stored.

## Main results

* `Artifacts.restores` — the results of a pass are restored.
* `RepoSubscription.restores` — a subscription of any kind is restored.
* `Warehouse.restores` — a warehouse is restored.
-/

namespace ImageDiscovery

open Document Time

theorem restores_timestamp {t : Timestamp} (h : t.IsInstant) :
    Restores readTimestamp timestampNode t where
  read_eq := by
    rw [readTimestamp, timestampNode, Node.readText, Option.bind_some]
    exact Timestamp.ofRelaxed?_documentText h
  isNull_eq := rfl

theorem restores_annotations (a : Annotations) : Restores Annotations.read Annotations.toNode a :=
  restores_dictionary fun e _ => restores_text e.2

/-! ### Results of discovery -/

namespace ImageReference

variable {r : ImageReference}

/-- The time of the image, if it is known, is a point in time. -/
def Storable (r : ImageReference) : Prop := ∀ t ∈ r.createdAt, t.IsInstant

theorem toNode_eq (r : ImageReference) : r.toNode = .mapping (present
    [("tag", some (.text r.tag)), ("digest", r.digest.map .text),
      ("createdAt", r.createdAt.map timestampNode),
      ("annotations",
        if r.annotations.isEmpty then none else some (Annotations.toNode r.annotations)),
      ("fromActiveFreight",
        if !r.fromActiveFreight then none else some (.bool r.fromActiveFreight))]) := by
  cases h : r.fromActiveFreight <;> simp [toNode, Annotations.field?, h]

theorem restores (h : r.Storable) : Restores read toNode r where
  read_eq := by
    rw [toNode_eq, read]
    refine bind_record_present rfl (by decide) fun f hf => ?_
    obtain ⟨htag, hdigest, hcreated, hannotations, hflag, -⟩ := hf
    simp only [Fields.required_eq (restores_text _) htag,
      Fields.optional_eq (fun s _ => restores_text s) hdigest,
      Fields.optional_eq (fun t ht => restores_timestamp (h t ht)) hcreated,
      Fields.orDefault_eq_of_skip (restores_annotations _) Dictionary.eq_empty_of_isEmpty
        hannotations,
      Fields.orDefault_eq_of_skip (restores_bool _) (Eq.mp (Bool.not_eq_true' _)) hflag,
      Option.bind_eq_bind, Option.bind_some]
    rfl
  isNull_eq := rfl

end ImageReference

namespace ImageResult

variable {r : ImageResult}

/-- All references can be stored. -/
def Storable (r : ImageResult) : Prop := ∀ x ∈ r.references, x.Storable

theorem toNode_eq (r : ImageResult) : r.toNode = .mapping (present
    [("repoURL", some (.text r.repoUrl)), ("platform", r.platform.map .text),
      ("references", if r.references.isEmpty then none
        else some (.array (r.references.map ImageReference.toNode)))]) := by
  simp [toNode]

theorem restores (h : r.Storable) : Restores read toNode r where
  read_eq := by
    rw [toNode_eq, read]
    refine bind_record_present rfl (by decide) fun f hf => ?_
    obtain ⟨hrepo, hplatform, hreferences, -⟩ := hf
    simp only [Fields.required_eq (restores_text _) hrepo,
      Fields.optional_eq (fun s _ => restores_text s) hplatform,
      Fields.orDefault_eq_of_skip (restores_list fun x hx => ImageReference.restores (h x hx))
        List.isEmpty_iff.1 hreferences,
      Option.bind_eq_bind, Option.bind_some]
    rfl
  isNull_eq := rfl

end ImageResult

namespace Artifacts

variable {a : Artifacts}

/-- The time of the pass is a point in time, and the results can be stored. -/
structure Storable (a : Artifacts) : Prop where
  discoveredAt : ∀ t ∈ a.discoveredAt, t.IsInstant
  images : ∀ r ∈ a.images, r.Storable

theorem toNode_eq (a : Artifacts) : a.toNode = .mapping (present
    [("discoveredAt", a.discoveredAt.map timestampNode),
      ("images", some (.array (a.images.map ImageResult.toNode)))]) := by
  simp [toNode]

/-- The results of a pass are restored. -/
theorem restores (h : a.Storable) : Restores read toNode a where
  read_eq := by
    rw [toNode_eq, read]
    refine bind_record_present rfl (by decide) fun f hf => ?_
    obtain ⟨hdiscovered, himages, -⟩ := hf
    simp only [
      Fields.optional_eq (fun t ht => restores_timestamp (h.discoveredAt t ht)) hdiscovered,
      Fields.orDefault_eq (restores_list fun r hr => ImageResult.restores (h.images r hr)) himages,
      Option.bind_eq_bind, Option.bind_some]
    rfl
  isNull_eq := rfl

end Artifacts

/-! ### Subscriptions -/

theorem SelectionStrategy.restores (s : SelectionStrategy) : Restores read toNode s :=
  restores_name (by cases s <;> decide)

namespace ImageSubscription

variable {s : ImageSubscription}

/-- The number of tags to be kept is a machine word. -/
def Storable (s : ImageSubscription) : Prop := s.discoveryLimit ≤ Text.wordMax

theorem toNode_eq (s : ImageSubscription) : s.toNode = .mapping (present
    [("repoURL", some (.text s.repoUrl)), ("imageSelectionStrategy", some s.strategy.toNode),
      ("constraint", s.constraint.map .text), ("strictSemvers", some (.bool s.strictVersions)),
      ("allowTags", s.allowTags.map .text),
      ("ignoreTags", if s.ignoreTags.isEmpty then none else some (.array (s.ignoreTags.map .text))),
      ("platform", s.platform.map .text),
      ("discoveryLimit", some (.integer s.discoveryLimit)),
      ("insecureSkipTLSVerify", some (.bool s.insecureSkipTlsVerify))]) := by
  simp [toNode]

theorem restores (h : s.Storable) : Restores read toNode s where
  read_eq := by
    rw [toNode_eq, read]
    refine bind_record_present rfl (by decide) fun f hf => ?_
    obtain ⟨hrepo, hstrategy, hconstraint, hstrict, hallow, hignore, hplatform, hlimit, htls, -⟩ :=
      hf
    simp only [Fields.required_eq (restores_text _) hrepo,
      Fields.orDefault_eq (SelectionStrategy.restores _) hstrategy,
      Fields.optional_eq (fun s _ => restores_text s) hconstraint,
      Fields.orDefault_eq (restores_bool _) hstrict,
      Fields.optional_eq (fun s _ => restores_text s) hallow,
      Fields.orDefault_eq_of_skip (restores_list fun s _ => restores_text s) List.isEmpty_iff.1
        hignore,
      Fields.optional_eq (fun s _ => restores_text s) hplatform,
      Fields.orDefault_eq (restores_unsigned h) hlimit,
      Fields.orDefault_eq (restores_bool _) htls,
      Option.bind_eq_bind, Option.bind_some]
    rfl
  isNull_eq := rfl

end ImageSubscription

theorem GitSubscription.restores (s : GitSubscription) : Restores read toNode s where
  read_eq := by
    have hnode : s.toNode = .mapping (present [("repoURL", some (.text s.repoUrl))]) := rfl
    rw [hnode, read]
    refine bind_record_present rfl (by decide) fun f hf => ?_
    rw [Fields.required_eq (restores_text _) hf.1]
    rfl
  isNull_eq := rfl

theorem ChartSubscription.restores (s : ChartSubscription) : Restores read toNode s where
  read_eq := by
    have hnode : s.toNode = .mapping (present
        [("repoURL", some (.text s.repoUrl)), ("name", some (.text s.name))]) := rfl
    rw [hnode, read]
    refine bind_record_present rfl (by decide) fun f hf => ?_
    rw [Fields.required_eq (restores_text _) hf.1, Fields.orDefault_eq (restores_text _) hf.2.1]
    rfl
  isNull_eq := rfl

namespace RepoSubscription

variable {s : RepoSubscription}

/-- A subscription to images can be stored; the other kinds always can. -/
def Storable (s : RepoSubscription) : Prop := ∀ i ∈ s.image, i.Storable

theorem toNode_eq (s : RepoSubscription) : s.toNode = .mapping (present
    [("image", s.image.map ImageSubscription.toNode), ("git", s.git.map GitSubscription.toNode),
      ("chart", s.chart.map ChartSubscription.toNode)]) := by
  simp [toNode]

/-- A subscription of any kind is restored. -/
theorem restores (h : s.Storable) : Restores read toNode s where
  read_eq := by
    rw [toNode_eq, read]
    refine bind_record_present rfl (by decide) fun f hf => ?_
    obtain ⟨himage, hgit, hchart, -⟩ := hf
    simp only [Fields.optional_eq (fun i hi => ImageSubscription.restores (h i hi)) himage,
      Fields.optional_eq (fun g _ => GitSubscription.restores g) hgit,
      Fields.optional_eq (fun c _ => ChartSubscription.restores c) hchart,
      Option.bind_eq_bind, Option.bind_some]
    rfl
  isNull_eq := rfl

end RepoSubscription

/-! ### Warehouses -/

/-- The generation is a signed number of 64 bits. -/
def ObjectMeta.Storable (m : ObjectMeta) : Prop := IsSigned m.generation

theorem ObjectMeta.restores {m : ObjectMeta} (h : m.Storable) : Restores read toNode m where
  read_eq := by
    have hnode : m.toNode = .mapping (present [("namespace", some (.text m.ns)),
        ("name", some (.text m.name)), ("generation", some (.integer m.generation))]) := rfl
    rw [hnode, read]
    refine bind_record_present rfl (by decide) fun f hf => ?_
    rw [Fields.required_eq (restores_text _) hf.1, Fields.required_eq (restores_text _) hf.2.1,
      Fields.orDefault_eq (restores_signed h) hf.2.2.1]
    rfl
  isNull_eq := rfl

namespace Warehouse

/-- All subscriptions can be stored. -/
def Spec.Storable (s : Spec) : Prop := ∀ r ∈ s.subscriptions, r.Storable

theorem Spec.restores {s : Spec} (h : s.Storable) : Restores read toNode s where
  read_eq := by
    have hnode : s.toNode = .mapping (present
        [("subscriptions", some (.array (s.subscriptions.map RepoSubscription.toNode)))]) := rfl
    rw [hnode, read]
    refine bind_record_present rfl (by decide) fun f hf => ?_
    rw [Fields.orDefault_eq (restores_list fun r hr => RepoSubscription.restores (h r hr)) hf.1]
    rfl
  isNull_eq := rfl

/-- The generation is a signed number of 64 bits, and the results of the pass can be stored. -/
structure Status.Storable (s : Status) : Prop where
  observedGeneration : IsSigned s.observedGeneration
  discoveredArtifacts : ∀ a ∈ s.discoveredArtifacts, a.Storable

theorem Status.toNode_eq (s : Status) : s.toNode = .mapping (present
    [("observedGeneration", some (.integer s.observedGeneration)),
      ("discoveredArtifacts", s.discoveredArtifacts.map Artifacts.toNode)]) := by
  simp [toNode]

theorem Status.restores {s : Status} (h : s.Storable) : Restores read toNode s where
  read_eq := by
    rw [toNode_eq, read]
    refine bind_record_present rfl (by decide) fun f hf => ?_
    rw [Fields.orDefault_eq (restores_signed h.observedGeneration) hf.1,
      Fields.optional_eq (fun a ha => Artifacts.restores (h.discoveredArtifacts a ha)) hf.2.1]
    rfl
  isNull_eq := rfl

/-- The name, the subscriptions and the status can be stored. -/
structure Storable (w : Warehouse) : Prop where
  metadata : w.metadata.Storable
  spec : w.spec.Storable
  status : w.status.Storable

/-- A warehouse is restored. -/
theorem restores {w : Warehouse} (h : w.Storable) : Restores read toNode w where
  read_eq := by
    have hnode : w.toNode = .mapping (present [("metadata", some w.metadata.toNode),
        ("spec", some w.spec.toNode), ("status", some w.status.toNode)]) := rfl
    rw [hnode, read]
    refine bind_record_present rfl (by decide) fun f hf => ?_
    rw [Fields.required_eq (ObjectMeta.restores h.metadata) hf.1,
      Fields.orDefault_eq (Spec.restores h.spec) hf.2.1,
      Fields.orDefault_eq (Status.restores h.status) hf.2.2.1]
    rfl
  isNull_eq := rfl

/-- The warehouse with the results of a pass can be stored if the warehouse and the results can. -/
theorem storable_recording {w : Warehouse} {a : Artifacts} (h : w.Storable) (ha : a.Storable) :
    (w.recording a).Storable :=
  ⟨h.metadata, h.spec, h.metadata, by rintro _ ⟨⟩; exact ha⟩

end Warehouse

end ImageDiscovery
