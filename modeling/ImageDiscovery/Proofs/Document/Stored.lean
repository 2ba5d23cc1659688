import ImageDiscovery.Proofs.Warehouse.Stored
import ImageDiscovery.Credentials.Store
import ImageDiscovery.Retention

/-!
# Stored documents

Beside warehouses, the program reads and writes freight, retention policies, entries of credentials
and descriptors of content. An entry of credentials is the only record whose fields stand beside
those of another one in the same mapping; each of the two is read from its own fields.

A warehouse that was stored with the results of a pass is the one that the next pass starts from: it
has the same generations, subscriptions, references, flags and metadata.

## Main definitions

* `Descriptor.Storable`, `Freight.Storable` — what can be stored.

## Main results

* `Descriptor.restores`, `RetentionPolicy.restores`, `CredentialEntry.restores`,
  `Freight.restores` — documents of each kind are restored.
* `read_toNode_of_storable` — every document is read as it was written.
-/

namespace ImageDiscovery

open Document Time

/-! ### Descriptors -/

theorem Platform.restores (p : Platform) : Restores read toNode p where
  read_eq := by
    have hnode : p.toNode = .mapping (present [("os", some (.text p.os)),
        ("architecture", some (.text p.architecture)), ("variant", p.variant.map .text)]) := by
      simp [toNode]
    rw [hnode, read]
    refine bind_record_present rfl (by decide) fun f hf => ?_
    rw [Fields.required_eq (restores_text _) hf.1, Fields.required_eq (restores_text _) hf.2.1,
      Fields.optional_eq (fun s _ => restores_text s) hf.2.2.1]
    rfl
  isNull_eq := rfl

namespace Descriptor

variable {d : Descriptor}

/-- The size of the content is a machine word. -/
def Storable (d : Descriptor) : Prop := d.size ≤ Text.wordMax

theorem toNode_eq (d : Descriptor) : d.toNode = .mapping (present
    [("mediaType", some (.text d.mediaType)), ("digest", some (.text d.digest)),
      ("size", some (.integer d.size)), ("platform", d.platform.map Platform.toNode),
      ("annotations",
        if d.annotations.isEmpty then none else some (Annotations.toNode d.annotations))]) := by
  simp [toNode, Annotations.field?]

theorem restores (h : d.Storable) : Restores read toNode d where
  read_eq := by
    rw [toNode_eq, read]
    refine bind_record_present rfl (by decide) fun f hf => ?_
    obtain ⟨htype, hdigest, hsize, hplatform, hannotations, -⟩ := hf
    simp only [Fields.orDefault_eq (restores_text _) htype,
      Fields.required_eq (restores_text _) hdigest, Fields.orDefault_eq (restores_unsigned h) hsize,
      Fields.optional_eq (fun p _ => Platform.restores p) hplatform,
      Fields.orDefault_eq_of_skip (restores_annotations _) Dictionary.eq_empty_of_isEmpty
        hannotations,
      Option.bind_eq_bind, Option.bind_some]
    rfl
  isNull_eq := rfl

end Descriptor

/-! ### Policies and credentials -/

theorem RetentionPolicy.restores (p : RetentionPolicy) : Restores read toNode p where
  read_eq := by
    have hnode : p.toNode = .mapping (present [("enabled", some (.bool p.enabled)),
        ("strategies", p.strategies.map fun ss => .array (ss.map SelectionStrategy.toNode))]) := by
      simp [toNode]
    rw [hnode, read]
    refine bind_record_present rfl (by decide) fun f hf => ?_
    rw [Fields.orDefault_eq (restores_bool _) hf.1,
      Fields.optional_eq
        (fun ss _ => restores_list fun s _ => SelectionStrategy.restores s) hf.2.1]
    rfl
  isNull_eq := rfl

theorem restores_typed (s : String) : Restores Node.readTyped .text s := ⟨rfl, rfl⟩

theorem CredentialType.restores (t : CredentialType) :
    Restores read (fun t => .text t.name) t :=
  restores_name (by cases t <;> decide)

namespace CredentialEntry

/-- All fields of an entry, with those of the credentials after its own. -/
def fields (e : CredentialEntry) : List (String × Option Node) :=
  [("namespace", some (.text e.ns)), ("type", some (.text e.type.name)),
    ("repoURL", e.repoUrl.map .text), ("repoURLPattern", e.repoUrlPattern.map .text),
    ("username", some (.text e.credentials.username)),
    ("password", some (.text e.credentials.password))]

theorem toNode_eq (e : CredentialEntry) : e.toNode = .mapping (present e.fields) := by
  simp [toNode, fields, Credentials.fields]

theorem nodup_keys_fields (e : CredentialEntry) : (e.fields.map (·.1)).Nodup := by
  change ["namespace", "type", "repoURL", "repoURLPattern", "username", "password"].Nodup
  decide

/-- The credentials are read from the last two fields. -/
theorem readCredentials_toNode (e : CredentialEntry) :
    readCredentials e.toNode = some e.credentials := by
  rw [toNode_eq, readCredentials]
  refine bind_record_present_of_subset rfl e.nodup_keys_fields (List.drop_subset 4 _) rfl
    fun f hf => ?_
  rw [Fields.required_eq (restores_typed _) hf.1, Fields.required_eq (restores_typed _) hf.2.1]
  rfl

theorem fieldsReadable_toNode (e : CredentialEntry) : e.toNode.fieldsReadable = true := by
  rw [toNode_eq]
  cases hrepo : e.repoUrl <;> cases hpattern : e.repoUrlPattern <;>
    simp [fields, hrepo, hpattern, Node.fieldsReadable, Node.maxDepth, Node.isReadable,
      Node.allEntriesReadable]

theorem restores (e : CredentialEntry) : Restores read toNode e where
  read_eq := by
    have hcredentials := e.readCredentials_toNode
    have hreadable := e.fieldsReadable_toNode
    rw [toNode_eq] at hcredentials hreadable ⊢
    rw [read]
    refine bind_record_present_of_subset rfl e.nodup_keys_fields (List.take_subset 4 _) rfl
      fun f hf => ?_
    obtain ⟨hns, htype, hrepo, hpattern, -⟩ := hf
    simp only [hreadable, hcredentials, Fields.required_eq (restores_text _) hns,
      Fields.required_eq (CredentialType.restores _) htype,
      Fields.optional_eq (fun s _ => restores_text s) hrepo,
      Fields.optional_eq (fun s _ => restores_text s) hpattern,
      Option.bind_eq_bind, Option.bind_some]
    rfl
  isNull_eq := rfl

end CredentialEntry

/-! ### Freight -/

namespace Freight

theorem Origin.restores (o : Origin) : Restores read toNode o where
  read_eq := by
    have hnode : o.toNode = .mapping (present
        [("kind", some (.text kindName)), ("name", some (.text o.name))]) := rfl
    rw [hnode, read]
    refine bind_record_present rfl (by decide) fun f hf => ?_
    have hkind : Restores (Node.readName [(kindName, ())]) (fun _ => .text kindName) () :=
      restores_name rfl
    rw [Fields.orDefault_eq hkind hf.1, Fields.required_eq (restores_text _) hf.2.1]
    rfl
  isNull_eq := rfl

theorem Image.restores (i : Image) : Restores read toNode i where
  read_eq := by
    have hnode : i.toNode = .mapping (present [("repoURL", some (.text i.repoUrl)),
        ("tag", some (.text i.tag)),
        ("digest", if i.digest.isEmpty then none else some (.text i.digest))]) := by
      simp [toNode]
    rw [hnode, read]
    refine bind_record_present rfl (by decide) fun f hf => ?_
    rw [Fields.required_eq (restores_text _) hf.1, Fields.orDefault_eq (restores_text _) hf.2.1,
      Fields.orDefault_eq_of_skip (restores_text _) String.isEmpty_iff.1 hf.2.2.1]
    rfl
  isNull_eq := rfl

/-- The time since when the stage holds the freight is a point in time. -/
def Stage.Storable (s : Stage) : Prop := ∀ t ∈ s.since, t.IsInstant

theorem Stage.restores {s : Stage} (h : s.Storable) : Restores read toNode s where
  read_eq := by
    have hnode : s.toNode = .mapping (present [("since", s.since.map timestampNode)]) := by
      simp [toNode]
    rw [hnode, read]
    refine bind_record_present rfl (by decide) fun f hf => ?_
    rw [Fields.optional_eq (fun t ht => restores_timestamp (h t ht)) hf.1]
    rfl
  isNull_eq := rfl

theorem Status.restores {s : Status} (h : ∀ e ∈ s.currentlyIn.entries, e.2.Storable) :
    Restores read toNode s where
  read_eq := by
    have hnode : s.toNode = .mapping (present [("currentlyIn",
        if s.currentlyIn.isEmpty then none
        else some (.mapping (s.currentlyIn.map Stage.toNode).entries))]) := by
      simp [toNode]
    rw [hnode, read]
    refine bind_record_present rfl (by decide) fun f hf => ?_
    rw [Fields.orDefault_eq_of_skip (restores_dictionary fun e he => Stage.restores (h e he))
      Dictionary.eq_empty_of_isEmpty hf.1]
    rfl
  isNull_eq := rfl

/-- The generation is a signed number of 64 bits, and the stages can be stored. -/
structure Storable (f : Freight) : Prop where
  metadata : f.metadata.Storable
  stages : ∀ e ∈ f.status.currentlyIn.entries, e.2.Storable

theorem toNode_eq (f : Freight) : f.toNode = .mapping (present
    [("metadata", some f.metadata.toNode), ("origin", some f.origin.toNode),
      ("images", if f.images.isEmpty then none else some (.array (f.images.map Image.toNode))),
      ("status", some f.status.toNode)]) := by
  simp [toNode]

theorem restores {f : Freight} (h : f.Storable) : Restores read toNode f where
  read_eq := by
    rw [toNode_eq, read]
    refine bind_record_present rfl (by decide) fun f hf => ?_
    obtain ⟨hmetadata, horigin, himages, hstatus, -⟩ := hf
    simp only [Fields.required_eq (ObjectMeta.restores h.metadata) hmetadata,
      Fields.orDefault_eq (Origin.restores _) horigin,
      Fields.orDefault_eq_of_skip (restores_list fun i _ => Image.restores i) List.isEmpty_iff.1
        himages,
      Fields.orDefault_eq (Status.restores h.stages) hstatus,
      Option.bind_eq_bind, Option.bind_some]
    rfl
  isNull_eq := rfl

end Freight

/-- **Every document is read as it was written**: that of a warehouse, also with the results of a
pass in its status, of freight, of a retention policy, of an entry of credentials and of a
descriptor. -/
theorem read_toNode_of_storable :
    (∀ w : Warehouse, w.Storable → Warehouse.read w.toNode = some w) ∧
    (∀ (w : Warehouse) (a : Artifacts), w.Storable → a.Storable →
      Warehouse.read (w.recording a).toNode = some (w.recording a)) ∧
    (∀ f : Freight, f.Storable → Freight.read f.toNode = some f) ∧
    (∀ p : RetentionPolicy, RetentionPolicy.read p.toNode = some p) ∧
    (∀ e : CredentialEntry, CredentialEntry.read e.toNode = some e) ∧
    ∀ d : Descriptor, d.Storable → Descriptor.read d.toNode = some d :=
  ⟨fun _ hw => (Warehouse.restores hw).read_eq,
    fun _ _ hw ha => (Warehouse.restores (Warehouse.storable_recording hw ha)).read_eq,
    fun _ hf => (Freight.restores hf).read_eq, fun p => (RetentionPolicy.restores p).read_eq,
    fun e => (CredentialEntry.restores e).read_eq, fun _ hd => (Descriptor.restores hd).read_eq⟩

/-- A warehouse in its largest generation, with a subscription to images and one to code. -/
def Warehouse.followed : Warehouse :=
  ⟨⟨"team", "web", 9223372036854775807⟩,
    ⟨[.ofImage (.ofRepo "registry/web"), .ofGit "code/web"]⟩, .initial⟩

/-- The results of a pass in the last second of 2016, which was a leap second: one reference is kept
for its use in active freight, and of the image of the other one the time is known. -/
def Artifacts.newYear : Artifacts :=
  ⟨some ⟨1483228799, 1500000000⟩, [⟨"registry/web", none,
    [.retained "v1", { ImageReference.bare "v2" with createdAt := some ⟨1483228800, 0⟩ }]⟩]⟩

theorem Warehouse.storable_followed : Warehouse.followed.Storable where
  metadata := ⟨by decide, by decide⟩
  spec r hr := by
    rcases List.mem_pair.1 hr with rfl | rfl
    · rintro i ⟨⟩
      change 20 ≤ 18446744073709551615
      decide
    · exact nofun
  status := ⟨⟨by decide, by decide⟩, nofun⟩

theorem Artifacts.storable_newYear : Artifacts.newYear.Storable where
  discoveredAt := by
    rintro t ⟨⟩
    exact ⟨by decide, by decide, by decide⟩
  images r hr x hx t ht := by
    obtain rfl := List.mem_singleton.1 hr
    rcases List.mem_pair.1 hx with rfl | rfl
    · cases ht
    · cases ht
      exact ⟨by decide, by decide, by decide⟩

theorem read_toNode_of_storable_newYear :
    (Warehouse.followed.Storable ∧ Artifacts.newYear.Storable) ∧
    Warehouse.read (Warehouse.followed.recording .newYear).toNode =
      some (Warehouse.followed.recording .newYear) :=
  ⟨⟨Warehouse.storable_followed, Artifacts.storable_newYear⟩,
    read_toNode_of_storable.2.1 _ _ Warehouse.storable_followed Artifacts.storable_newYear⟩

end ImageDiscovery
