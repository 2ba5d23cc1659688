import ImageDiscovery.Proofs.Discovery.Finding
import ImageDiscovery.Proofs.Freight.Index

/-!
# Runs of a yard

A yard is a warehouse with the index of freight that its passes ask. In a step of the yard, freight
comes into the index or leaves it, the warehouse is revised, or a pass is made and recorded. Nothing
is known about what registries answer to a pass, only that each selection is made for its
subscription. A run is a state with the list of the states before it, the latest one first.

## Main definitions

* `Yard`, `Yard.Step` — the states and the steps.
* `Yard.Run` — the runs, from a yard in which no pass was made.
* `Warehouse.Lists`, `Warehouse.Finds`, `Warehouse.Flags` — what a recorded result says of a tag.

## Main results

* `Yard.step_ofRegistries` — a pass over real repositories is a step.
* `Yard.Run.consistent` — the index is consistent in each state of a run.
* `Yard.exists_previousReferences_recording` — the recorded result of a subscription after a pass.
-/

namespace ImageDiscovery

open Time

/-! ### Yards -/

/-- A warehouse with the index of freight. -/
structure Yard where
  warehouse : Warehouse
  index : FreightIndex

/-- A pass was made. -/
def Yard.Recorded (x : Yard) : Prop := x.warehouse.status.discoveredArtifacts.isSome = true

instance (x : Yard) : Decidable x.Recorded := inferInstanceAs (Decidable (_ = true))

/-- The collaborators with an index of freight to ask. -/
def Collaborators.consulting {m : Type → Type} [Monad m] (c : Collaborators m)
    (index : FreightIndex) : Collaborators m :=
  { c with activity := fun ns warehouse => pure (index.active ns warehouse) }

/-- The warehouse with other subscriptions, in another generation. -/
def Warehouse.revised (w : Warehouse) (spec : Warehouse.Spec) (generation : Int) : Warehouse :=
  { w with spec := spec, metadata := { w.metadata with generation := generation } }

namespace Yard

variable [PatternEngine]

/-- What can happen in a yard. -/
inductive Step (policy : RetentionPolicy) (x : Yard) : Yard → Prop
  /-- Freight comes into the index, in place of any other with its identifier. -/
  | insert (f : Freight) : Step policy x ⟨x.warehouse, x.index.insert f⟩
  /-- Freight leaves the index. -/
  | remove (id : FreightId) : Step policy x ⟨x.warehouse, x.index.remove id⟩
  /-- The warehouse is revised. -/
  | revise (spec : Warehouse.Spec) (generation : Int) :
    Step policy x ⟨x.warehouse.revised spec generation, x.index⟩
  /-- A pass is made and recorded, in a world that answers as it likes. -/
  | pass {σ : Type} (c : Collaborators (StateM σ)) (now : Timestamp) (before after : σ)
    (a : Artifacts) (hc : c.SelectAsSubscribed)
    (h : Yields ((c.consulting x.index).discover now policy x.warehouse) before a after) :
    Step policy x ⟨x.warehouse.recording a, x.index⟩

/-- The yard is in a state after others, the latest of these first; no pass was made before the
first state. -/
inductive Run (policy : RetentionPolicy) : Yard → List Yard → Prop
  | start (w : Warehouse) (fs : List Freight) (h : w.status.discoveredArtifacts = none) :
    Run policy ⟨w, .ofList fs⟩ []
  | step {x y : Yard} {past : List Yard} (h : Run policy x past) (hxy : x.Step policy y) :
    Run policy y (x :: past)

variable {policy : RetentionPolicy} {x y : Yard} {past : List Yard}

/-- A step keeps the index consistent. -/
theorem Step.consistent (h : x.Step policy y) (hx : x.index.Consistent) : y.index.Consistent := by
  cases h with
  | insert f => exact hx.insert f
  | remove id => exact hx.remove id
  | revise spec generation => exact hx
  | pass c now before after a hc h => exact hx

/-- A pass over the repositories of registries is a step, whatever the registries answer. -/
theorem step_ofRegistries {σ : Type} (options : ClientOptions)
    (transport : Http.Transport (StateM σ)) (store : CredentialStore) {now : Timestamp}
    {before after : σ} {a : Artifacts} (h : Yields ((Collaborators.ofRegistries options transport
      store x.index).discover now policy x.warehouse) before a after) :
    x.Step policy ⟨x.warehouse.recording a, x.index⟩ :=
  .pass _ now before after a
    (Collaborators.selectAsSubscribed_ofRegistries options transport store x.index) h

/-- The index is consistent in each state of a run. -/
theorem Run.consistent (h : Run policy x past) : x.index.Consistent := by
  induction h with
  | start w fs h => exact FreightIndex.consistent_ofList fs
  | step h hxy ih => exact hxy.consistent ih

end Yard

/-! ### What is recorded of a tag -/

namespace Warehouse

variable (w : Warehouse) (repoUrl tag : String)

/-- The recorded result for the repository has the tag. -/
def Lists : Prop := tag ∈ (w.previousReferences repoUrl).map (·.tag)

/-- The recorded result for the repository has the tag as one that was discovered. -/
def Finds : Prop := ∃ r ∈ w.previousReferences repoUrl, r.fromActiveFreight = false ∧ r.tag = tag

/-- The recorded result for the repository has the tag as one that was kept. -/
def Flags : Prop := ((w.previousReferences repoUrl).find? (·.isFlagged tag)).isSome = true

instance : Decidable (w.Lists repoUrl tag) := inferInstanceAs (Decidable (_ ∈ _))

instance : Decidable (w.Finds repoUrl tag) := inferInstanceAs (Decidable (∃ _ ∈ _, _))

instance : Decidable (w.Flags repoUrl tag) := inferInstanceAs (Decidable (_ = true))

variable {w repoUrl tag}

theorem lists_iff : w.Lists repoUrl tag ↔ w.Finds repoUrl tag ∨ w.Flags repoUrl tag := by
  simp only [Lists, Finds, Flags, List.mem_map, List.find?_isSome, ImageReference.isFlagged_iff]
  constructor
  · rintro ⟨r, hr, rfl⟩
    cases hflag : r.fromActiveFreight with
    | false => exact .inl ⟨r, hr, hflag, rfl⟩
    | true => exact .inr ⟨r, hr, hflag, rfl⟩
  · rintro (⟨r, hr, -, rfl⟩ | ⟨r, hr, -, rfl⟩)
    · exact ⟨r, hr, rfl⟩
    · exact ⟨r, hr, rfl⟩

theorem previousReferences_congr {w' : Warehouse} (h : w'.status = w.status) (repoUrl : String) :
    w'.previousReferences repoUrl = w.previousReferences repoUrl := by
  simp only [previousReferences, previousResult?, previousResults, h]

theorem not_finds_of_not_recorded (h : w.status.discoveredArtifacts = none) :
    ¬ w.Finds repoUrl tag := by
  rintro ⟨r, hr, -, -⟩
  simp [previousReferences, previousResult?, previousResults, h] at hr

section

variable {policy : RetentionPolicy} {s : ImageSubscription} {admits : String → Bool}
  {discovered : List ImageReference} {source : RetentionSource}
  (h : w.previousReferences repoUrl = policy.retain s admits discovered source)
  (hd : ∀ r ∈ discovered, r.fromActiveFreight = false)

include h hd

theorem finds_iff_of_retain : w.Finds repoUrl tag ↔ tag ∈ discovered.map (·.tag) := by
  simp only [Finds, h, RetentionPolicy.mem_retain, List.mem_map]
  constructor
  · rintro ⟨r, hr | hk, hflag, rfl⟩
    · exact ⟨r, hr, rfl⟩
    · have hkept := (ImageReference.isFlagged_iff.1 (RetentionPolicy.of_find?_kept hk).1).1
      exact absurd (hflag.symm.trans hkept) Bool.false_ne_true
  · rintro ⟨r, hr, rfl⟩
    exact ⟨r, .inl hr, hd r hr, rfl⟩

theorem flags_iff_of_retain : w.Flags repoUrl tag ↔
    policy.appliesTo s.strategy = true ∧ (source.reference? s.repoUrl tag).isSome = true ∧
      admits tag = true ∧ ¬ w.Finds repoUrl tag := by
  rw [finds_iff_of_retain h hd, Flags, h, RetentionPolicy.find?_isFlagged_retain_of_unflagged hd]
  simp only [Option.isSome_iff_exists, RetentionPolicy.find?_kept]
  constructor
  · rintro ⟨r, hp, hr, ha, hn⟩
    exact ⟨hp, ⟨r, hr⟩, ha, hn⟩
  · rintro ⟨hp, ⟨r, hr⟩, ha, hn⟩
    exact ⟨r, hp, hr, ha, hn⟩

end

end Warehouse

/-! ### Recorded passes -/

namespace Yard

/-- Where a pass takes the tags in use of a repository from. -/
def source (x : Yard) (repoUrl : String) : RetentionSource :=
  if x.warehouse.needsFreshActivity then
    .fresh (x.index.active x.warehouse.metadata.ns x.warehouse.metadata.name)
  else .cached (x.warehouse.previousReferences repoUrl)

/-- For different repositories, the recorded result of a subscription is what its selector finds
with the kept references. -/
theorem exists_previousReferences_recording [PatternEngine] {policy : RetentionPolicy} {x : Yard}
    {σ : Type} {c : Collaborators (StateM σ)} {now : Timestamp} {before after : σ} {a : Artifacts}
    (hc : c.SelectAsSubscribed)
    (h : Yields ((c.consulting x.index).discover now policy x.warehouse) before a after)
    (hnodup : (x.warehouse.imageSubscriptions.map (·.repoUrl)).Nodup) {s : ImageSubscription}
    (hs : s ∈ x.warehouse.imageSubscriptions) :
    ∃ selector discovered, Selector.ofSubscription s = .ok selector ∧
      (∀ r ∈ discovered, r.fromActiveFreight = false) ∧
      (x.warehouse.recording a).previousReferences s.repoUrl =
        policy.retain s selector.admits discovered (x.source s.repoUrl) := by
  obtain ⟨active, fs, hq, rfl⟩ := Collaborators.yields_discover_iff.1 h
  have hfs : ∃ z, Yields ((c.consulting x.index).findings x.warehouse.metadata.ns
      x.warehouse.imageSubscriptions) z fs after ∧
      Collaborators.retentionSource x.warehouse active s.repoUrl = x.source s.repoUrl := by
    unfold source
    cases hw : x.warehouse.needsFreshActivity with
    | true =>
      obtain ⟨freight, z, rfl, ha, hfs⟩ :=
        Collaborators.of_yields_questions_fresh hw (List.ne_nil_of_mem hs) hq
      obtain ⟨rfl, -⟩ := yields_pure_iff.1 ha
      exact ⟨z, hfs, rfl⟩
    | false =>
      rw [Collaborators.questions_of_not_fresh _ hw] at hq
      obtain ⟨fs, hfs, heq⟩ := yields_map_iff.1 hq
      obtain ⟨rfl, rfl⟩ := Prod.mk.inj heq
      exact ⟨before, hfs, rfl⟩
  obtain ⟨z, hfs, hsource⟩ := hfs
  have hmap := Collaborators.map_subscription_of_yields hfs
  rw [← hmap, List.map_map] at hnodup
  obtain ⟨f, hf, rfl⟩ := List.mem_map.1 (hmap ▸ hs)
  have hc' : (c.consulting x.index).SelectAsSubscribed := hc
  obtain ⟨-, ⟨selector, hselector, hadmits⟩, hd⟩ := Collaborators.of_yields_findings hc' hfs hf
  refine ⟨selector, f.discovered, hselector, hd, ?_⟩
  rw [Collaborators.previousReferences_recording hnodup hf, Finding.result, hadmits, Finding.source,
    hsource]

end Yard

end ImageDiscovery
