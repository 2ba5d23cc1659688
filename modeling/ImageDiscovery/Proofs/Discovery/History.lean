import Mathlib.Data.List.Basic
import ImageDiscovery.Pattern.Reader
import ImageDiscovery.Proofs.Discovery.Yard
import ImageDiscovery.Proofs.Selection.Ranked

/-!
# What a flagged reference stands for

A warehouse has a history of revisions and of recorded passes. The passes may ask different
collaborators, about which nothing is known but that their selections find no flagged references, so
that active freight and registries may change in any way between two passes. A pass that reuses what
the pass before kept looks it up by the repository alone, and the subscription may have changed
since; still each reference that it keeps was justified by the active freight that the latest query
answered with.

## Main definitions

* `Warehouse.History` — the histories of a warehouse, with the answers of the activity queries.
* `ImageResult.Covered` — the flagged references of a result are in use by the latest answer.
* `Finding.Justifies` — what a finding says of the result that is recorded for it.

## Main results

* `Warehouse.History.covered` — the invariant of a history.
* `Warehouse.History.justifies` — no pass of a history keeps a reference without a reason.
* `Yard.Run.history` — each run of a yard is a history of its warehouse.
-/

namespace ImageDiscovery

open Time

namespace Warehouse

/-- The warehouse has a history of revisions and recorded passes, in which the queries for active
freight had these answers, the latest one first. No pass was made before the history. -/
inductive History (policy : RetentionPolicy) : Warehouse → List (List Freight) → Prop
  | start (w : Warehouse) (h : w.status.discoveredArtifacts = none) : History policy w []
  /-- The warehouse is revised. -/
  | revise {w : Warehouse} {answers : List (List Freight)} (h : History policy w answers)
    (spec : Warehouse.Spec) (generation : Int) : History policy (w.revised spec generation) answers
  /-- A pass is made and recorded, and the answer to its query, if it makes one, is kept. -/
  | pass {w : Warehouse} {answers : List (List Freight)} (h : History policy w answers) {σ : Type}
    (c : Collaborators (StateM σ)) (now : Timestamp) (before after : σ)
    (active : Option (List Freight)) (fs : List Finding) (a : Artifacts) (hc : c.SelectUnflagged)
    (hq : Yields (c.questions w) before (active, fs) after)
    (ha : Yields (c.discover now policy w) before a after) :
    History policy (w.recording a) (active.toList ++ answers)

end Warehouse

/-- The flagged references of the result have names and are in use by the freight of the latest
answer. -/
def ImageResult.Covered (answers : List (List Freight)) (r : ImageResult) : Prop :=
  ∀ x ∈ r.references, x.fromActiveFreight = true →
    x.tag ≠ "" ∧ ∃ freight ∈ answers.head?, InUse freight r.repoUrl x.tag

/-- The result has the references that were discovered, none of them flagged, and after them flagged
ones in ascending order of their tags. A flagged one is admitted, its tag was not discovered, and
the freight of the latest answer has it in an image of the repository. -/
structure Finding.Justifies (answers : List (List Freight)) (f : Finding) (r : ImageResult) :
    Prop where
  repoUrl_eq : r.repoUrl = f.subscription.repoUrl
  platform_eq : r.platform = f.subscription.platform
  unflagged : ∀ x ∈ f.discovered, x.fromActiveFreight = false
  covered : r.Covered answers
  exists_kept : ∃ kept, r.references = f.discovered ++ kept ∧
    kept.Pairwise (fun x y => x.tag < y.tag) ∧
    ∀ x ∈ kept, x.fromActiveFreight = true ∧ f.admits x.tag = true ∧
      x.tag ∉ f.discovered.map (·.tag)

namespace Warehouse

variable {policy : RetentionPolicy} {w : Warehouse} {answers : List (List Freight)} {σ : Type}
  {c : Collaborators (StateM σ)} {now : Timestamp} {before after : σ}
  {active : Option (List Freight)} {fs : List Finding} {a : Artifacts} {f : Finding}

/-! ### One pass -/

/-- What the recorded results have for a tag stands in one of them for the repository. -/
theorem exists_mem_previousResults {repoUrl : String} {x : ImageReference}
    (h : x ∈ w.previousReferences repoUrl) :
    ∃ r ∈ w.previousResults, r.repoUrl = repoUrl ∧ x ∈ r.references := by
  unfold previousReferences previousResult? at h
  split at h
  · next r hr =>
    have hurl := List.find?_some (p := fun r : ImageResult => r.repoUrl == repoUrl) hr
    exact ⟨r, List.mem_of_find?_eq_some hr, beq_iff_eq.1 hurl, h⟩
  · exact absurd h List.not_mem_nil

/-- A reference for a tag in use comes from the latest answer, at once or by way of the recorded
results. -/
theorem inUse_of_reference? (hw : ∀ r ∈ w.previousResults, r.Covered answers)
    {repoUrl tag : String} {x : ImageReference}
    (h : (Collaborators.retentionSource w active repoUrl).reference? repoUrl tag = some x) :
    tag ≠ "" ∧ ∃ freight ∈ (active.toList ++ answers).head?, InUse freight repoUrl tag := by
  cases active with
  | some freight =>
    obtain ⟨-, hne, huse⟩ := RetentionSource.reference?_fresh_eq_some_iff.1 h
    exact ⟨hne, freight, rfl, huse⟩
  | none =>
    have hfind : (w.previousReferences repoUrl).find? (·.isFlagged tag) = some x := h
    have hflag := ImageReference.isFlagged_iff.1
      (List.find?_some (p := fun x : ImageReference => x.isFlagged tag) hfind)
    obtain ⟨r, hr, rfl, hx⟩ := exists_mem_previousResults (List.mem_of_find?_eq_some hfind)
    obtain ⟨hflagged, rfl⟩ := hflag
    exact hw r hr x hx hflagged

/-- The result of a finding keeps no reference without a reason. -/
theorem justifies_result (hw : ∀ r ∈ w.previousResults, r.Covered answers)
    (hf : ∀ x ∈ f.discovered, x.fromActiveFreight = false) :
    f.Justifies (active.toList ++ answers) (f.result policy w active) := by
  have hkept {x : ImageReference} (hx : x ∈ (f.kept policy w active).entries.map (·.2)) :
      (f.source w active).reference? f.subscription.repoUrl x.tag = some x ∧
        x.fromActiveFreight = true ∧ f.admits x.tag = true ∧
        x.tag ∉ f.discovered.map (·.tag) := by
    have hfind := RetentionPolicy.mem_values_kept.1 hx
    obtain ⟨hflag, hadmits, hnew⟩ := RetentionPolicy.of_find?_kept hfind
    exact ⟨(RetentionPolicy.find?_kept.1 hfind).2.1, (ImageReference.isFlagged_iff.1 hflag).1,
      hadmits, hnew⟩
  refine ⟨rfl, rfl, hf, ?_, _, f.references_result policy w active, ?_, fun x hx => (hkept hx).2⟩
  · intro x hx hflagged
    rw [Finding.references_result, List.mem_append] at hx
    rcases hx with hx | hx
    · exact absurd ((hf x hx).symm.trans hflagged) Bool.false_ne_true
    · exact inUse_of_reference? hw (hkept hx).1
  · exact RetentionPolicy.pairwise_kept

/-- The results of a pass keep no reference without a reason. -/
theorem justifies_of_mem (hw : ∀ r ∈ w.previousResults, r.Covered answers)
    (hc : c.SelectUnflagged) (hq : Yields (c.questions w) before (active, fs) after) (hf : f ∈ fs) :
    f.Justifies (active.toList ++ answers) (f.result policy w active) := by
  obtain ⟨x, hfs⟩ := Collaborators.exists_yields_findings hq
  exact justifies_result hw (Collaborators.unflagged_of_yields_findings hc hfs hf)

/-! ### Histories -/

theorem eq_of_yields_discover (hq : Yields (c.questions w) before (active, fs) after)
    (ha : Yields (c.discover now policy w) before a after) :
    a = ⟨some now, fs.map (Finding.result policy w active)⟩ := by
  obtain ⟨active', fs', hq', rfl⟩ := Collaborators.yields_discover_iff.1 ha
  obtain ⟨rfl, rfl⟩ := Prod.mk.inj (hq'.unique hq).1
  rfl

/-- **The invariant of a history.** The flagged references that are recorded are in use by the
freight of the latest answer. -/
theorem History.covered (h : History policy w answers) :
    ∀ r ∈ w.previousResults, r.Covered answers := by
  induction h with
  | start w h =>
    intro r hr
    rw [previousResults, h] at hr
    exact absurd hr List.not_mem_nil
  | revise h spec generation ih => exact ih
  | pass h c now before after active fs a hc hq ha ih =>
    obtain rfl := eq_of_yields_discover hq ha
    intro r hr
    obtain ⟨f, hf, rfl⟩ := List.mem_map.1 hr
    exact (justifies_of_mem ih hc hq hf).covered

/-- **No pass keeps a reference without a reason.** -/
theorem History.justifies [PatternEngine] (h : History policy w answers) (hc : c.SelectUnflagged)
    (ha : Yields (c.discover now policy w) before a after) :
    ∃ active fs, Yields (c.questions w) before (active, fs) after ∧
      fs.map (·.subscription) = w.imageSubscriptions ∧
      List.Forall₂ (Finding.Justifies (active.toList ++ answers)) fs a.images ∧
      (c.SelectAsSubscribed → ∀ f ∈ fs, ∃ selector,
        Selector.ofSubscription f.subscription = .ok selector ∧ f.admits = selector.admits) := by
  obtain ⟨active, fs, hq, rfl⟩ := Collaborators.yields_discover_iff.1 ha
  obtain ⟨x, hfs⟩ := Collaborators.exists_yields_findings hq
  refine ⟨active, fs, hq, Collaborators.map_subscription_of_yields hfs, ?_, fun hc f hf => ?_⟩
  · exact List.forall₂_map_right_iff.2 (List.forall₂_same.2 fun f hf =>
      justifies_of_mem h.covered hc hq hf)
  · exact (Collaborators.of_yields_findings hc hfs hf).2.1

/-! ### A pass that reuses what was kept -/

/-- The second pass reuses `v0` and `v1`, which the first one kept for `Freight.deployed`. -/
theorem History.justifies_reused :
    let results : Artifacts :=
      ⟨some ⟨0, 0⟩, [⟨"registry/web", none, .listed "v2" :: ["v0", "v1"].map .retained⟩]⟩
    let w := (Warehouse.ignoring [[]]).recording results
    History .all w [[.deployed]] ∧
      ∃ active fs, Yields ((Collaborators.listing (fun _ => ["v2"]) []).questions w) ()
          (active, fs) () ∧
        List.Forall₂ (Finding.Justifies (active.toList ++ [[.deployed]])) fs results.images := by
  intro results w
  let admits : String → Bool := (Selector.mk ⟨none, []⟩ none 1 .lexical).admits
  let s : ImageSubscription :=
    { ImageSubscription.ofRepo "registry/web" with strategy := .lexical, discoveryLimit := 1 }
  have hunflagged (freight : List Freight) :
      (Collaborators.listing (m := StateM Unit) (fun _ => ["v2"]) freight).SelectUnflagged :=
    (Collaborators.selectAsSubscribed_listing _ freight).selectUnflagged
  have hq : Yields ((Collaborators.listing (fun _ => ["v2"]) [.deployed]).questions
      (Warehouse.ignoring [[]])) () (some [.deployed], [⟨s, admits, [.listed "v2"]⟩]) () := by
    simp only [Collaborators.listing, Selector.selection, Selector.select,
      Selector.rankTexts_eq_insertionSort]
    rfl
  have hw : History .all w [[.deployed]] :=
    (History.start (Warehouse.ignoring [[]]) rfl).pass (.listing (fun _ => ["v2"]) [.deployed])
      ⟨0, 0⟩ () () _ _ results (hunflagged _) hq (by decide +kernel)
  have ha : Yields ((Collaborators.listing (fun _ => ["v2"]) []).discover ⟨0, 0⟩ .all w) ()
      results () := by decide +kernel
  obtain ⟨active, fs, hq, -, hall, -⟩ := hw.justifies (hunflagged []) ha
  exact ⟨hw, active, fs, hq, hall⟩

end Warehouse

/-! ### Yards -/

/-- Each run of a yard is a history of its warehouse, in which the index of freight answers. -/
theorem Yard.Run.history [PatternEngine] {policy : RetentionPolicy} {x : Yard} {past : List Yard}
    (h : Yard.Run policy x past) : ∃ answers, x.warehouse.History policy answers := by
  induction h with
  | start w fs h => exact ⟨[], .start w h⟩
  | @step x y past h hxy ih =>
    obtain ⟨answers, hx⟩ := ih
    cases hxy with
    | insert f => exact ⟨answers, hx⟩
    | remove id => exact ⟨answers, hx⟩
    | revise spec generation => exact ⟨answers, hx.revise spec generation⟩
    | pass c now before after a hc ha =>
      obtain ⟨active, fs, hq, -⟩ := Collaborators.yields_discover_iff.1 ha
      have hc' : (c.consulting x.index).SelectUnflagged :=
        Collaborators.SelectAsSubscribed.selectUnflagged hc
      exact ⟨_, hx.pass _ now before after active fs a hc' hq ha⟩

end ImageDiscovery
