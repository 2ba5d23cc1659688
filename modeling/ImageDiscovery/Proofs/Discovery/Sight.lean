import Mathlib.Data.List.Basic
import ImageDiscovery.Pattern.Reader
import ImageDiscovery.Proofs.Discovery.Finding

/-!
# What a pass can see

A pass is made for a warehouse with its recorded results. If it asks for the active freight, it does
not look at these results at all. Otherwise it sees of each of them the repository and the
references that were kept, in their order, and nothing of the discovered references, the platforms
and the time of the pass; nor does it see the index of freight. Two warehouses that look alike to
their passes get the same passes, as computations: the same calls to the collaborators in the same
order, and the same outcome.

## Main definitions

* `Warehouse.keptRecords` — what a pass can see in the recorded results.

## Main results

* `RetentionPolicy.retain_cached_congr` — only kept references are kept again.
* `Warehouse.kept_previousReferences` — the lookup by repository sees no more than the kept records.
* `Collaborators.discoverImages_eq_of_alike` — warehouses that look alike get the same passes.
-/

namespace ImageDiscovery

open Time Document

/-- What is kept again depends on the flagged references of the pass before, and on their order. -/
theorem RetentionPolicy.retain_cached_congr {previous previous' : List ImageReference}
    (h : previous.filter (·.fromActiveFreight) = previous'.filter (·.fromActiveFreight))
    (p : RetentionPolicy) (s : ImageSubscription) (admits : String → Bool)
    (discovered : List ImageReference) :
    p.retain s admits discovered (.cached previous) =
      p.retain s admits discovered (.cached previous') := by
  have hflagged (wanted : String → Bool) (rs : List ImageReference) :
      rs.filter (fun r => r.fromActiveFreight && wanted r.tag) =
        (rs.filter (·.fromActiveFreight)).filter (wanted ·.tag) := by
    rw [List.filter_filter]
    simp only [Bool.and_comm]
  have hadditions (wanted : String → Bool) : additions s.repoUrl wanted (.cached previous) =
      additions s.repoUrl wanted (.cached previous') := by
    simp only [additions, fromPrevious, hflagged, h]
  simp only [retain, hadditions]

namespace Warehouse

variable {w w' : Warehouse}

/-- The repositories of the recorded results, each with the references that were kept for it. -/
def keptRecords (w : Warehouse) : List (String × List ImageReference) :=
  w.previousResults.map fun r => (r.repoUrl, r.retained)

/-- The kept references of the recorded result for a repository are those of its first record. -/
theorem kept_previousReferences (w : Warehouse) (repoUrl : String) :
    (w.previousReferences repoUrl).filter (·.fromActiveFreight) =
      ((w.keptRecords.find? (·.1 == repoUrl)).map (·.2)).getD [] := by
  have hfind : w.keptRecords.find? (·.1 == repoUrl) =
      (w.previousResult? repoUrl).map fun r => (r.repoUrl, r.retained) := by
    rw [keptRecords, List.find?_map]
    rfl
  rw [hfind, previousReferences]
  cases w.previousResult? repoUrl with
  | none => rfl
  | some r => rfl

theorem imageSubscriptions_congr (h : w'.spec = w.spec) :
    w'.imageSubscriptions = w.imageSubscriptions := by
  rw [imageSubscriptions, imageSubscriptions, h]

end Warehouse

/-- Without the active freight at hand, a result depends on the kept records. -/
theorem Finding.result_none_congr {w w' : Warehouse} (h : w'.keptRecords = w.keptRecords)
    (policy : RetentionPolicy) : Finding.result policy w' none = Finding.result policy w none := by
  funext f
  refine congrArg (ImageResult.mk _ _) (RetentionPolicy.retain_cached_congr ?_ ..)
  rw [Warehouse.kept_previousReferences, Warehouse.kept_previousReferences, h]

namespace Collaborators

variable {m : Type → Type} [Monad m] [LawfulMonad m] (c : Collaborators m)
  (policy : RetentionPolicy) {w w' : Warehouse}

/-- A pass that asks for the active freight takes all that it keeps from there. -/
theorem discoverImages_of_fresh (hw : w.needsFreshActivity = true)
    (hs : w.imageSubscriptions ≠ []) : c.discoverImages policy w = (do
      let freight ← (c.activity w.metadata.ns w.metadata.name).adapt
        (.activityQuery w.metadata.ns w.metadata.name)
      List.map (Finding.result policy w (some freight)) <$>
        c.findings w.metadata.ns w.imageSubscriptions) := by
  obtain ⟨s, ss, hss⟩ := List.exists_cons_of_ne_nil hs
  simp only [discoverImages, hss, activeFreight, hw, if_true, bind_assoc, pure_bind,
    discoverAll_eq]

/-- A pass that does not ask for it takes what it keeps from the pass before. -/
theorem discoverImages_of_not_fresh (hw : w.needsFreshActivity = false) :
    c.discoverImages policy w = List.map (Finding.result policy w none) <$>
      c.findings w.metadata.ns w.imageSubscriptions := by
  rw [discoverImages_eq, questions_of_not_fresh c hw, Functor.map_map]

omit [LawfulMonad m] in
theorem discoverImages_of_no_subscription (hs : w.imageSubscriptions = []) :
    c.discoverImages policy w = pure [] := by
  simp only [discoverImages, hs]

theorem discoverImages_congr_of_fresh (hmeta : w'.metadata = w.metadata)
    (hspec : w'.spec = w.spec) (hw : w.needsFreshActivity = true)
    (hw' : w'.needsFreshActivity = true) :
    c.discoverImages policy w' = c.discoverImages policy w := by
  have hsubscriptions := Warehouse.imageSubscriptions_congr hspec
  by_cases hs : w.imageSubscriptions = []
  · rw [c.discoverImages_of_no_subscription policy hs,
      c.discoverImages_of_no_subscription policy (hsubscriptions.trans hs)]
  · rw [c.discoverImages_of_fresh policy hw hs,
      c.discoverImages_of_fresh policy hw' (hsubscriptions ▸ hs), hmeta, hsubscriptions]
    -- With the active freight at hand, a result does not look at the warehouse.
    rfl

theorem discoverImages_congr_of_not_fresh (hmeta : w'.metadata = w.metadata)
    (hspec : w'.spec = w.spec) (hw : w.needsFreshActivity = false)
    (hw' : w'.needsFreshActivity = false) (hkept : w'.keptRecords = w.keptRecords)
    (activity : String → String → ExceptT String m (List Freight)) :
    ({ c with activity := activity } : Collaborators m).discoverImages policy w' =
      c.discoverImages policy w := by
  rw [discoverImages_of_not_fresh _ policy hw', c.discoverImages_of_not_fresh policy hw,
    findings_with_activity, Finding.result_none_congr hkept, hmeta,
    Warehouse.imageSubscriptions_congr hspec]

/-- **Warehouses that look alike get the same passes.** For two warehouses with the same metadata
and subscriptions, the passes are the same computation, in any monad and so also where each call is
noted: if both ask for the active freight, whatever is recorded; and if neither does, where the same
was kept for the same repositories, whatever else is recorded and whatever the index of freight
would answer. -/
theorem discoverImages_eq_of_alike (hmeta : w'.metadata = w.metadata) (hspec : w'.spec = w.spec) :
    (w.needsFreshActivity = true → w'.needsFreshActivity = true →
      c.discoverImages policy w' = c.discoverImages policy w) ∧
    (w.needsFreshActivity = false → w'.needsFreshActivity = false →
      w'.keptRecords = w.keptRecords → ∀ activity,
        ({ c with activity := activity } : Collaborators m).discoverImages policy w' =
          c.discoverImages policy w) :=
  ⟨c.discoverImages_congr_of_fresh policy hmeta hspec,
    c.discoverImages_congr_of_not_fresh policy hmeta hspec⟩

/-- One repository is followed twice. A warehouse without a recorded pass looks like one with a pass
for an earlier generation, and two warehouses look alike if they differ in what was discovered, the
platforms and the time; for the latter, the index of freight need not answer. -/
theorem discoverImages_eq_of_alike_ignoring :
    let w : Warehouse := .ignoring [["v1"], ["v0"]]
    let c : Collaborators (StateM Unit) := listing (fun _ => ["v2"]) [.deployed]
    let silent : Collaborators (StateM Unit) := { c with activity := fun _ _ => throw "no index" }
    let stale : Warehouse := { w with status := ⟨0, some ⟨none,
      [⟨"registry/web", none, [.retained "v7"]⟩]⟩⟩ }
    let early : Warehouse := { w with status := ⟨1, some ⟨some ⟨0, 0⟩,
      [⟨"registry/web", none, [.bare "v1", .retained "v0"]⟩]⟩⟩ }
    let late : Warehouse := { w with status := ⟨1, some ⟨none,
      [⟨"registry/web", some "linux/arm64", [.retained "v0", .bare "v2", .bare "v3"]⟩]⟩⟩ }
    w.needsFreshActivity = true ∧ stale.needsFreshActivity = true ∧
      c.discoverImages .all stale = c.discoverImages .all w ∧
      early.needsFreshActivity = false ∧ late.needsFreshActivity = false ∧
      late.keptRecords = early.keptRecords ∧
      silent.discoverImages .all late = c.discoverImages .all early := by
  intro w c silent stale early late
  have hstale : stale.needsFreshActivity = true := by decide
  have hearly : early.needsFreshActivity = false := by decide
  have hlate : late.needsFreshActivity = false := by decide
  have hkept : late.keptRecords = early.keptRecords := rfl
  have hbefore : stale.metadata = w.metadata ∧ stale.spec = w.spec := ⟨rfl, rfl⟩
  have hafter : late.metadata = early.metadata ∧ late.spec = early.spec := ⟨rfl, rfl⟩
  refine ⟨rfl, hstale, ?_, hearly, hlate, hkept, ?_⟩
  · exact (c.discoverImages_eq_of_alike .all hbefore.1 hbefore.2).1 rfl hstale
  · exact (c.discoverImages_eq_of_alike .all hafter.1 hafter.2).2 hearly hlate hkept _

end Collaborators

end ImageDiscovery
