import Mathlib.Data.List.Basic
import ImageDiscovery.Pattern.Reader
import ImageDiscovery.Proofs.Discovery.Finding

/-!
# Repeated passes

A pass is made, its results are recorded, and a second pass gets the same answers for each
subscription. The second pass does not ask for the active freight; it takes what was kept for a
subscription from the *first* recorded result for its repository. Where two subscriptions are to one
repository, the second of them is therefore compared with the results of the first: its kept
references are kept again exactly if they stand there too.

## Main definitions

* `Artifacts.KeepsInFirst` — what is kept for a repository is kept in its first result.

## Main results

* `Collaborators.kept_recording_eq_iff` — when the second pass keeps the same for a finding.
* `Collaborators.images_repeated_iff` — when the second pass has the same results.
-/

namespace ImageDiscovery

open Time Document

/-- Each flagged reference of a result is a reference of the first result for the repository. -/
def Artifacts.KeepsInFirst (a : Artifacts) : Prop :=
  ∀ r ∈ a.images, ∀ x ∈ r.references, x.fromActiveFreight = true →
    ∃ first ∈ a.images.find? (·.repoUrl == r.repoUrl), x ∈ first.references

instance (a : Artifacts) : Decidable a.KeepsInFirst :=
  inferInstanceAs (Decidable (∀ r ∈ a.images, ∀ x ∈ r.references, _ → _))

namespace Collaborators

variable {policy : RetentionPolicy} {w : Warehouse} {now : Timestamp}
  {active : Option (List Freight)} {f : Finding} {fs : List Finding}

/-! ### One subscription -/

theorem find?_kept_iff {t : String} {r : ImageReference} :
    (f.kept policy w active).find? t = some r ↔
      policy.appliesTo f.subscription.strategy = true ∧
        (f.source w active).reference? f.subscription.repoUrl t = some r ∧ f.admits t = true ∧
          t ∉ f.discovered.map (·.tag) :=
  RetentionPolicy.find?_kept

/-- The second pass keeps the same for a finding if the first flagged reference to each tag that may
be kept is the same in the first result for the repository as in its own. -/
theorem kept_recording_eq_iff {a : Artifacts} :
    f.kept policy (w.recording a) none = f.kept policy w active ↔
      (policy.appliesTo f.subscription.strategy = true → ∀ t, f.admits t = true →
        t ∉ f.discovered.map (·.tag) →
          ((w.recording a).previousReferences f.subscription.repoUrl).find? (·.isFlagged t) =
            (f.result policy w active).references.find? (·.isFlagged t)) := by
  have hown (t : String) (hd : t ∉ f.discovered.map (·.tag)) :
      (f.result policy w active).references.find? (·.isFlagged t) =
        (f.kept policy w active).find? t := RetentionPolicy.find?_isFlagged_retain_of_not_mem hd
  have hagain (hp : policy.appliesTo f.subscription.strategy = true) (t : String)
      (ha : f.admits t = true) (hd : t ∉ f.discovered.map (·.tag)) :
      (f.kept policy (w.recording a) none).find? t =
        ((w.recording a).previousReferences f.subscription.repoUrl).find? (·.isFlagged t) :=
    Option.ext fun r => by
      rw [find?_kept_iff]
      exact ⟨fun h => h.2.1, fun h => ⟨hp, h, ha, hd⟩⟩
  constructor
  · intro h hp t ha hd
    rw [hown t hd, ← hagain hp t ha hd, h]
  · intro h
    refine Dictionary.ext_find? fun t => ?_
    by_cases hw : policy.appliesTo f.subscription.strategy = true ∧ f.admits t = true ∧
        t ∉ f.discovered.map (·.tag)
    · obtain ⟨hp, ha, hd⟩ := hw
      rw [hagain hp t ha hd, h hp t ha hd, hown t hd]
    · -- Neither pass keeps a tag that is not wanted.
      have hnone (w : Warehouse) (active : Option (List Freight)) :
          (f.kept policy w active).find? t = none := Option.eq_none_iff_forall_ne_some.2 fun r hr =>
        hw ⟨(find?_kept_iff.1 hr).1, (find?_kept_iff.1 hr).2.2⟩
      rw [hnone, hnone]

theorem result_eq_iff {w' : Warehouse} {active' : Option (List Freight)} :
    f.result policy w' active' = f.result policy w active ↔
      f.kept policy w' active' = f.kept policy w active := by
  constructor
  · intro h
    have hrefs := congrArg ImageResult.references h
    rw [Finding.references_result, Finding.references_result, List.append_cancel_left_eq] at hrefs
    refine Dictionary.ext_find? fun t => Option.ext fun r => ?_
    rw [Finding.kept, RetentionPolicy.find?_kept_iff_mem_values, Finding.kept,
      RetentionPolicy.find?_kept_iff_mem_values]
    exact and_congr_right fun _ => hrefs ▸ Iff.rfl
  · intro h
    have hrefs : (f.result policy w' active').references =
        (f.result policy w active).references := by
      rw [Finding.references_result, Finding.references_result, h]
    exact congrArg (ImageResult.mk _ _) hrefs

/-! ### All subscriptions -/

/-- The second pass has the results of the first one if it keeps the same for each finding. -/
theorem map_result_recording_eq_iff {a : Artifacts} :
    fs.map (Finding.result policy (w.recording a) none) = fs.map (Finding.result policy w active) ↔
      ∀ f ∈ fs, f.kept policy (w.recording a) none = f.kept policy w active := by
  rw [List.map_inj_left]
  exact forall₂_congr fun _ _ => result_eq_iff

/-- Findings for different repositories keep the same again. -/
theorem kept_recording_eq_of_nodup (hfs : (fs.map (·.subscription.repoUrl)).Nodup) (hf : f ∈ fs) :
    f.kept policy (w.recording ⟨some now, fs.map (Finding.result policy w active)⟩) none =
      f.kept policy w active := by
  rw [kept_recording_eq_iff]
  intro _ t _ _
  rw [previousReferences_recording hfs hf]

/-- Where no discovered reference is flagged, the flagged references of a result are the kept
ones. -/
theorem mem_references_iff_of_flagged (hd : ∀ r ∈ f.discovered, r.fromActiveFreight = false)
    {x : ImageReference} (hx : x.fromActiveFreight = true) :
    x ∈ (f.result policy w active).references ↔ (f.kept policy w active).find? x.tag = some x := by
  constructor
  · intro h
    rcases RetentionPolicy.mem_retain.1 h with h | h
    · exact absurd ((hd x h).symm.trans hx) Bool.false_ne_true
    · exact h
  · exact fun h => RetentionPolicy.mem_retain.2 (.inr h)

theorem find?_isFlagged_references (hd : ∀ r ∈ f.discovered, r.fromActiveFreight = false)
    (t : String) : (f.result policy w active).references.find? (·.isFlagged t) =
      (f.kept policy w active).find? t :=
  RetentionPolicy.find?_isFlagged_retain_of_unflagged hd t

/-- Where no discovered reference is flagged, the kept references of each finding have to stand in
the first result for its repository. -/
theorem kept_recording_eq_iff_keepsInFirst
    (hfs : ∀ f ∈ fs, ∀ r ∈ f.discovered, r.fromActiveFreight = false) :
    (∀ f ∈ fs, f.kept policy
        (w.recording ⟨some now, fs.map (Finding.result policy w active)⟩) none =
          f.kept policy w active) ↔
      (Artifacts.mk (some now) (fs.map (Finding.result policy w active))).KeepsInFirst := by
  simp only [kept_recording_eq_iff]
  constructor
  · intro h r hr x hx hflag
    obtain ⟨f, hf, rfl⟩ := List.mem_map.1 hr
    obtain ⟨g, hg, -, hfind⟩ := exists_find?_result policy w active hf
    have hkept := (mem_references_iff_of_flagged (hfs f hf) hflag).1 hx
    obtain ⟨hp, -, ha, hd⟩ := find?_kept_iff.1 hkept
    have heq := h f hf hp x.tag ha hd
    rw [Warehouse.previousReferences_eq_of_find? hfind, find?_isFlagged_references (hfs f hf),
      hkept] at heq
    exact ⟨g.result policy w active, hfind, List.mem_of_find?_eq_some heq⟩
  · intro h f hf hp t ha hd
    obtain ⟨g, hg, hurl, hfind⟩ := exists_find?_result policy w active hf
    rw [Warehouse.previousReferences_eq_of_find? hfind, find?_isFlagged_references (hfs f hf),
      find?_isFlagged_references (hfs g hg)]
    cases hk : (f.kept policy w active).find? t with
    | none =>
      -- What the first finding keeps for the tag, this one would have kept too.
      refine Option.eq_none_iff_forall_ne_some.2 fun r hr => ?_
      have hsource : (f.source w active).reference? f.subscription.repoUrl t = some r := by
        rw [Finding.source, ← hurl]
        exact (find?_kept_iff.1 hr).2.1
      rw [find?_kept_iff.2 ⟨hp, hsource, ha, hd⟩] at hk
      cases hk
    | some x =>
      obtain ⟨hflag, rfl⟩ := ImageReference.isFlagged_iff.1 (RetentionPolicy.of_find?_kept hk).1
      have hx := (mem_references_iff_of_flagged (hfs f hf) hflag).2 hk
      obtain ⟨first, hfirst, hmem⟩ := h _ (List.mem_map_of_mem hf) x hx hflag
      obtain rfl := Option.some.inj (hfind.symm.trans hfirst)
      exact (mem_references_iff_of_flagged (hfs g hg) hflag).1 hmem

/-! ### Repeated passes -/

/-- The second pass does not ask for the active freight. -/
theorem discover_recording_with_activity {m : Type → Type} [Monad m] [LawfulMonad m]
    (c : Collaborators m) (activity : String → String → ExceptT String m (List Freight))
    (a : Artifacts) :
    ({ c with activity := activity } : Collaborators m).discover now policy (w.recording a) =
      c.discover now policy (w.recording a) := by
  have hw := w.needsFreshActivity_recording a
  rw [discover, discover, discoverImages_eq, discoverImages_eq, questions_of_not_fresh _ hw,
    questions_of_not_fresh _ hw, findings_with_activity]

/-- The second pass succeeds where each subscription is answered. -/
theorem yields_discover_recording {σ : Type} {c : Collaborators (StateM σ)} {x y : σ}
    {a : Artifacts} (h : Yields (c.findings w.metadata.ns w.imageSubscriptions) x fs y) :
    Yields (c.discover now policy (w.recording a)) x
      ⟨some now, fs.map (Finding.result policy (w.recording a) none)⟩ y := by
  refine yields_discover_iff.2 ⟨none, fs, ?_, rfl⟩
  rw [questions_of_not_fresh c (w.needsFreshActivity_recording a)]
  exact yields_map_iff.2 ⟨fs, h, rfl⟩

/-- **Repeated passes.** Where a second pass gets the same answers for each subscription, it
succeeds without asking for the active freight. It has the same results if and only if each finding
meets, in the first result for its repository, the flagged references of its own result that it may
keep. Where no discovered reference is flagged, these are the flagged references of all results; and
for subscriptions to different repositories the results are always the same. -/
theorem images_repeated_iff {σ σ' : Type} {c : Collaborators (StateM σ)}
    {c' : Collaborators (StateM σ')} {a : Artifacts} {x y : σ} {x' y' : σ'} (now' : Timestamp)
    (h : Yields (c.discover now policy w) x a y)
    (hq : Yields (c.questions w) x (active, fs) y)
    (h' : Yields (c'.findings w.metadata.ns w.imageSubscriptions) x' fs y') :
    (∀ activity, ({ c' with activity := activity } : Collaborators _).discover now' policy
        (w.recording a) = c'.discover now' policy (w.recording a)) ∧
      ∃ b, Yields (c'.discover now' policy (w.recording a)) x' b y' ∧
        (b.images = a.images ↔ ∀ f ∈ fs, policy.appliesTo f.subscription.strategy = true →
          ∀ t, f.admits t = true → t ∉ f.discovered.map (·.tag) →
            ((w.recording a).previousReferences f.subscription.repoUrl).find? (·.isFlagged t) =
              (f.result policy w active).references.find? (·.isFlagged t)) ∧
        ((∀ f ∈ fs, ∀ r ∈ f.discovered, r.fromActiveFreight = false) →
          (b.images = a.images ↔ a.KeepsInFirst)) ∧
        ((w.imageSubscriptions.map (·.repoUrl)).Nodup → b.images = a.images) := by
  obtain ⟨active', fs', hq', rfl⟩ := yields_discover_iff.1 h
  obtain ⟨rfl, rfl⟩ := Prod.mk.inj (hq.unique hq').1
  refine ⟨fun activity => discover_recording_with_activity .., _, yields_discover_recording h',
    ?_, fun hfs => ?_, fun hnodup => ?_⟩
  · rw [map_result_recording_eq_iff]
    exact forall₂_congr fun f _ => kept_recording_eq_iff
  · rw [map_result_recording_eq_iff]
    exact kept_recording_eq_iff_keepsInFirst hfs
  · rw [map_result_recording_eq_iff]
    rw [← map_subscription_of_yields h', List.map_map] at hnodup
    exact fun f hf => kept_recording_eq_of_nodup hnodup hf

/-- One repository is followed twice, the second time without `v0`. All that is kept for the second
subscription is kept for the first one, so that a second pass has the same results. -/
theorem images_repeated_iff_ignoring :
    ∃ a b : Artifacts, ∃ active fs,
      Yields ((listing (fun _ => ["v2"]) [.deployed] : Collaborators (StateM Unit)).discover ⟨0, 0⟩
        .all (.ignoring [[], ["v0"]])) () a () ∧
      Yields ((listing (fun _ => ["v2"]) [.deployed] : Collaborators (StateM Unit)).questions
        (.ignoring [[], ["v0"]])) () (active, fs) () ∧
      Yields ((listing (fun _ => ["v2"]) [.deployed] : Collaborators (StateM Unit)).findings
        "team" (Warehouse.ignoring [[], ["v0"]]).imageSubscriptions) () fs () ∧
      Yields ((listing (fun _ => ["v2"]) [.deployed] : Collaborators (StateM Unit)).discover ⟨1, 0⟩
        .all ((Warehouse.ignoring [[], ["v0"]]).recording a)) () b () ∧ b.images = a.images := by
  let c : Collaborators (StateM Unit) := listing (fun _ => ["v2"]) [.deployed]
  let w : Warehouse := .ignoring [[], ["v0"]]
  let a : Artifacts := ⟨some ⟨0, 0⟩,
    [⟨"registry/web", none, [.listed "v2", .retained "v0", .retained "v1"]⟩,
      ⟨"registry/web", none, [.listed "v2", .retained "v1"]⟩]⟩
  have h : Yields (c.discover ⟨0, 0⟩ .all w) () a () := by
    decide +kernel
  obtain ⟨active, fs, hq, ha⟩ := yields_discover_iff.1 h
  obtain ⟨freight, z, -, -, hfs⟩ := of_yields_questions_fresh rfl (by decide) hq
  obtain ⟨-, b, hb, -, hiff, -⟩ := images_repeated_iff ⟨1, 0⟩ h hq hfs
  refine ⟨a, b, active, fs, h, hq, hfs, hb, (hiff ?_).2 (by decide)⟩
  exact fun f hf => (of_yields_findings (selectAsSubscribed_listing _ _) hfs hf).2.2

/-- **A pass is not always repeated.** One repository is followed twice, the second time without
`v0` and the first time without `v1`. What the first pass keeps for the second subscription is lost
in the second pass. -/
theorem exists_images_not_repeated :
    ∃ a b : Artifacts, (Warehouse.ignoring [["v1"], ["v0"]]).fault? = none ∧
      Yields ((listing (fun _ => ["v2"]) [.deployed] : Collaborators (StateM Unit)).discover ⟨0, 0⟩
        .all (.ignoring [["v1"], ["v0"]])) () a () ∧
      Yields ((listing (fun _ => ["v2"]) [.deployed] : Collaborators (StateM Unit)).discover ⟨1, 0⟩
        .all ((Warehouse.ignoring [["v1"], ["v0"]]).recording a)) () b () ∧
      b.images ≠ a.images := by
  refine ⟨⟨some ⟨0, 0⟩, [⟨"registry/web", none, [.listed "v2", .retained "v0"]⟩,
    ⟨"registry/web", none, [.listed "v2", .retained "v1"]⟩]⟩,
    ⟨some ⟨1, 0⟩, [⟨"registry/web", none, [.listed "v2", .retained "v0"]⟩,
      ⟨"registry/web", none, [.listed "v2"]⟩]⟩, ?_, ?_, ?_, ?_⟩
  · rfl
  · decide +kernel
  · decide +kernel
  · decide

end Collaborators

end ImageDiscovery
