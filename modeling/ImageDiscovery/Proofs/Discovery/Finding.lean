import Mathlib.Data.List.Nodup
import ImageDiscovery.Proofs.Retention.Kept
import ImageDiscovery.Proofs.Selection.Unflagged

/-!
# What a pass asks and what it makes of the answers

A discovery pass is divided into the questions that it asks its collaborators and a computation on
the answers that has no effects. The questions depend on the warehouse by its name, its
subscriptions and whether the active freight has to be asked for, and not on what was recorded
before; the answers for one subscription are a *finding*.

## Main definitions

* `Finding` — what a pass learns for one subscription.
* `Collaborators.findings`, `Collaborators.questions` — what a pass asks.
* `Finding.result` — the result of one subscription.

## Main results

* `Collaborators.discoverImages_eq` — a pass is its questions and then the results of the findings.
* `Collaborators.yields_discover_iff` — what a successful pass yields.
-/

namespace ImageDiscovery

open Time Document

/-- What a pass learns for one subscription. -/
structure Finding where
  subscription : ImageSubscription
  /-- The tag qualifies. -/
  admits : String → Bool
  /-- The references that are found. -/
  discovered : List ImageReference

namespace Finding

/-- Where the tags in use of the repository are taken from. -/
def source (w : Warehouse) (active : Option (List Freight)) (f : Finding) : RetentionSource :=
  Collaborators.retentionSource w active f.subscription.repoUrl

/-- What is kept beside the discovered references, by tag. -/
def kept (policy : RetentionPolicy) (w : Warehouse) (active : Option (List Freight))
    (f : Finding) : Dictionary ImageReference :=
  policy.kept f.subscription f.admits f.discovered (f.source w active)

/-- The result of one subscription. -/
def result (policy : RetentionPolicy) (w : Warehouse) (active : Option (List Freight))
    (f : Finding) : ImageResult :=
  ⟨f.subscription.repoUrl, f.subscription.platform,
    policy.retain f.subscription f.admits f.discovered (f.source w active)⟩

theorem references_result (policy : RetentionPolicy) (w : Warehouse)
    (active : Option (List Freight)) (f : Finding) : (f.result policy w active).references =
      f.discovered ++ (f.kept policy w active).entries.map (·.2) :=
  policy.retain_eq ..

end Finding

/-! ### Recorded passes -/

namespace Warehouse

variable (w : Warehouse) (a : Artifacts)

/-- The pass after a recorded one does not ask for the active freight. -/
@[simp] theorem needsFreshActivity_recording : (w.recording a).needsFreshActivity = false := by
  simp [needsFreshActivity, recording, Status.record]

theorem previousReferences_eq_of_find? {w : Warehouse} {repoUrl : String} {r : ImageResult}
    (h : w.previousResults.find? (·.repoUrl == repoUrl) = some r) :
    w.previousReferences repoUrl = r.references := by
  rw [previousReferences, previousResult?, h]

/-- The new warehouse `team/web` that follows `registry/web` once for each list of ignored tags, and
discovers one tag each time. -/
def ignoring (ignored : List (List String)) : Warehouse :=
  let follow (tags : List String) : ImageSubscription :=
    { ImageSubscription.ofRepo "registry/web" with
      strategy := .lexical, ignoreTags := tags, discoveryLimit := 1 }
  ⟨⟨"team", "web", 1⟩, ⟨ignored.map fun tags => ⟨some (follow tags), none, none⟩⟩, .initial⟩

end Warehouse

namespace Collaborators

section

variable {m : Type → Type} [Monad m]

/-- What is asked for one subscription. -/
def finding (c : Collaborators m) (ns : String) (s : ImageSubscription) :
    ExceptT DiscoveryError m Finding := do
  let credentials ← (c.credentials ns .image s.repoUrl).adapt (.credentialLookup s.repoUrl)
  let selection ← (c.selection s credentials).adapt (.selectorConstruction s.repoUrl)
  let discovered ← selection.select.adapt (.registry s.repoUrl)
  return ⟨s, selection.admits, discovered⟩

/-- What is asked for subscriptions, in order. -/
def findings (c : Collaborators m) (ns : String) :
    List ImageSubscription → ExceptT DiscoveryError m (List Finding)
  | [] => pure []
  | s :: ss => do
    let f ← c.finding ns s
    return f :: (← c.findings ns ss)

/-- What a pass asks: for the active freight if it has to, and then for each subscription. -/
def questions (c : Collaborators m) (w : Warehouse) :
    ExceptT DiscoveryError m (Option (List Freight) × List Finding) :=
  match w.imageSubscriptions with
  | [] => pure (none, [])
  | s :: ss => do
    let active ← c.activeFreight w
    return (active, ← c.findings w.metadata.ns (s :: ss))

variable [LawfulMonad m]

theorem discoverImage_eq (c : Collaborators m) (policy : RetentionPolicy) (w : Warehouse)
    (active : Option (List Freight)) (s : ImageSubscription) :
    c.discoverImage policy w active s =
      Finding.result policy w active <$> c.finding w.metadata.ns s := by
  simp only [discoverImage, finding, map_bind, map_pure, Finding.result, Finding.source]

theorem discoverAll_eq (c : Collaborators m) (policy : RetentionPolicy) (w : Warehouse)
    (active : Option (List Freight)) (ss : List ImageSubscription) :
    c.discoverAll policy w active ss =
      List.map (Finding.result policy w active) <$> c.findings w.metadata.ns ss := by
  induction ss with
  | nil => simp only [discoverAll, findings, map_pure, List.map_nil]
  | cons s ss ih =>
    simp only [discoverAll, findings, discoverImage_eq, ih, bind_map_left, map_bind, map_pure,
      List.map_cons]

/-- **A pass is its questions and then the results of the findings.** -/
theorem discoverImages_eq (c : Collaborators m) (policy : RetentionPolicy) (w : Warehouse) :
    c.discoverImages policy w =
      (fun q => q.2.map (Finding.result policy w q.1)) <$> c.questions w := by
  cases h : w.imageSubscriptions with
  | nil => simp only [discoverImages, questions, h, map_pure, List.map_nil]
  | cons s ss =>
    simp only [discoverImages, questions, h, discoverAll_eq, map_bind, bind_pure_comp,
      Functor.map_map]

end

/-! ### What successful passes yield -/

variable {σ : Type} {c : Collaborators (StateM σ)} {policy : RetentionPolicy} {w : Warehouse}
  {now : Timestamp} {x y : σ} {a : Artifacts} {active : Option (List Freight)} {fs : List Finding}

/-- A successful pass yields the results of its findings. -/
theorem yields_discover_iff : Yields (c.discover now policy w) x a y ↔
    ∃ active fs, Yields (c.questions w) x (active, fs) y ∧
      a = ⟨some now, fs.map (Finding.result policy w active)⟩ := by
  simp only [discover, discoverImages_eq, bind_pure_comp, yields_map_iff]
  constructor
  · rintro ⟨-, ⟨⟨active, fs⟩, hq, rfl⟩, rfl⟩
    exact ⟨active, fs, hq, rfl⟩
  · rintro ⟨active, fs, hq, rfl⟩
    exact ⟨_, ⟨(active, fs), hq, rfl⟩, rfl⟩

/-- What is found for a subscription is what its selection yields. -/
theorem yields_finding_iff {ns : String} {s : ImageSubscription} {f : Finding} :
    Yields (c.finding ns s) x f y ↔ ∃ credentials selection discovered z₁ z₂,
      Yields (c.credentials ns .image s.repoUrl) x credentials z₁ ∧
        Yields (c.selection s credentials) z₁ selection z₂ ∧
        Yields selection.select z₂ discovered y ∧ f = ⟨s, selection.admits, discovered⟩ := by
  simp only [finding, bind_pure_comp, yields_bind_iff, yields_map_iff, yields_adapt_iff]
  constructor
  · rintro ⟨credentials, z₁, h₁, selection, z₂, h₂, discovered, h₃, rfl⟩
    exact ⟨credentials, selection, discovered, z₁, z₂, h₁, h₂, h₃, rfl⟩
  · rintro ⟨credentials, selection, discovered, z₁, z₂, h₁, h₂, h₃, rfl⟩
    exact ⟨credentials, z₁, h₁, selection, z₂, h₂, discovered, h₃, rfl⟩

theorem yields_findings_cons_iff {ns : String} {s : ImageSubscription}
    {ss : List ImageSubscription} : Yields (c.findings ns (s :: ss)) x fs y ↔
      ∃ f gs z, Yields (c.finding ns s) x f z ∧ Yields (c.findings ns ss) z gs y ∧
        fs = f :: gs := by
  simp only [findings, bind_pure_comp, yields_bind_iff, yields_map_iff]
  constructor
  · rintro ⟨f, z, hf, gs, hgs, rfl⟩
    exact ⟨f, gs, z, hf, hgs, rfl⟩
  · rintro ⟨f, gs, z, hf, hgs, rfl⟩
    exact ⟨f, z, hf, gs, hgs, rfl⟩

/-- The findings of a pass are those of the subscriptions, in order. -/
theorem map_subscription_of_yields {ns : String} {ss : List ImageSubscription}
    (h : Yields (c.findings ns ss) x fs y) : fs.map (·.subscription) = ss := by
  induction ss generalizing x fs with
  | nil =>
    obtain ⟨rfl, -⟩ := yields_pure_iff.1 h
    rfl
  | cons s ss ih =>
    obtain ⟨f, gs, z, hf, hgs, rfl⟩ := yields_findings_cons_iff.1 h
    obtain ⟨-, -, -, -, -, -, -, -, rfl⟩ := yields_finding_iff.1 hf
    rw [List.map_cons, ih hgs]

/-- Where all selections are made for their subscriptions, a finding admits the tags that the
selector of its subscription admits, and does not flag what it discovers. -/
theorem of_yields_finding [PatternEngine] (hc : c.SelectAsSubscribed) {ns : String}
    {s : ImageSubscription} {f : Finding} (h : Yields (c.finding ns s) x f y) : f.subscription = s ∧
      (∃ selector, Selector.ofSubscription s = .ok selector ∧ f.admits = selector.admits) ∧
      ∀ r ∈ f.discovered, r.fromActiveFreight = false := by
  obtain ⟨credentials, selection, discovered, z₁, z₂, -, hs, hd, rfl⟩ := yields_finding_iff.1 h
  have hmade := hc s credentials z₁ selection z₂ hs
  refine ⟨rfl, ?_, hmade.unflagged hd⟩
  obtain ⟨selector, hselector, -, -, -, rfl⟩ := hmade
  exact ⟨selector, hselector, rfl⟩

/-- Each finding is that of one of the subscriptions. -/
theorem exists_yields_finding {ns : String} {ss : List ImageSubscription}
    (h : Yields (c.findings ns ss) x fs y) {f : Finding} (hf : f ∈ fs) :
    ∃ s ∈ ss, ∃ x' y', Yields (c.finding ns s) x' f y' := by
  induction ss generalizing x fs with
  | nil =>
    obtain ⟨rfl, -⟩ := yields_pure_iff.1 h
    cases hf
  | cons s ss ih =>
    obtain ⟨g, gs, z, hg, hgs, rfl⟩ := yields_findings_cons_iff.1 h
    rcases List.mem_cons.1 hf with rfl | hf
    · exact ⟨s, List.mem_cons_self, x, z, hg⟩
    · obtain ⟨t, ht, hrest⟩ := ih hgs hf
      exact ⟨t, List.mem_cons_of_mem _ ht, hrest⟩

theorem of_yields_findings [PatternEngine] (hc : c.SelectAsSubscribed) {ns : String}
    {ss : List ImageSubscription} (h : Yields (c.findings ns ss) x fs y) {f : Finding}
    (hf : f ∈ fs) : f.subscription ∈ ss ∧
      (∃ selector, Selector.ofSubscription f.subscription = .ok selector ∧
        f.admits = selector.admits) ∧ ∀ r ∈ f.discovered, r.fromActiveFreight = false := by
  obtain ⟨s, hs, x', y', h⟩ := exists_yields_finding h hf
  obtain ⟨rfl, hrest⟩ := of_yields_finding hc h
  exact ⟨hs, hrest⟩

/-- Where no selection finds flagged references, neither does a finding. -/
theorem unflagged_of_yields_findings (hc : c.SelectUnflagged) {ns : String}
    {ss : List ImageSubscription} (h : Yields (c.findings ns ss) x fs y) {f : Finding}
    (hf : f ∈ fs) : ∀ r ∈ f.discovered, r.fromActiveFreight = false := by
  obtain ⟨s, -, x', y', h⟩ := exists_yields_finding h hf
  obtain ⟨credentials, selection, discovered, z₁, z₂, -, hs, hd, rfl⟩ := yields_finding_iff.1 h
  exact hc s credentials z₁ selection z₂ hs z₂ discovered y' hd

/-- A pass that asks for the active freight knows what was answered. -/
theorem of_yields_questions_fresh (hw : w.needsFreshActivity = true)
    (hs : w.imageSubscriptions ≠ []) (h : Yields (c.questions w) x (active, fs) y) :
    ∃ freight z, active = some freight ∧
      Yields (c.activity w.metadata.ns w.metadata.name) x freight z ∧
      Yields (c.findings w.metadata.ns w.imageSubscriptions) z fs y := by
  obtain ⟨s, ss, hss⟩ := List.exists_cons_of_ne_nil hs
  simp only [questions, hss, activeFreight, hw, if_true, bind_pure_comp, yields_bind_iff,
    yields_map_iff, yields_adapt_iff] at h
  obtain ⟨-, z, ⟨freight, ha, rfl⟩, fs', hfs, heq⟩ := h
  obtain ⟨rfl, rfl⟩ := Prod.mk.inj heq
  exact ⟨freight, z, rfl, ha, hss ▸ hfs⟩

/-- A pass that does not ask for the active freight asks for its subscriptions only. -/
theorem questions_of_not_fresh {m : Type → Type} [Monad m] [LawfulMonad m] (c : Collaborators m)
    (hw : w.needsFreshActivity = false) :
    c.questions w = (fun fs => (none, fs)) <$> c.findings w.metadata.ns w.imageSubscriptions := by
  cases h : w.imageSubscriptions with
  | nil => simp only [questions, h, findings, map_pure]
  | cons s ss =>
    simp only [questions, h, activeFreight, hw, Bool.false_eq_true, if_false, pure_bind,
      bind_pure_comp]

/-- The findings of a pass are asked for after the active freight. -/
theorem exists_yields_findings (h : Yields (c.questions w) x (active, fs) y) :
    ∃ z, Yields (c.findings w.metadata.ns w.imageSubscriptions) z fs y := by
  unfold questions at h
  split at h
  · next hs =>
    obtain ⟨heq, -⟩ := yields_pure_iff.1 h
    obtain ⟨rfl, rfl⟩ := Prod.mk.inj heq
    exact ⟨y, hs ▸ yields_pure_iff.2 ⟨rfl, rfl⟩⟩
  · next s ss hs =>
    simp only [bind_pure_comp, yields_bind_iff, yields_map_iff] at h
    obtain ⟨active', z, -, fs', hfs, heq⟩ := h
    obtain ⟨rfl, rfl⟩ := Prod.mk.inj heq
    exact ⟨z, hs ▸ hfs⟩

/-- The findings do not depend on the index of freight. -/
theorem findings_with_activity {m : Type → Type} [Monad m] (c : Collaborators m)
    (activity : String → String → ExceptT String m (List Freight)) (ns : String)
    (ss : List ImageSubscription) :
    ({ c with activity := activity } : Collaborators m).findings ns ss = c.findings ns ss := by
  induction ss with
  | nil => rfl
  | cons s ss ih =>
    rw [findings, findings, ih]
    rfl

/-! ### The results of findings -/

variable (policy w active) in
/-- The first result for a repository is that of one of its findings. -/
theorem exists_find?_result {f : Finding} (hf : f ∈ fs) :
    ∃ g ∈ fs, g.subscription.repoUrl = f.subscription.repoUrl ∧
      (fs.map (Finding.result policy w active)).find?
        (·.repoUrl == f.subscription.repoUrl) = some (g.result policy w active) := by
  have hsome : ((fs.map (Finding.result policy w active)).find?
      (·.repoUrl == f.subscription.repoUrl)).isSome :=
    List.find?_isSome.2 ⟨_, List.mem_map_of_mem hf, beq_self_eq_true _⟩
  obtain ⟨r, hr⟩ := Option.isSome_iff_exists.1 hsome
  obtain ⟨g, hg, rfl⟩ := List.mem_map.1 (List.mem_of_find?_eq_some hr)
  have hurl := List.find?_some (p := fun r : ImageResult => r.repoUrl == f.subscription.repoUrl) hr
  exact ⟨g, hg, beq_iff_eq.1 hurl, hr⟩

/-- For different repositories, the recorded references of one of them are those of its finding. -/
theorem previousReferences_recording {now : Timestamp} {w' : Warehouse} {f : Finding}
    (hfs : (fs.map (·.subscription.repoUrl)).Nodup) (hf : f ∈ fs) :
    (w'.recording ⟨some now, fs.map (Finding.result policy w active)⟩).previousReferences
      f.subscription.repoUrl = (f.result policy w active).references := by
  obtain ⟨g, hg, hurl, hfind⟩ := exists_find?_result policy w active hf
  obtain rfl := List.inj_on_of_nodup_map hfs hg hf hurl
  exact Warehouse.previousReferences_eq_of_find? hfind

end Collaborators

end ImageDiscovery
