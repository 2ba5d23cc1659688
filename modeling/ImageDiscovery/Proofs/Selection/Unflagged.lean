import ImageDiscovery.Discovery.Registry
import ImageDiscovery.Proofs.Outcome

/-!
# Selections of subscriptions

Whatever the source of tags answers, and whatever effects its answers have, a selector finds
references that are not flagged: forgetting the flags of what it finds changes nothing. A selection
that is made for a subscription therefore yields no flagged reference.

## Main definitions

* `ImageReference.unflagged` — a reference without its flag.
* `Selection.IsMadeFor` — a selection works by the selector of a subscription.
* `Collaborators.SelectAsSubscribed`, `Collaborators.SelectUnflagged` — all selections are made for
  their subscriptions, or at least find no flagged reference.
* `TagSource.listing`, `Collaborators.listing` — repositories that list the same tags each time.

## Main results

* `Selector.map_unflagged_select` — a selector does not flag references.
* `Selection.IsMadeFor.unflagged` — neither does a selection that is made for a subscription.
* `Collaborators.selectAsSubscribed_ofRegistries`, `Collaborators.selectAsSubscribed_listing` — the
  collaborators that select as subscribed.
-/

namespace ImageDiscovery

/-- A reference without its flag. -/
def ImageReference.unflagged (r : ImageReference) : ImageReference :=
  { r with fromActiveFreight := false }

namespace Selector

variable {m : Type → Type} [Monad m] [LawfulMonad m]

private theorem bind_of_map_eq {α β : Type} {c : m α} {f : α → α} (h : f <$> c = c)
    (g : α → m β) : (c >>= fun a => g (f a)) = c >>= g := by
  rw [← bind_map_left, h]

theorem map_unflagged_enrich (source : TagSource m) (platform : Option Platform) (n : Nat)
    (tags : List String) : List.map ImageReference.unflagged <$> enrich source platform n tags =
      enrich source platform n tags := by
  induction tags generalizing n with
  | nil => cases n <;> rw [enrich, map_pure, List.map_nil]
  | cons t ts ih =>
    cases n with
    | zero => rw [enrich, map_pure, List.map_nil]
    | succ n =>
      rw [enrich, map_bind]
      congr 1
      funext image
      cases image with
      | none => exact ih (n + 1)
      | some image =>
        -- Only the reference at the head is new, and it has no flag.
        simp only [map_bind, map_pure, List.map_cons]
        exact bind_of_map_eq (ih n) fun rs => pure (image.reference t :: rs)

theorem map_unflagged_enrichAll (source : TagSource m) (platform : Option Platform)
    (tags : List String) : List.map ImageReference.unflagged <$> enrichAll source platform tags =
      enrichAll source platform tags := by
  induction tags with
  | nil => rw [enrichAll, map_pure, List.map_nil]
  | cons t ts ih =>
    rw [enrichAll, map_bind]
    congr 1
    funext image
    cases image with
    | none => exact ih
    | some image =>
      simp only [map_bind, map_pure, List.map_cons]
      exact bind_of_map_eq ih fun rs => pure (image.reference t :: rs)

theorem map_unflagged_rankBuilds (rs : List ImageReference) :
    (rankBuilds rs).map ImageReference.unflagged = rankBuilds (rs.map ImageReference.unflagged) :=
  List.map_mergeSort fun _ _ _ _ => rfl

variable [PatternEngine]

/-- **A selector does not flag references.** -/
theorem map_unflagged_select (s : Selector) (source : TagSource m) :
    List.map ImageReference.unflagged <$> s.select source = s.select source := by
  unfold select
  split
  · rw [map_bind]
    simp only [map_unflagged_enrich]
  · rw [map_bind]
    simp only [map_unflagged_enrich]
  · rw [map_bind]
    congr 1
    funext tags
    simp only [map_bind, map_pure, List.map_take, map_unflagged_rankBuilds]
    exact bind_of_map_eq (map_unflagged_enrichAll ..) fun rs => pure ((rankBuilds rs).take s.limit)
  · next name _ =>
    cases s.filter.passes name with
    | true => exact map_unflagged_enrich ..
    | false => exact map_pure ..

theorem map_unflagged_selection {τ : Type} (s : Selector) (source : TagSource (StateT τ m))
    (start : τ) : List.map ImageReference.unflagged <$> (s.selection source start).select =
      (s.selection source start).select := by
  have h := congrArg (fun c => (·.1) <$> c.run.run start) (s.map_unflagged_select source)
  simp only [ExceptT.run_map, StateT.run_map, Functor.map_map] at h
  refine ExceptT.ext ?_
  simpa only [selection, ExceptT.run_map, ExceptT.run_mk, bind_pure_comp, Functor.map_map] using h

end Selector

variable {σ : Type} [PatternEngine]

/-- The selection works by the selector of the subscription, from some source. -/
def Selection.IsMadeFor {m : Type → Type} [Monad m] (x : Selection m) (s : ImageSubscription) :
    Prop :=
  ∃ selector, Selector.ofSubscription s = .ok selector ∧
    ∃ (τ : Type) (source : TagSource (StateT τ m)) (start : τ), x = selector.selection source start

/-- All selections are made for their subscriptions. -/
def Collaborators.SelectAsSubscribed (c : Collaborators (StateM σ)) : Prop :=
  ∀ s credentials x selection y, Yields (c.selection s credentials) x selection y →
    selection.IsMadeFor s

/-- A selection that is made for a subscription does not flag references. -/
theorem Selection.IsMadeFor.unflagged {selection : Selection (StateM σ)} {s : ImageSubscription}
    (h : selection.IsMadeFor s) {x y : σ} {rs : List ImageReference}
    (hy : Yields selection.select x rs y) : ∀ r ∈ rs, r.fromActiveFreight = false := by
  obtain ⟨selector, -, τ, source, start, rfl⟩ := h
  rw [← selector.map_unflagged_selection, yields_map_iff] at hy
  obtain ⟨rs, -, rfl⟩ := hy
  intro r hr
  obtain ⟨r, -, rfl⟩ := List.mem_map.1 hr
  rfl

/-- No selection finds flagged references. -/
def Collaborators.SelectUnflagged (c : Collaborators (StateM σ)) : Prop :=
  ∀ s credentials x selection y, Yields (c.selection s credentials) x selection y →
    ∀ x rs y, Yields selection.select x rs y → ∀ r ∈ rs, r.fromActiveFreight = false

theorem Collaborators.SelectAsSubscribed.selectUnflagged {c : Collaborators (StateM σ)}
    (hc : c.SelectAsSubscribed) : c.SelectUnflagged :=
  fun s credentials x selection y h _ _ _ hy => (hc s credentials x selection y h).unflagged hy

/-- Registries are asked as subscribed. -/
theorem Collaborators.selectAsSubscribed_ofRegistries (options : ClientOptions)
    (transport : Http.Transport (StateM σ)) (store : CredentialStore) (index : FreightIndex) :
    (ofRegistries options transport store index).SelectAsSubscribed := by
  intro s credentials x selection y h
  have hok : registrySelection options transport s credentials = .ok selection :=
    (Prod.mk.inj h).1
  cases hr : Repository.ofString s.repoUrl with
  | error fault => simp [registrySelection, hr, bind, Except.bind] at hok
  | ok repository =>
    simp only [registrySelection, hr, bind, Except.bind] at hok
    cases hc : RegistryClient.make ⟨repository, .ofCredentials credentials, options⟩ transport with
    | error fault => simp only [hc, reduceCtorEq] at hok
    | ok client =>
      cases hs : Selector.ofSubscription s with
      | error fault => simp only [hc, hs, reduceCtorEq] at hok
      | ok selector =>
        simp only [hc, hs, pure, Except.pure, Except.ok.injEq] at hok
        exact ⟨selector, hs, _, client.source, none, hok.symm⟩

/-! ### Repositories that list the same tags each time -/

section

variable {m : Type → Type} [Monad m]

/-- The image of a tag, of which the digest is known. -/
def ImageMetadata.listed (tag : String) : ImageMetadata := ⟨"sha256:" ++ tag, none, .empty⟩

/-- The reference to a tag of whose image the digest is known. -/
def ImageReference.listed (tag : String) : ImageReference :=
  (ImageMetadata.listed tag).reference tag

/-- A source that lists the tags, each with an image. -/
def TagSource.listing (tags : List String) : TagSource m where
  listTags := pure tags
  metadata tag _ := pure (some (.listed tag))

/-- Collaborators that know the active freight, where each repository lists its tags. -/
def Collaborators.listing (tags : String → List String) (freight : List Freight) :
    Collaborators m where
  credentials _ _ _ := pure none
  activity _ _ := pure freight
  selection s _ := ExceptT.mk (pure ((Selector.ofSubscription s).map fun selector =>
    selector.selection (.listing (tags s.repoUrl)) ()))

end

theorem Collaborators.selectAsSubscribed_listing (tags : String → List String)
    (freight : List Freight) :
    (listing tags freight : Collaborators (StateM σ)).SelectAsSubscribed := by
  intro s credentials x selection y h
  have hok : (Selector.ofSubscription s).map (fun selector =>
      selector.selection (TagSource.listing (tags s.repoUrl)) ()) = .ok selection :=
    (Prod.mk.inj h).1
  cases hs : Selector.ofSubscription s with
  | error fault => simp only [hs, Except.map, reduceCtorEq] at hok
  | ok selector =>
    simp only [hs, Except.map, Except.ok.injEq] at hok
    exact ⟨selector, hs, _, _, _, hok.symm⟩

end ImageDiscovery
