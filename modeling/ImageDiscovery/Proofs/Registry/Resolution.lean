import ImageDiscovery.Proofs.Registry.Session

/-!
# Resolving a tag for a platform

A client resolves a tag by three visits at most. The first one is to what the tag names. Where that
is an index and an image for a platform is wanted, the second one is to the first entry of the index
that serves the platform; and where an image was found, the last one is to its configuration. There
is no image for the platform if the index has no entry for it, or if the tag names a single image
whose configuration declares another platform.

## Main definitions

* `Resolution` — the visits by which a tag is resolved.
* `Manifest.ComesTo`, `Visit.ComesTo`, `ImageIndex.ComesTo`, `Resolution.ComesTo` — what a client
  goes on to visit, and what it comes to, step by step.
* `Resolution.Describes`, `Resolution.FindsNothing` — the ways to an image, and the ways to none.
* `Resolves` — where the visits go, and what comes of them.

## Main results

* `Resolution.ComesTo.child_url_iff`, `Resolution.ComesTo.config_url_iff` — what is visited.
* `Resolution.ComesTo.ok_some_iff`, `Resolution.ComesTo.ok_none_iff` — when there is an image.
* `RegistryClient.exists_comesTo_imageMetadata` — a client goes step by step.
* `RegistryClient.exists_resolves_imageMetadata` — a client resolves a tag.
* `indexedClient_resolves` — an index with an entry for another platform before the one that serves.
-/

namespace ImageDiscovery

open Document Http Net

/-- The visits by which a tag is resolved: the one of what it names, the one of the entry of an
index, and the one of the configuration of an image. -/
structure Resolution where
  tagged : Visit
  child : Option Visit
  config : Option Visit

/-- The visits, in the order in which they are made. -/
def Resolution.visits (t : Resolution) : List Visit :=
  t.tagged :: (t.child.toList ++ t.config.toList)

variable {apiUrl tag digest : String} {platform : Option Platform} {index : ImageIndex}
  {manifest : Manifest} {image : ImageMetadata} {config child : Option Visit} {t : Resolution}
  {r : Except RegistryError (Option ImageMetadata)}

/-! ### Step by step -/

/-- The configuration of a manifest is visited, and the image is described if it serves the wanted
platform. -/
structure Manifest.ComesTo (apiUrl digest : String) (manifest : Manifest)
    (wanted : Option Platform) (v : Visit) (r : Except RegistryError (Option ImageMetadata)) :
    Prop where
  url_eq : v.url = apiUrl ++ "/blobs/" ++ manifest.config.digest
  result_eq : r = v.config.map fun c =>
    if wanted.all c.serves then some (manifest.image digest c) else none

/-- After the visit of an entry of an index, the configuration of the image that it leads to is
visited. The platform of the image has been settled by the index. -/
inductive Visit.ComesTo (apiUrl : String) (v : Visit) :
    Option Visit → Except RegistryError (Option ImageMetadata) → Prop
  | failed {e : RegistryError} (h : v.readAs Content.manifest = .error e) :
      ComesTo apiUrl v none (.error e)
  | missing (h : v.readAs Content.manifest = .ok none) : ComesTo apiUrl v none (.ok none)
  | manifest {digest : String} {manifest : Manifest} {w : Visit}
      {r : Except RegistryError (Option ImageMetadata)}
      (h : v.readAs Content.manifest = .ok (some (digest, manifest)))
      (rest : manifest.ComesTo apiUrl digest none w r) : ComesTo apiUrl v (some w) r

/-- For a platform, the first entry of an index that serves it is visited; without a platform, the
index itself is described. -/
inductive ImageIndex.ComesTo (apiUrl digest : String) (index : ImageIndex) :
    Option Platform → Option Visit → Option Visit →
      Except RegistryError (Option ImageMetadata) → Prop
  | itself : ComesTo apiUrl digest index none none none (.ok (some (index.image digest)))
  | noEntry {p : Platform} (h : index.find? p = none) :
      ComesTo apiUrl digest index (some p) none none (.ok none)
  | entry {p : Platform} {entry : Descriptor} {v : Visit} {config : Option Visit}
      {r : Except RegistryError (Option ImageMetadata)} (h : index.find? p = some entry)
      (url_eq : v.url = apiUrl ++ "/manifests/" ++ entry.digest)
      (rest : v.ComesTo apiUrl config r) :
      ComesTo apiUrl digest index (some p) (some v) config r

/-- After the visit of what the tag names, the index or the manifest that it is leads on. -/
inductive Resolution.ComesTo (apiUrl : String) (wanted : Option Platform) :
    Resolution → Except RegistryError (Option ImageMetadata) → Prop
  | failed {v : Visit} {e : RegistryError} (h : v.readAs Content.document = .error e) :
      ComesTo apiUrl wanted ⟨v, none, none⟩ (.error e)
  | missing {v : Visit} (h : v.readAs Content.document = .ok none) :
      ComesTo apiUrl wanted ⟨v, none, none⟩ (.ok none)
  | index {v : Visit} {digest : String} {index : ImageIndex} {child config : Option Visit}
      {r : Except RegistryError (Option ImageMetadata)}
      (h : v.readAs Content.document = .ok (some (digest, .inl index)))
      (rest : index.ComesTo apiUrl digest wanted child config r) :
      ComesTo apiUrl wanted ⟨v, child, config⟩ r
  | manifest {v : Visit} {digest : String} {manifest : Manifest} {w : Visit}
      {r : Except RegistryError (Option ImageMetadata)}
      (h : v.readAs Content.document = .ok (some (digest, .inr manifest)))
      (rest : manifest.ComesTo apiUrl digest wanted w r) :
      ComesTo apiUrl wanted ⟨v, none, some w⟩ r

/-! ### Images of manifests -/

namespace Manifest.ComesTo

variable {v : Visit} (h : manifest.ComesTo apiUrl digest platform v r)
include h

theorem ok_some_iff : r = .ok (some image) ↔ ∃ c, v.HoldsConfig c ∧
    (∀ p ∈ platform, ∀ q, c.Declares q → q.Meets p) ∧ image = manifest.image digest c := by
  rw [h.result_eq, map_eq_ok_iff]
  refine exists_congr fun c => ?_
  rw [Visit.config_eq_ok_iff, Option.ite_none_right_eq_some, ImageConfig.all_serves_iff,
    Option.some.injEq, eq_comm]

theorem ok_none_iff : r = .ok none ↔ ∃ c, v.HoldsConfig c ∧
    ∃ p q, platform = some p ∧ c.Declares q ∧ ¬ q.Meets p := by
  rw [h.result_eq, map_eq_ok_iff]
  refine exists_congr fun c => ?_
  rw [Visit.config_eq_ok_iff, ← ImageConfig.not_all_serves_iff]
  simp

end Manifest.ComesTo

/-! ### Images of indexes -/

namespace Visit.ComesTo

variable {v : Visit} (h : v.ComesTo apiUrl config r)
include h

theorem config_url_iff (url : String) : url ∈ config.map (·.url) ↔
    ∃ digest manifest, v.HoldsManifest digest manifest ∧
      url = apiUrl ++ "/blobs/" ++ manifest.config.digest := by
  simp only [← Visit.readAs_manifest_eq_ok_iff]
  cases h with
  | failed hv => simp [hv]
  | missing hv => simp [hv]
  | manifest hv rest => simp [hv, rest.url_eq, eq_comm]

theorem ok_some_iff : r = .ok (some image) ↔ ∃ digest manifest w c,
    v.HoldsManifest digest manifest ∧ config = some w ∧ w.HoldsConfig c ∧
      image = manifest.image digest c := by
  simp only [← Visit.readAs_manifest_eq_ok_iff]
  cases h with
  | failed hv => simp [hv]
  | missing hv => simp [hv]
  | manifest hv rest => simp [hv, rest.ok_some_iff]

theorem ok_none_iff : r = .ok none ↔ v.IsMissing := by
  rw [← Visit.readAs_eq_ok_none_iff (f := Content.manifest)]
  cases h with
  | failed hv => simp [hv]
  | missing hv => simp [hv]
  | manifest hv rest => simp [hv, rest.ok_none_iff]

theorem eq_error_of_holdsOther {mediaType : String} (hother : v.HoldsOther mediaType) :
    r = .error (.unsupportedMediaType mediaType) := by
  have hreads := hother.readAs_manifest_eq
  cases h with
  | failed hv => rw [Except.error.inj (hv.symm.trans hreads)]
  | missing hv => exact nomatch hv.symm.trans hreads
  | manifest hv _ => exact nomatch hv.symm.trans hreads

end Visit.ComesTo

namespace ImageIndex.ComesTo

variable (h : index.ComesTo apiUrl digest platform child config r)
include h

theorem child_url_iff (url : String) : url ∈ child.map (·.url) ↔
    ∃ p entry, platform = some p ∧ index.IsFirstFor p entry ∧
      url = apiUrl ++ "/manifests/" ++ entry.digest := by
  simp only [← ImageIndex.find?_eq_some_iff]
  cases h with
  | itself => simp
  | noEntry hentry => simp [hentry]
  | entry hentry hurl _ => simp [hentry, hurl, eq_comm]

theorem config_url_iff (url : String) : url ∈ config.map (·.url) ↔
    ∃ v digest manifest, child = some v ∧ v.HoldsManifest digest manifest ∧
      url = apiUrl ++ "/blobs/" ++ manifest.config.digest := by
  cases h with
  | itself => simp
  | noEntry => simp
  | entry _ _ rest => simp [← rest.config_url_iff]

theorem ok_some_iff : r = .ok (some image) ↔
    (platform = none ∧ image = index.image digest) ∨
      ∃ v digest manifest w c, child = some v ∧ v.HoldsManifest digest manifest ∧
        config = some w ∧ w.HoldsConfig c ∧ image = manifest.image digest c := by
  cases h with
  | itself => simp [eq_comm]
  | noEntry => simp
  | entry _ _ rest => simp [rest.ok_some_iff]

theorem ok_none_iff : r = .ok none ↔
    (∃ p, platform = some p ∧ ∀ d ∈ index.manifests, ¬ d.Serves p) ∨
      ∃ v, child = some v ∧ v.IsMissing := by
  simp only [← ImageIndex.find?_eq_none_iff]
  cases h with
  | itself => simp
  | noEntry hentry => simp [hentry]
  | entry hentry _ rest => simp [hentry, rest.ok_none_iff]

end ImageIndex.ComesTo

/-! ### Images of tags -/

/-- What the image of a tag is: an index itself, where no platform is wanted; the image to which the
entry of an index leads; or the image of a manifest, unless it is for a platform that does not serve
the wanted one. -/
def Resolution.Describes (t : Resolution) (wanted : Option Platform) (image : ImageMetadata) :
    Prop :=
  (∃ digest index, wanted = none ∧ t.tagged.HoldsIndex digest index ∧
    image = index.image digest) ∨
  (∃ v digest manifest w c, t.child = some v ∧ v.HoldsManifest digest manifest ∧
    t.config = some w ∧ w.HoldsConfig c ∧ image = manifest.image digest c) ∨
  ∃ digest manifest w c, t.tagged.HoldsManifest digest manifest ∧ t.config = some w ∧
    w.HoldsConfig c ∧ (∀ p ∈ wanted, ∀ q, c.Declares q → q.Meets p) ∧
    image = manifest.image digest c

/-- Why a tag has no image: the tag is missing; its index has no entry that serves the wanted
platform; the entry is missing; or the image is for a platform that does not serve. -/
def Resolution.FindsNothing (t : Resolution) (wanted : Option Platform) : Prop :=
  t.tagged.IsMissing ∨
  (∃ p digest index, wanted = some p ∧ t.tagged.HoldsIndex digest index ∧
    ∀ d ∈ index.manifests, ¬ d.Serves p) ∨
  (∃ v, t.child = some v ∧ v.IsMissing) ∨
  ∃ digest manifest w c, t.tagged.HoldsManifest digest manifest ∧ t.config = some w ∧
    w.HoldsConfig c ∧ ∃ p q, wanted = some p ∧ c.Declares q ∧ ¬ q.Meets p

namespace Resolution.ComesTo

variable (h : t.ComesTo apiUrl platform r)
include h

theorem child_url_iff (url : String) : url ∈ t.child.map (·.url) ↔
    ∃ p digest index entry, platform = some p ∧ t.tagged.HoldsIndex digest index ∧
      index.IsFirstFor p entry ∧ url = apiUrl ++ "/manifests/" ++ entry.digest := by
  simp only [← Visit.readAs_document_eq_index_iff]
  cases h with
  | failed hv => simp [hv]
  | missing hv => simp [hv]
  | index hv rest => simp [hv, rest.child_url_iff]
  | manifest hv _ => simp [hv]

theorem config_url_iff (url : String) : url ∈ t.config.map (·.url) ↔
    ∃ digest manifest, (t.child.getD t.tagged).HoldsManifest digest manifest ∧
      url = apiUrl ++ "/blobs/" ++ manifest.config.digest := by
  cases h with
  | failed hv => simp [← Visit.readAs_document_eq_manifest_iff, hv]
  | missing hv => simp [← Visit.readAs_document_eq_manifest_iff, hv]
  | @index _ _ _ child _ _ hv rest =>
    rw [rest.config_url_iff]
    -- without an entry it is the index that holds no manifest
    cases child with
    | none => simp [← Visit.readAs_document_eq_manifest_iff, hv]
    | some v => simp
  | manifest hv rest => simp [← Visit.readAs_document_eq_manifest_iff, hv, rest.url_eq, eq_comm]

theorem ok_some_iff : r = .ok (some image) ↔ t.Describes platform image := by
  unfold Describes
  simp only [← Visit.readAs_document_eq_index_iff,
    ← Visit.readAs_document_eq_manifest_iff (v := t.tagged)]
  cases h with
  | failed hv => simp [hv]
  | missing hv => simp [hv]
  | index hv rest => simp [hv, rest.ok_some_iff]
  | manifest hv rest => simp [hv, rest.ok_some_iff]

theorem ok_none_iff : r = .ok none ↔ t.FindsNothing platform := by
  unfold FindsNothing
  simp only [← Visit.readAs_document_eq_index_iff, ← Visit.readAs_document_eq_manifest_iff,
    ← Visit.readAs_eq_ok_none_iff (v := t.tagged) (f := Content.document)]
  cases h with
  | failed hv => simp [hv]
  | missing hv => simp [hv]
  | index hv rest => simp [hv, rest.ok_none_iff]
  | manifest hv rest => simp [hv, rest.ok_none_iff]

theorem eq_error_of_holdsOther {v : Visit} {mediaType : String} (hchild : t.child = some v)
    (hother : v.HoldsOther mediaType) : r = .error (.unsupportedMediaType mediaType) := by
  cases h with
  | failed _ => exact nomatch hchild
  | missing _ => exact nomatch hchild
  | index _ rest =>
    cases rest with
    | itself => exact nomatch hchild
    | noEntry _ => exact nomatch hchild
    | entry _ _ rest =>
      obtain rfl := Option.some.inj hchild
      exact rest.eq_error_of_holdsOther hother
  | manifest _ _ => exact nomatch hchild

end Resolution.ComesTo

section

variable (h : t.ComesTo apiUrl none r)
include h

/-- Where no platform is wanted, an index is its own image. -/
theorem Resolution.ComesTo.visits_eq_of_holdsIndex (hindex : t.tagged.HoldsIndex digest index) :
    t.visits = [t.tagged] ∧ r = .ok (some (index.image digest)) := by
  rw [← Visit.readAs_document_eq_index_iff] at hindex
  cases h with
  | failed hv => exact nomatch hv.symm.trans hindex
  | missing hv => exact nomatch hv.symm.trans hindex
  | index hv rest =>
    cases hv.symm.trans hindex
    cases rest
    exact ⟨rfl, rfl⟩
  | manifest hv _ => exact nomatch hv.symm.trans hindex

/-- Where no platform is wanted, a tag that is there has an image. -/
theorem Resolution.ComesTo.ok_none_iff_isMissing : r = .ok none ↔ t.tagged.IsMissing := by
  rw [← Visit.readAs_eq_ok_none_iff (v := t.tagged) (f := Content.document)]
  cases h with
  | failed hv => simp [hv]
  | missing hv => simp [hv]
  | index hv rest =>
    cases rest
    simp [hv]
  | manifest hv rest => simp [hv, rest.ok_none_iff]

end

/-- Where a client goes in order to resolve a tag, and what it finds. -/
structure Resolves (apiUrl tag : String) (wanted : Option Platform) (t : Resolution)
    (r : Except RegistryError (Option ImageMetadata)) : Prop where
  tagged_url : t.tagged.url = apiUrl ++ "/manifests/" ++ tag
  /-- An entry is visited where a platform is wanted of an index: the first one that serves it. -/
  child_url_iff : ∀ url, url ∈ t.child.map (·.url) ↔
    ∃ p digest index entry, wanted = some p ∧ t.tagged.HoldsIndex digest index ∧
      index.IsFirstFor p entry ∧ url = apiUrl ++ "/manifests/" ++ entry.digest
  /-- A configuration is visited where a manifest was found: the one that the manifest names. -/
  config_url_iff : ∀ url, url ∈ t.config.map (·.url) ↔
    ∃ digest manifest, (t.child.getD t.tagged).HoldsManifest digest manifest ∧
      url = apiUrl ++ "/blobs/" ++ manifest.config.digest
  ok_some_iff : ∀ image, r = .ok (some image) ↔ t.Describes wanted image
  ok_none_iff : r = .ok none ↔ t.FindsNothing wanted
  /-- An entry that is no manifest of an image is an error. -/
  unsupported : ∀ v mediaType, t.child = some v → v.HoldsOther mediaType →
    r = .error (.unsupportedMediaType mediaType)
  /-- Where no platform is wanted, an index is described itself, and no image is refused. -/
  unasked : wanted = none → (r = .ok none ↔ t.tagged.IsMissing) ∧
    ∀ digest index, t.tagged.HoldsIndex digest index →
      t.visits = [t.tagged] ∧ r = .ok (some (index.image digest))

theorem Resolution.ComesTo.resolves (h : t.ComesTo apiUrl platform r)
    (hurl : t.tagged.url = apiUrl ++ "/manifests/" ++ tag) :
    Resolves apiUrl tag platform t r where
  tagged_url := hurl
  child_url_iff := h.child_url_iff
  config_url_iff := h.config_url_iff
  ok_some_iff _ := h.ok_some_iff
  ok_none_iff := h.ok_none_iff
  unsupported _ _ hchild hother := h.eq_error_of_holdsOther hchild hother
  unasked hplatform := by
    subst hplatform
    exact ⟨h.ok_none_iff_isMissing, fun _ _ hindex => h.visits_eq_of_holdsIndex hindex⟩

/-! ### Resolution by a client -/

namespace RegistryClient

variable {σ : Type} (c : RegistryClient (StateM σ))

/-- The manifest of an image is followed by a visit of its configuration. -/
theorem exists_comesTo_describe (digest : String) (manifest : Manifest) (wanted : Option Platform)
    (s : Option String × σ) : ∃ v r s', Makes (c.describe digest manifest wanted).run
        (c.recorded.describe digest manifest wanted).run s ([v].flatMap (·.exchanges)) r s' ∧
      c.Tour s [v] s' ∧ manifest.ComesTo c.config.apiUrl digest wanted v r := by
  obtain ⟨v, s', hurl, -, hvisit, hmakes⟩ := c.exists_visits_makes
    (c.config.apiUrl ++ "/blobs/" ++ manifest.config.digest) none configOf s
  have hfetch : Makes (c.fetchConfig manifest.config.digest).run
      (c.recorded.fetchConfig manifest.config.digest).run s v.exchanges v.config s' := by
    rw [fetchConfig_eq, fetchConfig_eq]
    exact hmakes
  refine ⟨v, _, s', ?_, .cons hvisit (.nil s'), hurl, rfl⟩
  rw [List.flatMap_singleton]
  cases hconfig : v.config with
  | error e =>
    rw [hconfig] at hfetch
    exact hfetch.bind_error
  | ok config =>
    rw [hconfig] at hfetch
    refine hfetch.bind_rest ?_
    simp only [Except.map]
    split
    · exact makes_pure _ s'
    · exact makes_pure _ s'

/-- What lies at a reference is read as a document by one visit. -/
theorem exists_fetchManifest {α : Type} (reference : String)
    (f : Content → Except RegistryError α) (s : Option String × σ) :
    ∃ v s', v.url = c.config.apiUrl ++ "/manifests/" ++ reference ∧ c.Visits s v s' ∧
      Makes (c.fetchManifest reference >>= fun content => liftM (Content.readAs f content)).run
        (c.recorded.fetchManifest reference >>= fun content => liftM (Content.readAs f content)).run
        s v.exchanges (v.readAs f) s' := by
  obtain ⟨v, s', hurl, -, hvisit, hmakes⟩ := c.exists_visits_makes
    (c.config.apiUrl ++ "/manifests/" ++ reference) (some MediaType.accepted)
    (fun r => contentOf r >>= Content.readAs f) s
  refine ⟨v, s', hurl, hvisit, ?_⟩
  rw [fetchManifest_eq, fetchManifest_eq, bind_assoc, bind_assoc]
  simp only [← liftM_bind]
  exact hmakes

section

variable {m : Type → Type} [Monad m] {α β : Type}

/-- Without an entry for the platform, an index has no image. -/
theorem describeIndex_none_eq (c : RegistryClient m) {p : Platform}
    (hentry : index.find? p = none) (digest : String) :
    c.describeIndex digest index (some p) = pure none := by
  unfold describeIndex
  simp only [hentry]

variable [LawfulMonad m]

theorem liftM_ok_bind (a : α) (f : α → ClientM m β) :
    (liftM (.ok a : Except RegistryError α) : ClientM m α) >>= f = f a :=
  pure_bind a f

theorem liftM_error_bind (e : RegistryError) (f : α → ClientM m β) :
    (liftM (.error e : Except RegistryError α) : ClientM m α) >>= f = throw e := by
  refine ExceptT.ext ?_
  rw [ExceptT.run_bind]
  exact pure_bind ..

variable (c : RegistryClient m)

/-- What a tag names is read as an index or a manifest, which is then followed. -/
theorem imageMetadata_eq (tag : String) (wanted : Option Platform) : c.imageMetadata tag wanted =
    (c.fetchManifest tag >>= fun content => liftM (Content.readAs Content.document content)) >>= fun
      | none => pure none
      | some (digest, .inl index) => c.describeIndex digest index wanted
      | some (digest, .inr manifest) => c.describe digest manifest wanted := by
  unfold imageMetadata
  rw [bind_assoc]
  congr
  funext content
  cases content with
  | none => simp only [Content.readAs, liftM_ok_bind]
  | some content =>
    simp only [Content.readAs, liftM_bind, bind_assoc, liftM_ok_bind, Content.document]
    split
    · simp only [liftM_bind, bind_assoc, liftM_ok_bind]
    · simp only [liftM_bind, bind_assoc, liftM_ok_bind, Content.manifest]
      split
      · rfl
      · rw [liftM_error_bind]

/-- The entry of an index is read as a manifest, which is then followed. -/
theorem describeIndex_some_eq {index : ImageIndex} {p : Platform} {entry : Descriptor}
    (hentry : index.find? p = some entry) (digest : String) :
    c.describeIndex digest index (some p) =
      (c.fetchManifest entry.digest >>= fun content =>
        liftM (Content.readAs Content.manifest content)) >>= fun
      | none => pure none
      | some (digest, manifest) => c.describe digest manifest none := by
  unfold describeIndex
  simp only [hentry, bind_assoc]
  congr
  funext content
  cases content with
  | none => simp only [Content.readAs, liftM_ok_bind]
  | some content =>
    simp only [Content.readAs, liftM_bind, bind_assoc, liftM_ok_bind, Content.manifest]
    split
    · rfl
    · rw [liftM_error_bind]

end

/-! ### Runs -/

/-- The entry of an index is visited, and then the configuration of its image. -/
theorem exists_comesTo_entry {p : Platform} {entry : Descriptor}
    (hentry : index.find? p = some entry) (digest : String) (s : Option String × σ) :
    ∃ v config r s', Makes (c.describeIndex digest index (some p)).run
        (c.recorded.describeIndex digest index (some p)).run s
        ((v :: config.toList).flatMap (·.exchanges)) r s' ∧
      c.Tour s (v :: config.toList) s' ∧
      v.url = c.config.apiUrl ++ "/manifests/" ++ entry.digest ∧
      v.ComesTo c.config.apiUrl config r := by
  obtain ⟨v, s₁, hurl, hvisit, hmakes⟩ := c.exists_fetchManifest entry.digest Content.manifest s
  rw [describeIndex_some_eq _ hentry, describeIndex_some_eq _ hentry]
  rcases hv : v.readAs Content.manifest with e | _ | ⟨digest, manifest⟩
  · rw [hv] at hmakes
    refine ⟨v, none, .error e, s₁, ?_, .cons hvisit (.nil s₁), hurl, .failed hv⟩
    rw [Option.toList_none, List.flatMap_singleton]
    exact hmakes.bind_error
  · rw [hv] at hmakes
    exact ⟨v, none, .ok none, s₁, hmakes.bind_ok (makes_pure _ s₁), .cons hvisit (.nil s₁), hurl,
      .missing hv⟩
  · rw [hv] at hmakes
    obtain ⟨w, r, s₂, hrest, htour, hcomes⟩ := c.exists_comesTo_describe digest manifest none s₁
    exact ⟨v, some w, r, s₂, hmakes.bind_ok hrest, .cons hvisit htour, hurl, .manifest hv hcomes⟩

/-- An index is described itself, has no entry for the platform, or leads on to its first entry
for it. -/
theorem exists_comesTo_describeIndex (digest : String) (index : ImageIndex)
    (wanted : Option Platform) (s : Option String × σ) :
    ∃ child config r s', Makes (c.describeIndex digest index wanted).run
        (c.recorded.describeIndex digest index wanted).run s
        ((child.toList ++ config.toList).flatMap (·.exchanges)) r s' ∧
      c.Tour s (child.toList ++ config.toList) s' ∧
      index.ComesTo c.config.apiUrl digest wanted child config r := by
  cases wanted with
  | none => exact ⟨none, none, _, s, makes_pure _ s, .nil s, .itself⟩
  | some p =>
    cases hentry : index.find? p with
    | none =>
      rw [describeIndex_none_eq _ hentry, describeIndex_none_eq _ hentry]
      exact ⟨none, none, .ok none, s, makes_pure _ s, .nil s, .noEntry hentry⟩
    | some entry =>
      obtain ⟨v, config, r, s', hmakes, htour, hurl, hcomes⟩ :=
        c.exists_comesTo_entry hentry digest s
      exact ⟨some v, config, r, s', hmakes, htour, .entry hentry hurl hcomes⟩

/-- What a tag names is visited, and then what it leads to. -/
theorem exists_comesTo_imageMetadata (tag : String) (wanted : Option Platform)
    (s : Option String × σ) : ∃ (t : Resolution) (r : _) (s' : _),
      Makes (c.imageMetadata tag wanted).run (c.recorded.imageMetadata tag wanted).run s
        (t.visits.flatMap (·.exchanges)) r s' ∧
      c.Tour s t.visits s' ∧ t.tagged.url = c.config.apiUrl ++ "/manifests/" ++ tag ∧
      t.ComesTo c.config.apiUrl wanted r := by
  obtain ⟨v, s₁, hurl, hvisit, hmakes⟩ := c.exists_fetchManifest tag Content.document s
  rw [imageMetadata_eq, imageMetadata_eq]
  rcases hv : v.readAs Content.document with e | _ | ⟨digest, index | manifest⟩
  · rw [hv] at hmakes
    refine ⟨⟨v, none, none⟩, .error e, s₁, ?_, .cons hvisit (.nil s₁), hurl, .failed hv⟩
    rw [Resolution.visits, Option.toList_none, List.append_nil, List.flatMap_singleton]
    exact hmakes.bind_error
  · rw [hv] at hmakes
    exact ⟨⟨v, none, none⟩, .ok none, s₁, hmakes.bind_ok (makes_pure _ s₁),
      .cons hvisit (.nil s₁), hurl, .missing hv⟩
  · rw [hv] at hmakes
    obtain ⟨child, config, r, s₂, hrest, htour, hcomes⟩ :=
      c.exists_comesTo_describeIndex digest index wanted s₁
    exact ⟨⟨v, child, config⟩, r, s₂, hmakes.bind_ok hrest, .cons hvisit htour, hurl,
      .index hv hcomes⟩
  · rw [hv] at hmakes
    obtain ⟨w, r, s₂, hrest, htour, hcomes⟩ := c.exists_comesTo_describe digest manifest wanted s₁
    exact ⟨⟨v, none, some w⟩, r, s₂, hmakes.bind_ok hrest, .cons hvisit htour, hurl,
      .manifest hv hcomes⟩

/-- **Resolving a tag for a platform.** Whatever the servers answer, the client visits what the tag
names, then the entry of an index for the platform, and then the configuration of the image, each of
them at most once. There is an image if the tag names an index whose first entry that serves the
platform leads to a manifest, or if it names a manifest whose configuration declares no platform
that does not serve; without a platform, also if it names an index, which is then described itself.
There is none exactly if the tag is missing, the index has no entry that serves, the entry is
missing, or the configuration of the manifest declares a platform that does not serve. -/
theorem exists_resolves_imageMetadata (tag : String) (wanted : Option Platform)
    (s : Option String × σ) : ∃ (t : Resolution) (r : _) (s' : _),
      Makes (c.imageMetadata tag wanted).run (c.recorded.imageMetadata tag wanted).run s
        (t.visits.flatMap (·.exchanges)) r s' ∧
      c.Tour s t.visits s' ∧ (∀ v ∈ t.visits, v.Proper c.config) ∧
      Resolves c.config.repository.apiUrl tag wanted t r := by
  obtain ⟨t, r, s', hmakes, htour, hurl, hcomes⟩ := c.exists_comesTo_imageMetadata tag wanted s
  exact ⟨t, r, s', hmakes, htour, htour.proper, hcomes.resolves hurl⟩

end RegistryClient

/-! ### An index with two platforms -/

/-- A registry where a tag names an index for two platforms. It does not name the digests of what it
answers. -/
def indexedScript : Script :=
  let answer (kind body : String) : Reaction :=
    some ⟨200, [("content-type", kind.toUTF8.toList)], body.toUTF8.toList, true⟩
  let entry (digest architecture : String) : String :=
    "\x7b\"digest\":\"" ++ digest ++ "\",\"platform\":\x7b\"os\":\"linux\",\"architecture\":\"" ++
      architecture ++ "\"\x7d\x7d"
  let index : String := "\x7b\"manifests\":[" ++ entry "sha256:a" "arm64" ++ "," ++
    entry "sha256:b" "amd64" ++ "]\x7d"
  [("http://reg.test/v2/acme/web/manifests/v1",
      [answer "application/vnd.oci.image.index.v1+json; charset=utf-8" index]),
    ("http://reg.test/v2/acme/web/manifests/sha256:b",
      [answer "text/plain" "\x7b\"config\":\x7b\"digest\":\"sha256:c\"\x7d\x7d"]),
    ("http://reg.test/v2/acme/web/blobs/sha256:c",
      [answer "text/plain" "\x7b\"created\":\"2024-01-02T03:04:05Z\"\x7d"])]

/-- A client of that registry. -/
def indexedClient : RegistryClient (StateM Journal) where
  config := ⟨⟨"http", "reg.test", "acme/web"⟩, .anonymous, .initial⟩
  transport := indexedScript.transport.following

/-- The client goes past the entry for another platform to the one that serves, and names the digest
of the manifest that it finds there. -/
theorem indexedClient_resolves : ∃ (t : Resolution)
    (r : Except RegistryError (Option ImageMetadata)) (s' : Option String × Journal),
    Makes (indexedClient.imageMetadata "v1" (some ⟨"linux", "amd64", none⟩)).run
      (indexedClient.recorded.imageMetadata "v1" (some ⟨"linux", "amd64", none⟩)).run (none, [])
      (t.visits.flatMap (·.exchanges)) r s' ∧
    Resolves "http://reg.test/v2/acme/web" "v1" (some ⟨"linux", "amd64", none⟩) t r ∧
    r = .ok (some ⟨"sha256:e5f7e8e9eb6cb9e308c0ce33e0966580e15bfec3c31c6a61afac38e15f8c5c93",
      some ⟨1704164645, 0⟩, .empty⟩) ∧
    (t.visits.flatMap (·.exchanges)).map (·.request.url.text) =
      ["http://reg.test/v2/acme/web/manifests/v1",
        "http://reg.test/v2/acme/web/manifests/sha256:b",
        "http://reg.test/v2/acme/web/blobs/sha256:c"] := by
  obtain ⟨t, r, s', hmakes, -, -, hresolves⟩ :=
    indexedClient.exists_resolves_imageMetadata "v1" (some ⟨"linux", "amd64", none⟩) (none, [])
  -- the run is evaluated once, for its result and its URLs alike
  have hrun := congrArg (fun run => (run.1.1.1, run.1.2.map (·.request.url.text)))
    (hmakes.run_recorded_eq [])
  refine ⟨t, r, s', hmakes, hresolves, Prod.mk.inj (hrun.symm.trans ?_)⟩
  decide +kernel

end ImageDiscovery
