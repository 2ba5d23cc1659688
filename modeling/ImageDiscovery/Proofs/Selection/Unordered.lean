import Mathlib.Data.List.Basic
import ImageDiscovery.Pattern.Reader
import ImageDiscovery.Proofs.Selection.Requests

/-!
# The order of a listing

A registry lists tags in any order, and perhaps a tag several times. Two sources that list the same
tags in different orders, and that know the same about each image, are not told apart by what is
selected from them: the rank of tags is a strict order that separates all of them, so that there is
only one way to rank what is listed. What is requested then follows from the answers, also where
some of them are failures. Only where builds are ranked are images requested in the order of the
listing; so two listings may end with different failures, but not with different references.

## Main definitions

* `TagSource.RepliesWith` — a source that lists fixed tags and answers by a function.
* `SourceNote.request?`, `imageRequests` — the requests for images among the calls to a source.

## Main results

* `ImageSubscription.Ranks.unique` — tags are ranked in one way.
* `Fetches.unique` — the answers settle what is requested and what comes of it.
* `Selector.exists_select_of_perm` — the order of the listing does not matter.
-/

namespace ImageDiscovery

/-! ### Sources with fixed answers -/

section

variable {σ : Type}

/-- The source always lists the same tags, and its answer to each question about an image is that of
a function; it may be a failure. -/
structure TagSource.RepliesWith (source : TagSource (StateM σ)) (listed : List String)
    (answer : String → Option Platform → Except RegistryError (Option ImageMetadata)) : Prop where
  lists : ∀ x, ∃ y, Ends source.listTags x (.ok listed) y
  describes : ∀ t platform x, ∃ y, Ends (source.metadata t platform) x (answer t platform) y

namespace SourceNote

/-- The note is one of a source that lists fixed tags and answers by a function. -/
def FitsTo (listed : List String)
    (answer : String → Option Platform → Except RegistryError (Option ImageMetadata)) :
    SourceNote → Prop
  | listing r => r = .ok listed
  | image platform q => q.answer = answer q.tag platform

/-- The request for an image, with its platform, if the call is one. -/
def request? : SourceNote → Option (Option Platform × ImageRequest)
  | listing _ => none
  | image platform q => some (platform, q)

end SourceNote

/-- The requests for images among the calls, in their order. -/
def imageRequests (notes : List SourceNote) : List (Option Platform × ImageRequest) :=
  notes.filterMap (·.request?)

theorem imageRequests_map_image (platform : Option Platform) (asked : List ImageRequest) :
    imageRequests (asked.map (.image platform)) = asked.map fun q => (platform, q) := by
  rw [imageRequests, List.filterMap_map]
  exact List.filterMap_eq_map ▸ rfl

namespace Selector

variable {I : σ → Prop} {source : TagSource (StateM σ)} {platform : Option Platform}

/-- What the calls to a source keep, the requests for a list of tags keep. -/
theorem keeps_enrich (h : ∀ t, Keeps I (source.metadata t platform)) (n : Nat)
    (tags : List String) : Keeps I (enrich source platform n tags) := by
  induction tags generalizing n with
  | nil => cases n <;> exact keeps_pure I []
  | cons t ts ih =>
    cases n with
    | zero => exact keeps_pure I []
    | succ n =>
      refine (h t).bind fun image => ?_
      cases image with
      | none => exact ih (n + 1)
      | some image => exact (ih n).bind fun rs => keeps_pure I _

/-- What the calls to a source keep, a selector keeps. -/
theorem keeps_select [PatternEngine] {s : Selector} (hlist : Keeps I source.listTags)
    (h : ∀ t, Keeps I (source.metadata t s.platform)) : Keeps I (s.select source) := by
  have hfiltered : Keeps I (s.filteredTags source) := hlist.bind fun tags => keeps_pure I _
  unfold select
  split
  · exact hfiltered.bind fun tags => keeps_enrich h _ _
  · exact hfiltered.bind fun tags => keeps_enrich h _ _
  · refine hfiltered.bind fun tags => ?_
    rw [← enrich_of_length_le s.platform source (Nat.le_refl tags.length)]
    exact (keeps_enrich h _ _).bind fun rs => keeps_pure I _
  · split
    · exact keeps_enrich h _ _
    · exact keeps_pure I []

/-- The journal of a selector says how the source answers. -/
theorem fitsTo_of_mem_notes [PatternEngine] {listed : List String}
    {answer : String → Option Platform → Except RegistryError (Option ImageMetadata)}
    (h : source.RepliesWith listed answer) {s : Selector} {x y : σ}
    {r : Except RegistryError (List ImageReference)} {notes : List SourceNote}
    (hends : Ends (s.select source.noted) (x, []) r (y, notes)) :
    ∀ n ∈ notes, n.FitsTo listed answer := by
  have hlist : Keeps (fun p : σ × List SourceNote => ∀ n ∈ p.2, n.FitsTo listed answer)
      source.noted.listTags := by
    refine keeps_noting id fun x r y hr => ?_
    obtain ⟨z, hz⟩ := h.lists x
    exact (hr.unique hz).1
  have himage (t : String) : Keeps (fun p : σ × List SourceNote =>
      ∀ n ∈ p.2, n.FitsTo listed answer) (source.noted.metadata t s.platform) := by
    change Keeps _ (noting (fun r => SourceNote.image s.platform ⟨t, r⟩) id _)
    refine keeps_noting id fun x r y hr => ?_
    obtain ⟨z, hz⟩ := h.describes t s.platform x
    exact (hr.unique hz).1
  exact keeps_select hlist himage (x, []) r (y, notes) (List.forall_mem_nil _) hends

end Selector

end

/-! ### The answers settle the requests -/

theorem ImageRequest.failure?_eq_none_iff {q : ImageRequest} :
    q.failure? = none ↔ ∃ image, q.answer = .ok image := by
  unfold failure?
  cases q.answer with
  | ok image => exact ⟨fun _ => ⟨image, rfl⟩, fun _ => rfl⟩
  | error e => exact ⟨nofun, nofun⟩

namespace Fetches

variable {limit : Option Nat} {tags tags' : List String} {asked asked' : List ImageRequest}
  {r r' : Except RegistryError (List ImageReference)}
  {answer : String → Except RegistryError (Option ImageMetadata)}

theorem eq_ok_or_error (h : Fetches limit tags asked r) :
    (∀ q ∈ asked, q.failure? = none) ∧ r = .ok (ImageRequest.found asked) ∨
      ∃ q ∈ asked.getLast?, ∃ e, q.failure? = some e ∧ r = .error e := by
  cases r with
  | ok rs => exact .inl ⟨h.ends.1, congrArg Except.ok h.ends.2.1⟩
  | error e =>
    obtain ⟨q, hq, hfailure⟩ := h.ends
    exact .inr ⟨q, hq, e, hfailure, rfl⟩

/-- The result follows from the requests. -/
theorem result_eq (h : Fetches limit tags asked r) (h' : Fetches limit tags' asked r') :
    r = r' := by
  rcases h.eq_ok_or_error with ⟨hnone, hr⟩ | ⟨q, hq, e, he, hr⟩
  · rcases h'.eq_ok_or_error with ⟨-, hr'⟩ | ⟨q', hq', e', he', -⟩
    · exact hr.trans hr'.symm
    · exact nomatch (hnone q' (List.mem_of_getLast? hq')).symm.trans he'
  · rcases h'.eq_ok_or_error with ⟨hnone', -⟩ | ⟨q', hq', e', he', hr'⟩
    · exact nomatch (hnone' q (List.mem_of_getLast? hq)).symm.trans he
    · obtain rfl : q = q' := Option.some.inj (hq.symm.trans hq')
      obtain rfl : e = e' := Option.some.inj (he.symm.trans he')
      exact hr.trans hr'.symm

/-- No request follows those with which it ended. -/
theorem eq_of_isPrefix (h : Fetches limit tags asked r) (h' : Fetches limit tags asked' r')
    (hpre : asked <+: asked') : asked = asked' := by
  obtain ⟨rest, rfl⟩ := hpre
  cases rest with
  | nil => rw [List.append_nil]
  | cons q after =>
    exfalso
    obtain ⟨hfailure, hlimit⟩ := h'.open_before asked q after rfl
    cases r with
    | error e =>
      obtain ⟨p, hp, he⟩ := h.ends
      exact nomatch (hfailure p (List.mem_of_getLast? hp)).symm.trans he
    | ok rs =>
      obtain ⟨-, rfl, hall | hfull⟩ := h.ends
      · -- All tags had their turn before `q`.
        have hlength := h'.in_turn.length_le
        rw [← hall, List.length_map, List.length_map, List.length_append,
          List.length_cons] at hlength
        omega
      · exact Nat.lt_irrefl _ (hlimit _ hfull)

theorem map_answer_map_tag (ha : ∀ q ∈ asked, q.answer = answer q.tag) :
    (asked.map (·.tag)).map (fun t => ⟨t, answer t⟩) = asked := by
  rw [List.map_map]
  refine (List.map_congr_left fun q hq => ?_).trans (List.map_id asked)
  rw [Function.comp_apply, ← ha q hq, id]

variable (answer)

/-- **The answers settle what is requested and what comes of it.** -/
theorem unique (h : Fetches limit tags asked r) (h' : Fetches limit tags asked' r')
    (ha : ∀ q ∈ asked, q.answer = answer q.tag) (ha' : ∀ q ∈ asked', q.answer = answer q.tag) :
    asked = asked' ∧ r = r' := by
  have heq : asked = asked' := by
    rcases List.prefix_or_prefix_of_prefix h.in_turn h'.in_turn with hpre | hpre
    · have hasked := hpre.map fun t => (⟨t, answer t⟩ : ImageRequest)
      rw [map_answer_map_tag ha, map_answer_map_tag ha'] at hasked
      exact h.eq_of_isPrefix h' hasked
    · have hasked := hpre.map fun t => (⟨t, answer t⟩ : ImageRequest)
      rw [map_answer_map_tag ha, map_answer_map_tag ha'] at hasked
      exact (h'.eq_of_isPrefix h hasked).symm
  exact ⟨heq, h.result_eq (heq ▸ h')⟩

/-- Without a limit, all images are found unless one of the answers is a failure. -/
theorem eq_ok_iff (h : Fetches none tags asked r) (ha : ∀ q ∈ asked, q.answer = answer q.tag)
    (rs : List ImageReference) : r = .ok rs ↔
      (∀ t ∈ tags, ∃ image, answer t = .ok image) ∧
        rs = ImageRequest.found (tags.map fun t => ⟨t, answer t⟩) := by
  have hall (hok : r = .ok rs) : asked = tags.map fun t => ⟨t, answer t⟩ := by
    subst hok
    rw [← h.ends.2.2.resolve_right nofun, map_answer_map_tag ha]
  rcases h.eq_ok_or_error with ⟨hnone, rfl⟩ | ⟨q, hq, e, he, rfl⟩
  · constructor
    · intro hok
      refine ⟨fun t ht => ?_, ?_⟩
      · have hmem : ⟨t, answer t⟩ ∈ asked := hall hok ▸ List.mem_map_of_mem ht
        exact ImageRequest.failure?_eq_none_iff.1 (hnone _ hmem)
      · rw [← hall hok]
        exact (Except.ok.inj hok).symm
    · rintro ⟨-, rfl⟩
      rw [← h.ends.2.2.resolve_right nofun, map_answer_map_tag ha]
  · -- The answer to the last request is a failure.
    have hmem := List.mem_of_getLast? hq
    refine ⟨nofun, fun ⟨hok, _⟩ => ?_⟩
    obtain ⟨image, hanswer⟩ := hok q.tag (h.in_turn.subset (List.mem_map_of_mem hmem))
    have hnone := ImageRequest.failure?_eq_none_iff.2 ⟨image, (ha q hmem).trans hanswer⟩
    exact nomatch he.symm.trans hnone

end Fetches

/-! ### Tags are ranked in one way -/

/-- Of two keys with a text each, one is not both newer and older than the other. -/
theorem newer_asymm {κ : Type} [Ord κ] [Std.TransOrd κ] {a b : κ} {t u : String}
    (h : compare b a = .lt ∨ a = b ∧ u < t) : ¬ (compare a b = .lt ∨ b = a ∧ t < u) := by
  rcases h with hlt | ⟨rfl, hut⟩
  · rintro (hgt | ⟨rfl, -⟩)
    · exact nomatch (Std.OrientedCmp.gt_of_lt hlt).symm.trans hgt
    · exact nomatch Std.ReflCmp.compare_self.symm.trans hlt
  · rintro (hlt | ⟨-, htu⟩)
    · exact nomatch Std.ReflCmp.compare_self.symm.trans hlt
    · exact String.lt_asymm hut htu

namespace ImageSubscription

variable {s : ImageSubscription} {image : String → Option ImageMetadata} {t u : String}

/-- Of two tags, only one can rank before the other. -/
theorem Outranks.asymm (h : s.Outranks image t u) : ¬ s.Outranks image u t := by
  unfold Outranks at h ⊢
  cases hs : s.strategy with
  | semVer =>
    rw [hs] at h
    rintro ⟨w', v', hw', hv', h'⟩
    obtain ⟨v, w, hv, hw, h⟩ := h
    obtain rfl : v = v' := Option.some.inj (hv.symm.trans hv')
    obtain rfl : w = w' := Option.some.inj (hw.symm.trans hw')
    exact newer_asymm h h'
  | lexical =>
    rw [hs] at h
    exact String.lt_asymm h
  | newestBuild =>
    rw [hs] at h
    cases ht : (image t).bind (·.createdAt) with
    | none =>
      cases hu : (image u).bind (·.createdAt) with
      | none =>
        simp only [ht, hu] at h
        exact String.lt_asymm h
      | some b => simp only [ht, hu] at h
    | some a =>
      cases hu : (image u).bind (·.createdAt) with
      | none => exact id
      | some b =>
        simp only [ht, hu] at h
        exact newer_asymm h
  | digest =>
    rw [hs] at h
    exact h.elim

/-- **Tags are ranked in one way**, in whatever order they come. -/
theorem Ranks.unique {pool pool' ranked ranked' : List String} (h : s.Ranks pool ranked)
    (h' : s.Ranks pool' ranked') (hperm : pool.Perm pool') : ranked = ranked' := by
  refine List.Perm.eq_of_pairwise (fun t u _ _ htu hut => ?_) h.2 h'.2
    (h.1.trans (hperm.trans h'.1.symm))
  rcases htu with rfl | htu
  · rfl
  · exact (hut.resolve_right htu.asymm).symm

end ImageSubscription

/-- What is found of tags is known from the answers. -/
theorem ImageRequest.found_map_answer
    (answer : String → Except RegistryError (Option ImageMetadata)) (tags : List String) :
    found (tags.map fun t => ⟨t, answer t⟩) =
      (tags.filter fun t => (answer t).toOption.join.isSome).map
        (referenceTo fun t => (answer t).toOption.join) := by
  induction tags with
  | nil => rfl
  | cons t ts ih =>
    rw [List.map_cons, found_cons, ih]
    cases hanswer : answer t with
    | error e =>
      rw [List.filter_cons_of_neg (by simp [hanswer, Except.toOption])]
      rfl
    | ok image =>
      cases image with
      | none =>
        rw [List.filter_cons_of_neg (by simp [hanswer, Except.toOption])]
        rfl
      | some image =>
        have himage : (answer t).toOption.join = some image := by rw [hanswer]; rfl
        rw [List.filter_cons_of_pos (by rw [himage]; rfl), List.map_cons,
          referenceTo_of_eq_some himage]
        rfl

/-- Builds are ranked in one way, in whatever order they are found. -/
theorem rankBuilds_found_eq_of_perm {pool pool' : List String} (hperm : pool.Perm pool')
    (answer : String → Except RegistryError (Option ImageMetadata)) :
    Selector.rankBuilds (ImageRequest.found (pool.map fun t => ⟨t, answer t⟩)) =
      Selector.rankBuilds (ImageRequest.found (pool'.map fun t => ⟨t, answer t⟩)) := by
  rw [ImageRequest.found_map_answer, ImageRequest.found_map_answer,
    Selector.rankBuilds_map_referenceTo, Selector.rankBuilds_map_referenceTo]
  exact congrArg _ (eq_mergeSort_of_sorted (pairwise_mergeSort_isLE _ _)
    ((List.mergeSort_perm ..).trans (hperm.filter _)))

/-! ### Selecting -/

section

variable {s : ImageSubscription} {listed listed' : List String}
  {answer : String → Option Platform → Except RegistryError (Option ImageMetadata)}
  {notes notes' : List SourceNote} {r r' : Except RegistryError (List ImageReference)}

/-- Where the tags are listed first, the requests follow as described for the fixed listing. -/
theorem ListsFirst.exists_of_fitsTo {platform : Option Platform}
    {P : List String → List ImageRequest → Except RegistryError (List ImageReference) → Prop}
    (h : ListsFirst platform P notes r) (hfits : ∀ n ∈ notes, n.FitsTo listed answer) :
    ∃ asked, imageRequests notes = asked.map (fun q => (platform, q)) ∧ P listed asked r ∧
      ∀ q ∈ asked, q.answer = answer q.tag platform := by
  cases h with
  | failed e => exact nomatch hfits _ List.mem_cons_self
  | @listed tags asked r h =>
    obtain ⟨hlisted, hasked⟩ := List.forall_mem_cons.1 hfits
    obtain rfl : tags = listed := Except.ok.inj hlisted
    exact ⟨asked, imageRequests_map_image platform asked, h,
      fun q hq => hasked _ (List.mem_map_of_mem hq)⟩

/-- Where images are requested in the order of rank, the calls are the same but for the listing. -/
theorem ListsFirst.eq_of_ranks {platform : Option Platform} {limit : Option Nat}
    {pool : List String → List String}
    (h : ListsFirst platform (fun listed asked r =>
      ∃ ranked, s.Ranks (pool listed) ranked ∧ Fetches limit ranked asked r) notes r)
    (h' : ListsFirst platform (fun listed asked r =>
      ∃ ranked, s.Ranks (pool listed) ranked ∧ Fetches limit ranked asked r) notes' r')
    (hfits : ∀ n ∈ notes, n.FitsTo listed answer)
    (hfits' : ∀ n ∈ notes', n.FitsTo listed' answer) (hperm : (pool listed).Perm (pool listed')) :
    r = r' ∧ imageRequests notes = imageRequests notes' := by
  obtain ⟨asked, hnotes, ⟨ranked, hranked, hfetch⟩, ha⟩ := h.exists_of_fitsTo hfits
  obtain ⟨asked', hnotes', ⟨ranked', hranked', hfetch'⟩, ha'⟩ := h'.exists_of_fitsTo hfits'
  obtain rfl := hranked.unique hranked' hperm
  obtain ⟨rfl, rfl⟩ := hfetch.unique (answer · platform) hfetch' ha ha'
  exact ⟨rfl, hnotes.trans hnotes'.symm⟩

namespace ImageSubscription.Requests

variable [PatternEngine] {selector : Selector}

/-- By versions, by texts and of a single tag, the calls are the same but for the listing. -/
theorem eq_of_perm (h : s.Requests selector notes r) (h' : s.Requests selector notes' r')
    (hs : s.strategy ≠ .newestBuild) (hfits : ∀ n ∈ notes, n.FitsTo listed answer)
    (hfits' : ∀ n ∈ notes', n.FitsTo listed' answer) (hperm : listed.Perm listed') :
    r = r' ∧ imageRequests notes = imageRequests notes' := by
  cases hstrategy : s.strategy with
  | semVer =>
    simp only [Requests, hstrategy] at h h'
    exact h.eq_of_ranks h' hfits hfits' (hperm.filter _)
  | lexical =>
    simp only [Requests, hstrategy] at h h'
    exact h.eq_of_ranks h' hfits hfits' (hperm.filter _).dedup
  | newestBuild => exact absurd hstrategy hs
  | digest =>
    simp only [Requests, hstrategy] at h h'
    obtain ⟨name, asked, hname, rfl, hfetch⟩ := h
    obtain ⟨name', asked', hname', rfl, hfetch'⟩ := h'
    obtain rfl : name = name' := List.head_eq_of_cons_eq (hname.symm.trans hname')
    obtain ⟨rfl, rfl⟩ := hfetch.unique (answer · selector.platform) hfetch'
      (fun q hq => hfits _ (List.mem_map_of_mem hq)) (fun q hq => hfits' _ (List.mem_map_of_mem hq))
    exact ⟨rfl, rfl⟩

/-- By the builds, the same references are found, and they are found unless a request fails. -/
theorem eq_ok_iff_of_perm (h : s.Requests selector notes r) (h' : s.Requests selector notes' r')
    (hs : s.strategy = .newestBuild) (hfits : ∀ n ∈ notes, n.FitsTo listed answer)
    (hfits' : ∀ n ∈ notes', n.FitsTo listed' answer) (hperm : listed.Perm listed') :
    (∀ rs, r = .ok rs ↔ r' = .ok rs) ∧
      ((∀ q ∈ imageRequests notes, q.2.failure? = none) → ∃ rs, r = .ok rs) := by
  simp only [Requests, hs] at h h'
  obtain ⟨asked, hnotes, ⟨fetched, hfetch, rfl⟩, ha⟩ := h.exists_of_fitsTo hfits
  obtain ⟨asked', hnotes', ⟨fetched', hfetch', rfl⟩, ha'⟩ := h'.exists_of_fitsTo hfits'
  have hpool : (listed.filter selector.admits).Perm (listed'.filter selector.admits) :=
    hperm.filter _
  have hiff := hfetch.eq_ok_iff (answer · selector.platform) ha
  have hiff' := hfetch'.eq_ok_iff (answer · selector.platform) ha'
  by_cases hok : ∀ t ∈ listed.filter selector.admits, ∃ image,
      answer t selector.platform = .ok image
  · have hfetched := (hiff _).2 ⟨hok, rfl⟩
    have hfetched' := (hiff' _).2 ⟨fun t ht => hok t (hpool.mem_iff.2 ht), rfl⟩
    rw [hfetched, hfetched', Except.map, Except.map,
      rankBuilds_found_eq_of_perm hpool fun t => answer t selector.platform]
    exact ⟨fun rs => Iff.rfl, fun _ => ⟨_, rfl⟩⟩
  · rcases hfetch.eq_ok_or_error with ⟨-, rfl⟩ | ⟨q, hq, e, he, rfl⟩
    · exact absurd ((hiff _).1 rfl).1 hok
    · refine ⟨fun rs => iff_of_false (by rintro ⟨⟩) fun hr' => ?_, fun hnone => ?_⟩
      · cases fetched' with
        | error e' => cases hr'
        | ok rs' => exact hok fun t ht => ((hiff' rs').1 rfl).1 t (hpool.mem_iff.1 ht)
      · have hmem := List.mem_map_of_mem (f := fun q => (selector.platform, q))
          (List.mem_of_getLast? hq)
        have hfailure := hnone (selector.platform, q) (hnotes ▸ hmem)
        exact absurd (he.symm.trans hfailure) (Option.some_ne_none e)

end ImageSubscription.Requests

namespace Selector

section

variable [PatternEngine] {selector : Selector} {σ τ : Type} {source : TagSource (StateM σ)}
  {other : TagSource (StateM τ)}

/-- **The order of the listing does not matter.** Two sources list the same tags in different
orders, each tag equally often, and answer by the same function when they are asked for images. By
versions, by texts and of a single tag, a selector comes to the same result with both of them, be it
a failure, and makes the same requests for images in the same order. By the builds, it comes to the
same references with both of them, or to none with either; and it comes to references if no request
fails. -/
theorem exists_select_of_perm (h : ofSubscription s = .ok selector)
    (hsource : source.RepliesWith listed answer) (hother : other.RepliesWith listed' answer)
    (hperm : listed.Perm listed') (x : σ) (x' : τ) : ∃ r y notes r' y' notes',
    Ends (selector.select source) x r y ∧
    Ends (selector.select source.noted) (x, []) r (y, notes) ∧
    Ends (selector.select other) x' r' y' ∧
    Ends (selector.select other.noted) (x', []) r' (y', notes') ∧
    (s.strategy ≠ .newestBuild → r = r' ∧ imageRequests notes = imageRequests notes') ∧
    (s.strategy = .newestBuild → (∀ rs, r = .ok rs ↔ r' = .ok rs) ∧
      ((∀ q ∈ imageRequests notes, q.2.failure? = none) → ∃ rs, r = .ok rs)) := by
  obtain ⟨r, y, notes, hrequests, hconsults⟩ := exists_consults_select source h x
  obtain ⟨r', y', notes', hrequests', hconsults'⟩ := exists_consults_select other h x'
  obtain ⟨hends, hnoted⟩ := hconsults.ends
  obtain ⟨hends', hnoted'⟩ := hconsults'.ends
  have hfits := fitsTo_of_mem_notes hsource hnoted
  have hfits' := fitsTo_of_mem_notes hother hnoted'
  exact ⟨r, y, notes, r', y', notes', hends, hnoted, hends', hnoted',
    fun hs => hrequests.eq_of_perm hrequests' hs hfits hfits' hperm,
    fun hs => hrequests.eq_ok_iff_of_perm hrequests' hs hfits hfits' hperm⟩

end

/-- Two tags write the same version, a tag is listed twice, and there is no answer for the oldest
version: both listings end with its failure, after the same requests. -/
theorem exists_select_of_perm_failing :
    let s := ImageSubscription.ofRepo "registry/web"
    let answer (t : String) (_ : Option Platform) : Except RegistryError (Option ImageMetadata) :=
      if t = "1.0.0" then .error (.http 500 "") else .ok (some (.listed t))
    let source (listed : List String) : TagSource (StateM Unit) :=
      ⟨pure listed, fun t platform => liftM (answer t platform)⟩
    let listed := ["1.0.0", "2.0.0", "v2.0.0", "2.0.0"]
    let listed' := ["2.0.0", "2.0.0", "1.0.0", "v2.0.0"]
    ∃ selector, ofSubscription s = .ok selector ∧ (source listed).RepliesWith listed answer ∧
      (source listed').RepliesWith listed' answer ∧ listed.Perm listed' ∧
      ∃ notes notes', Ends (selector.select (source listed)) () (.error (.http 500 "")) () ∧
        Ends (selector.select (source listed).noted) ((), []) (.error (.http 500 "")) ((), notes) ∧
        Ends (selector.select (source listed')) () (.error (.http 500 "")) () ∧
        Ends (selector.select (source listed').noted) ((), []) (.error (.http 500 ""))
          ((), notes') ∧
        imageRequests notes = imageRequests notes' := by
  intro s answer source listed listed'
  let selector : Selector := ⟨⟨none, []⟩, none, 20, .versions none true⟩
  have hs : ofSubscription s = .ok selector := rfl
  have hreplies (tags : List String) : (source tags).RepliesWith tags answer :=
    ⟨fun x => ⟨x, rfl⟩, fun t platform x => ⟨x, rfl⟩⟩
  have hperm : listed.Perm listed' := by decide
  have hselect : Ends (selector.select (source listed)) () (.error (.http 500 "")) () := by
    simp only [select, rankVersions_eq_insertionSort]
    decide +kernel
  obtain ⟨r, y, notes, r', y', notes', hends, hnoted, hends', hnoted', hsame, -⟩ :=
    exists_select_of_perm hs (hreplies listed) (hreplies listed') hperm () ()
  obtain rfl := (hends.unique hselect).1
  obtain ⟨rfl, hrequests⟩ := hsame (by decide)
  exact ⟨selector, hs, hreplies listed, hreplies listed', hperm, notes, notes', hselect, hnoted,
    hends', hnoted', hrequests⟩

end Selector

end

end ImageDiscovery
