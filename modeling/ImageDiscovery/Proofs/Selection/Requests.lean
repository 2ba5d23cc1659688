import Mathlib.Data.List.Basic
import ImageDiscovery.Pattern.Reader
import ImageDiscovery.Proofs.Journal
import ImageDiscovery.Proofs.Selection.Best

/-!
# Requests to a source

A selector lists the tags of a source once, and then requests images of single tags. It does so in
the order in which the tags are ranked, and only as long as nothing failed and the limit is not
filled. A journal of the calls shows this for all sources, whatever they answer and whether or not
they fail. Where two sources do the same at the calls of the journal, the selector does not tell
them apart; so a failure that would come after the limit is filled has no effect.

## Main definitions

* `ImageRequest`, `SourceNote` — a request for an image, and a call to a source, with the answers.
* `TagSource.noted` — a source whose calls are put into a journal.
* `Fetches` — the images of tags are requested in turn, up to a failure or to a limit.
* `ListsFirst` — the tags are listed once, before all requests.
* `ImageSubscription.Ranks` — tags in the order of their rank.
* `Consults` — the calls that a computation makes to a source.

## Main results

* `Selector.exists_fetches_enrich` — the requests for the images of a list of tags.
* `Selector.exists_requests_select` — the calls of a selector.
-/

namespace ImageDiscovery

/-! ### Requests -/

/-- A request for the image of a tag, and how it was answered. -/
structure ImageRequest where
  tag : String
  answer : Except RegistryError (Option ImageMetadata)

namespace ImageRequest

/-- The error of a request that failed. -/
def failure? (q : ImageRequest) : Option RegistryError :=
  match q.answer with
  | .error e => some e
  | .ok _ => none

/-- The reference to the image, where there is one. -/
def reference? (q : ImageRequest) : Option ImageReference :=
  match q.answer with
  | .ok (some image) => some (image.reference q.tag)
  | _ => none

/-- The references to the images that were found. -/
def found (asked : List ImageRequest) : List ImageReference :=
  asked.filterMap (·.reference?)

theorem found_cons (q : ImageRequest) (asked : List ImageRequest) :
    found (q :: asked) = found [q] ++ found asked :=
  List.filterMap_append (l := [q])

end ImageRequest

open ImageRequest

/-- The images of the tags are requested in turn, and none is left out. A request is made only where
none before it failed and the limit, if there is one, is not filled by what they found. In the end,
either nothing failed, and all tags had their turn or the limit is filled; or the last request
failed, and there is nothing but its error. -/
structure Fetches (limit : Option Nat) (tags : List String) (asked : List ImageRequest)
    (r : Except RegistryError (List ImageReference)) : Prop where
  in_turn : asked.map (·.tag) <+: tags
  open_before : ∀ before q after, asked = before ++ q :: after →
    (∀ p ∈ before, p.failure? = none) ∧ ∀ n ∈ limit, (found before).length < n
  ends : match r with
    | .ok rs => (∀ q ∈ asked, q.failure? = none) ∧ rs = found asked ∧
        (asked.map (·.tag) = tags ∨ rs.length ∈ limit)
    | .error e => ∃ q ∈ asked.getLast?, q.failure? = some e

namespace Fetches

variable {limit : Option Nat} {n k : Nat} {t : String} {tags : List String}
  {asked : List ImageRequest} {r : Except RegistryError (List ImageReference)}

theorem nil (h : tags = [] ∨ 0 ∈ limit) : Fetches limit tags [] (.ok []) where
  in_turn := List.nil_prefix
  open_before before q after heq := by cases before <;> cases heq
  ends := ⟨List.forall_mem_nil _, rfl, h.imp_left Eq.symm⟩

/-- The first request fails. -/
theorem fail (e : RegistryError) (h : ∀ n ∈ limit, 0 < n) :
    Fetches limit (t :: tags) [⟨t, .error e⟩] (.error e) where
  in_turn := List.cons_prefix_cons.2 ⟨rfl, List.nil_prefix⟩
  open_before before q after heq := by
    obtain ⟨rfl, -⟩ | ⟨before', -, hnil⟩ := List.append_eq_cons_iff.1 heq.symm
    · exact ⟨List.forall_mem_nil _, h⟩
    · cases before' <;> cases hnil
  ends := ⟨⟨t, .error e⟩, rfl, rfl⟩

/-- After a request that does not fail, what it found fills one place of the limit or none. -/
theorem cons {q : ImageRequest} (hq : q.failure? = none) (h : Fetches (some n) tags asked r)
    (hk : k = (found [q]).length + n) (hpos : 0 < k) :
    Fetches (some k) (q.tag :: tags) (q :: asked) (r.map (found [q] ++ ·)) where
  in_turn := List.cons_prefix_cons.2 ⟨rfl, h.in_turn⟩
  open_before before p after heq := by
    -- Either `p` is the first request, or `q` is among those before it.
    simp only [Option.mem_some_iff, forall_eq']
    obtain ⟨rfl, -⟩ | ⟨before', rfl, hasked⟩ := List.append_eq_cons_iff.1 heq.symm
    · exact ⟨List.forall_mem_nil _, hpos⟩
    · obtain ⟨hfailure, hlimit⟩ := h.open_before before' p after hasked
      refine ⟨List.forall_mem_cons.2 ⟨hq, hfailure⟩, ?_⟩
      rw [found_cons, List.length_append, hk]
      exact Nat.add_lt_add_left (hlimit n rfl) _
  ends := by
    cases r with
    | error e =>
      obtain ⟨p, hp, hpe⟩ := h.ends
      exact ⟨p, List.mem_getLast?_cons hp, hpe⟩
    | ok rs =>
      obtain ⟨hfailure, rfl, hend⟩ := h.ends
      refine ⟨List.forall_mem_cons.2 ⟨hq, hfailure⟩, (found_cons q asked).symm, ?_⟩
      refine hend.imp (congrArg (q.tag :: ·)) fun hn => ?_
      rw [List.length_append, ← Option.mem_some_iff.1 hn, hk]
      rfl

/-- A limit for which there are not enough tags is none. -/
theorem without_limit (h : Fetches (some n) tags asked r) (hn : tags.length ≤ n) :
    Fetches none tags asked r where
  in_turn := h.in_turn
  open_before before q after heq := ⟨(h.open_before before q after heq).1, nofun⟩
  ends := by
    cases r with
    | error e => exact h.ends
    | ok rs =>
      obtain ⟨hfailure, rfl, hend⟩ := h.ends
      refine ⟨hfailure, rfl, .inl (hend.elim id fun hfull => h.in_turn.eq_of_length_le ?_)⟩
      have hlength : (found asked).length ≤ asked.length := List.length_filterMap_le ..
      rw [← Option.mem_some_iff.1 hfull] at hlength
      rw [List.length_map]
      exact hn.trans hlength

end Fetches

/-! ### Journals of calls to a source -/

/-- A call to a source, and how it was answered. -/
inductive SourceNote where
  | listing (answer : Except RegistryError (List String))
  | image (platform : Option Platform) (request : ImageRequest)

/-- The tags are listed once, before all requests. If that fails, there is no request, and nothing
but its error; otherwise requests for the platform follow, as described for the listed tags. -/
inductive ListsFirst (platform : Option Platform)
    (P : List String → List ImageRequest → Except RegistryError (List ImageReference) → Prop) :
    List SourceNote → Except RegistryError (List ImageReference) → Prop
  | failed (e : RegistryError) : ListsFirst platform P [.listing (.error e)] (.error e)
  | listed {tags : List String} {asked : List ImageRequest}
      {r : Except RegistryError (List ImageReference)} (h : P tags asked r) :
      ListsFirst platform P (.listing (.ok tags) :: asked.map (.image platform)) r

section

variable {σ : Type}

/-- The source with notes of what it answers. -/
def TagSource.noted (source : TagSource (StateM σ)) :
    TagSource (StateM (σ × List SourceNote)) where
  listTags := noting .listing id source.listTags
  metadata t platform :=
    noting (fun answer => .image platform ⟨t, answer⟩) id (source.metadata t platform)

/-- Another source does the same when it is called like this. -/
def SourceNote.SameIn (source other : TagSource (StateM σ)) : SourceNote → Prop
  | listing _ => other.listTags = source.listTags
  | image platform q => other.metadata q.tag platform = source.metadata q.tag platform

theorem SourceNote.sameIn_self (source : TagSource (StateM σ)) (n : SourceNote) :
    n.SameIn source source := by
  cases n <;> rfl

/-- From a state of the world, the computation makes the calls of the journal to the source, and
ends with a result. What it does follows from these calls: it is the same for each source that does
the same when it is called like this. -/
def Consults {α : Type} (source : TagSource (StateM σ))
    (c : TagSource (StateM σ) → ExceptT RegistryError (StateM σ) α)
    (c' : TagSource (StateM (σ × List SourceNote)) →
      ExceptT RegistryError (StateM (σ × List SourceNote)) α)
    (x : σ) (r : Except RegistryError α) (y : σ) (notes : List SourceNote) : Prop :=
  ∀ other, (∀ n ∈ notes, n.SameIn source other) → Mirrors id (c other) (c' other.noted) x r y notes

variable {source : TagSource (StateM σ)} {α β : Type} {x y z : σ} {a : α} {e : RegistryError}
  {notes notes' : List SourceNote}
  {c : TagSource (StateM σ) → ExceptT RegistryError (StateM σ) α}
  {c' : TagSource (StateM (σ × List SourceNote)) →
    ExceptT RegistryError (StateM (σ × List SourceNote)) α}

theorem consults_pure (source : TagSource (StateM σ)) (a : α) (x : σ) :
    Consults source (fun _ => pure a) (fun _ => pure a) x (.ok a) x [] :=
  fun _ _ => mirrors_pure id a x

theorem consults_listTags {r : Except RegistryError (List String)}
    (h : Ends source.listTags x r y) :
    Consults source (·.listTags) (·.listTags) x r y [.listing r] := by
  intro other hother
  have hsame : other.listTags = source.listTags := hother _ List.mem_cons_self
  rw [← hsame] at h
  exact mirrors_noting _ id h

theorem consults_metadata {t : String} {platform : Option Platform}
    {r : Except RegistryError (Option ImageMetadata)}
    (h : Ends (source.metadata t platform) x r y) :
    Consults source (·.metadata t platform) (·.metadata t platform) x r y
      [.image platform ⟨t, r⟩] := by
  intro other hother
  have hsame : other.metadata t platform = source.metadata t platform :=
    hother _ List.mem_cons_self
  rw [← hsame] at h
  exact mirrors_noting (fun r => SourceNote.image platform ⟨t, r⟩) id h

namespace Consults

theorem bind {r : Except RegistryError β} (h : Consults source c c' x (.ok a) y notes)
    (f : TagSource (StateM σ) → α → ExceptT RegistryError (StateM σ) β)
    (f' : TagSource (StateM (σ × List SourceNote)) → α →
      ExceptT RegistryError (StateM (σ × List SourceNote)) β)
    (hf : Consults source (f · a) (f' · a) y r z notes') :
    Consults source (fun s => c s >>= f s) (fun s => c' s >>= f' s) x r z (notes ++ notes') := by
  intro other hother
  obtain ⟨hnotes, hnotes'⟩ := List.forall_mem_append.1 hother
  exact (h other hnotes).bind (hf other hnotes')

/-- What follows a failure makes no calls. -/
theorem fail (h : Consults source c c' x (.error e) y notes)
    (f : TagSource (StateM σ) → α → ExceptT RegistryError (StateM σ) β)
    (f' : TagSource (StateM (σ × List SourceNote)) → α →
      ExceptT RegistryError (StateM (σ × List SourceNote)) β) :
    Consults source (fun s => c s >>= f s) (fun s => c' s >>= f' s) x (.error e) y notes :=
  fun other hother => (h other hother).fail (f other) (f' other.noted)

/-- No call is made for a value that is made of another one. -/
theorem map {r : Except RegistryError α} (h : Consults source c c' x r y notes) (f : α → β) :
    Consults source (fun s => c s >>= fun a => pure (f a)) (fun s => c' s >>= fun a => pure (f a))
      x (r.map f) y notes := by
  cases r with
  | error e => exact h.fail _ _
  | ok a =>
    have hbind := h.bind (fun _ a => pure (f a)) (fun _ a => pure (f a))
      (consults_pure source (f a) y)
    rwa [List.append_nil] at hbind

/-- With the source itself, the computation ends with the result, and its calls are the journal. -/
theorem ends {r : Except RegistryError α} (h : Consults source c c' x r y notes) :
    Ends (c source) x r y ∧ Ends (c' source.noted) (x, []) r (y, notes) := by
  have hself := h source fun n _ => n.sameIn_self source
  have hnoted := hself.ends_noted []
  rw [Except.map_id, id, List.nil_append] at hnoted
  exact ⟨hself.ends, hnoted⟩

end Consults

end

/-! ### Requests for a list of tags -/

namespace Selector

section

variable {σ : Type} (source : TagSource (StateM σ)) (platform : Option Platform)

/-- The images of the tags are requested in turn, up to a failure or to the limit. -/
theorem exists_fetches_enrich (n : Nat) (tags : List String) (x : σ) :
    ∃ asked r y, Fetches (some n) tags asked r ∧
      Consults source (enrich · platform n tags) (enrich · platform n tags) x r y
        (asked.map (.image platform)) := by
  induction tags generalizing n x with
  | nil =>
    refine ⟨[], .ok [], x, .nil (.inl rfl), ?_⟩
    cases n <;> exact consults_pure source [] x
  | cons t ts ih =>
    cases n with
    | zero => exact ⟨[], .ok [], x, .nil (.inr rfl), consults_pure source [] x⟩
    | succ n =>
      obtain ⟨answer, y, hy⟩ := exists_ends (source.metadata t platform) x
      have hm := consults_metadata hy
      cases answer with
      | error e =>
        have hpos : ∀ k ∈ some (n + 1), 0 < k := by simp
        exact ⟨[⟨t, .error e⟩], .error e, y, .fail e hpos, hm.fail _ _⟩
      | ok image =>
        cases image with
        | none =>
          -- A tag without an image takes no place.
          obtain ⟨asked, r, z, hasked, hr⟩ := ih (n + 1) y
          have hcons := hasked.cons (q := ⟨t, .ok none⟩) rfl (Nat.zero_add _).symm n.succ_pos
          have hskip : r.map (found [⟨t, .ok none⟩] ++ ·) = r := congrFun Except.map_id r
          rw [hskip] at hcons
          exact ⟨_, r, z, hcons, hm.bind _ _ hr⟩
        | some image =>
          obtain ⟨asked, r, z, hasked, hr⟩ := ih n y
          have hcons := hasked.cons (q := ⟨t, .ok (some image)⟩) rfl (Nat.add_comm ..) n.succ_pos
          exact ⟨_, _, z, hcons, hm.bind _ _ (hr.map _)⟩

/-- With room for all tags, all that have an image are found. -/
theorem enrich_of_length_le {m : Type → Type} [Monad m] (source : TagSource m) {n : Nat}
    {tags : List String} (h : tags.length ≤ n) :
    enrich source platform n tags = enrichAll source platform tags := by
  induction tags generalizing n with
  | nil => cases n <;> rfl
  | cons t ts ih =>
    cases n with
    | zero => cases h
    | succ n =>
      have hts : ts.length ≤ n := Nat.le_of_succ_le_succ h
      simp only [enrich, enrichAll, ih hts, ih (Nat.le_succ_of_le hts)]

/-- The images of all tags are requested in turn, up to a failure. -/
theorem exists_fetches_enrichAll (tags : List String) (x : σ) :
    ∃ asked r y, Fetches none tags asked r ∧
      Consults source (enrichAll · platform tags) (enrichAll · platform tags) x r y
        (asked.map (.image platform)) := by
  obtain ⟨asked, r, y, hasked, hr⟩ := exists_fetches_enrich source platform tags.length tags x
  refine ⟨asked, r, y, hasked.without_limit (Nat.le_refl _), ?_⟩
  simp only [enrich_of_length_le platform _ (Nat.le_refl tags.length)] at hr
  exact hr

/-! ### Selecting -/

variable [PatternEngine]

/-- Where the tags that pass the filter are listed first, what follows is described for them. -/
theorem exists_listsFirst {s : Selector}
    {P : List String → List ImageRequest → Except RegistryError (List ImageReference) → Prop}
    {k : TagSource (StateM σ) → List String →
      ExceptT RegistryError (StateM σ) (List ImageReference)}
    {k' : TagSource (StateM (σ × List SourceNote)) → List String →
      ExceptT RegistryError (StateM (σ × List SourceNote)) (List ImageReference)}
    (hk : ∀ listed x, ∃ asked r y, P listed asked r ∧
      Consults source (k · (listed.filter s.filter.passes)) (k' · (listed.filter s.filter.passes))
        x r y (asked.map (.image s.platform))) (x : σ) :
    ∃ r y notes, ListsFirst s.platform P notes r ∧
      Consults source (fun other => s.filteredTags other >>= k other)
        (fun other => s.filteredTags other >>= k' other) x r y notes := by
  obtain ⟨answer, y, hy⟩ := exists_ends source.listTags x
  have hm := (consults_listTags hy).map fun tags => tags.filter s.filter.passes
  cases answer with
  | error e => exact ⟨.error e, y, _, .failed e, hm.fail _ _⟩
  | ok listed =>
    obtain ⟨asked, r, z, hP, hr⟩ := hk listed y
    exact ⟨r, z, _, .listed hP, hm.bind _ _ hr⟩

/-- Where the listed tags are ranked first, images are requested in the order of their rank. -/
theorem exists_listsFirst_enrich {s : Selector} {rank : List String → List String}
    {R : List String → List String → Prop}
    (hrank : ∀ listed, R listed (rank (listed.filter s.filter.passes))) (x : σ) :
    ∃ r y notes, ListsFirst s.platform (fun listed asked r =>
        ∃ ranked, R listed ranked ∧ Fetches (some s.limit) ranked asked r) notes r ∧
      Consults source
        (fun other => s.filteredTags other >>= fun tags =>
          enrich other s.platform s.limit (rank tags))
        (fun other => s.filteredTags other >>= fun tags =>
          enrich other s.platform s.limit (rank tags)) x r y notes := by
  refine exists_listsFirst source (fun listed x => ?_) x
  obtain ⟨asked, r, y, hasked, hr⟩ := exists_fetches_enrich source s.platform s.limit
    (rank (listed.filter s.filter.passes)) x
  exact ⟨asked, r, y, ⟨_, hrank listed, hasked⟩, hr⟩

end

end Selector

/-- The tags of a pool from the highest rank to the lowest, where no image is needed to rank them. A
tag that the pool repeats is repeated, with no other one in between. -/
def ImageSubscription.Ranks (s : ImageSubscription) (pool ranked : List String) : Prop :=
  ranked.Perm pool ∧ ranked.Pairwise fun t u => t = u ∨ s.Outranks (fun _ => none) t u

/-- How a selector of the subscription calls a source, and what comes out.

* By versions and by texts, the tags are listed first, and images of those that the selector admits
  are requested in the order of their rank, up to the limit. The order of texts counts a tag once.
* By the builds, the tags are listed first, and images of all that the selector admits are requested
  in the order of the listing; what is found is ranked and cut off at the limit.
* Of a single tag, nothing is listed, and its image is requested if the tag passes the filter. -/
def ImageSubscription.Requests [PatternEngine] (s : ImageSubscription) (selector : Selector)
    (notes : List SourceNote) (r : Except RegistryError (List ImageReference)) : Prop :=
  match s.strategy with
  | .semVer => ListsFirst selector.platform (fun listed asked r =>
      ∃ ranked, s.Ranks (listed.filter selector.admits) ranked ∧
        Fetches (some s.limit) ranked asked r) notes r
  | .lexical => ListsFirst selector.platform (fun listed asked r =>
      ∃ ranked, s.Ranks (listed.filter selector.admits).dedup ranked ∧
        Fetches (some s.limit) ranked asked r) notes r
  | .newestBuild => ListsFirst selector.platform (fun listed asked r =>
      ∃ fetched, Fetches none (listed.filter selector.admits) asked fetched ∧
        r = fetched.map fun rs => (Selector.rankBuilds rs).take s.limit) notes r
  | .digest => ∃ name asked, s.considered [] = [name] ∧
      notes = asked.map (.image selector.platform) ∧
      Fetches (some s.limit) (if selector.filter.passes name then [name] else []) asked r

namespace Selector

section

variable [PatternEngine] {s : ImageSubscription} {selector : Selector}

theorem admits_of_mem_pool {t : String} {listed : List String} (h : t ∈ selector.pool listed) :
    selector.admits t = true := by
  unfold pool at h
  split at h
  · exact (List.mem_filter.1 h).2
  · exact (List.mem_filter.1 h).2
  · exact (List.mem_filter.1 (List.mem_dedup.1 h)).2
  · exact (List.mem_filter.1 h).2

/-- In the order of tags, a pool is ranked. -/
theorem ranks_mergeSort_pool (h : ofSubscription s = .ok selector) (listed : List String) :
    s.Ranks (selector.pool listed) ((selector.pool listed).mergeSort fun a b =>
      (selector.compareTags (fun _ => none) a b).isLE) := by
  have hperm := List.mergeSort_perm (selector.pool listed) fun a b =>
    (selector.compareTags (fun _ => none) a b).isLE
  refine ⟨hperm, (pairwise_mergeSort_isLE _ _).imp_of_mem fun {t u} ht hu htu => ?_⟩
  rcases Ordering.isLE_iff_eq_lt_or_eq_eq.1 htu with hlt | heq
  · exact .inr (outranks_of_compareTags h (admits_of_mem_pool (hperm.mem_iff.1 ht))
      (admits_of_mem_pool (hperm.mem_iff.1 hu)) hlt)
  · exact .inl (Std.LawfulEqCmp.eq_of_compare heq)

theorem ranks_rankVersions (h : ofSubscription s = .ok selector) {constraint : Option Constraint}
    {strict : Bool} (hr : selector.rule = .versions constraint strict) (listed : List String) :
    s.Ranks (listed.filter selector.admits)
      (rankVersions constraint strict (listed.filter selector.filter.passes)) := by
  have hpool : selector.pool listed = listed.filter selector.admits := by simp only [pool, hr]
  have hranks := ranks_mergeSort_pool h listed
  simp only [compareTags, hr] at hranks
  rwa [rankVersions_eq, ← pool_of_versions hr, ← hpool]

theorem ranks_rankTexts (h : ofSubscription s = .ok selector) (hr : selector.rule = .lexical)
    (listed : List String) :
    s.Ranks (listed.filter selector.admits).dedup
      (rankTexts (listed.filter selector.filter.passes)) := by
  have hpool : selector.pool listed = (listed.filter selector.admits).dedup := by
    simp only [pool, hr]
  have hranks := ranks_mergeSort_pool h listed
  simp only [compareTags, hr] at hranks
  rwa [rankTexts_eq, ← pool_of_lexical hr, ← hpool]

variable {σ : Type} (source : TagSource (StateM σ))

/-- The calls that a selector makes are those of its subscription. -/
theorem exists_consults_select (h : ofSubscription s = .ok selector) (x : σ) :
    ∃ r y notes, s.Requests selector notes r ∧
      Consults source (selector.select ·) (selector.select ·) x r y notes := by
  have hlimit := (limit_and_rule_of_ofSubscription h).1
  rcases rule_of_ofSubscription h with
    ⟨hs, constraint, hr⟩ | ⟨hs, hr⟩ | ⟨hs, hr⟩ | ⟨hs, name, hname, hr⟩
  · simp only [ImageSubscription.Requests, hs, select, hr, ← hlimit]
    exact exists_listsFirst_enrich source (ranks_rankVersions h hr) x
  · simp only [ImageSubscription.Requests, hs, select, hr, ← hlimit]
    exact exists_listsFirst_enrich source (ranks_rankTexts h hr) x
  · simp only [ImageSubscription.Requests, hs, select, hr, ← hlimit]
    refine exists_listsFirst source (fun listed x => ?_) x
    rw [admits_eq_passes (.inr hr)]
    obtain ⟨asked, fetched, y, hasked, hm⟩ := exists_fetches_enrichAll source selector.platform
      (listed.filter selector.filter.passes) x
    exact ⟨asked, _, y, ⟨fetched, hasked, rfl⟩, hm.map _⟩
  · have hname : s.considered [] = [name] := (SelectionRule.considered_of_tagName hs hname []).1
    simp only [ImageSubscription.Requests, hs, select, hr, ← hlimit]
    cases hp : selector.filter.passes name with
    | true =>
      obtain ⟨asked, r, y, hasked, hm⟩ :=
        exists_fetches_enrich source selector.platform selector.limit [name] x
      exact ⟨r, y, _, ⟨name, asked, hname, rfl, by rwa [hp]⟩, hm⟩
    | false =>
      exact ⟨.ok [], x, [], ⟨name, [], hname, rfl, .nil (.inl (by rw [hp]; rfl))⟩,
        consults_pure source [] x⟩

/-- **The calls of a selector.** Whatever the source answers, and whether or not it fails, the
selector makes the calls of its subscription, in their order and up to the first failure. It ends
in the same way with each source that does the same at these calls, so that it does not matter where
else a source would fail. -/
theorem exists_requests_select (h : ofSubscription s = .ok selector) (x : σ) : ∃ r y notes,
    Ends (selector.select source) x r y ∧
    Ends (selector.select source.noted) (x, []) r (y, notes) ∧
    (∀ other : TagSource (StateM σ), (∀ n ∈ notes, n.SameIn source other) →
      Ends (selector.select other) x r y) ∧
    s.Requests selector notes r := by
  obtain ⟨r, y, notes, hrequests, hm⟩ := exists_consults_select source h x
  have hself := hm source fun n _ => n.sameIn_self source
  have hnoted := hself.ends_noted []
  rw [Except.map_id, id, List.nil_append] at hnoted
  exact ⟨r, y, notes, hself.ends, hnoted, fun other hother => (hm other hother).ends, hrequests⟩

end

/-- The newest version fills the limit, and the failure that would come after it has no effect. -/
theorem exists_requests_select_newest :
    let s := { ImageSubscription.ofRepo "registry/web" with discoveryLimit := 1 }
    let source : TagSource (StateM Unit) := ⟨pure ["v1.0.0", "v2.0.0"], fun t _ =>
      if t = "v2.0.0" then pure (some (.listed t)) else throw (.http 500 "")⟩
    ∃ selector, ofSubscription s = .ok selector ∧ ∃ notes,
      Ends (selector.select source) () (.ok [.listed "v2.0.0"]) () ∧
      Ends (selector.select source.noted) ((), []) (.ok [.listed "v2.0.0"]) ((), notes) ∧
      s.Requests selector notes (.ok [.listed "v2.0.0"]) := by
  intro s source
  let selector : Selector := ⟨⟨none, []⟩, none, 1, .versions none true⟩
  have hs : ofSubscription s = .ok selector := rfl
  have hselect : Ends (selector.select source) () (.ok [.listed "v2.0.0"]) () := by
    simp only [select, rankVersions_eq_insertionSort]
    decide +kernel
  obtain ⟨r, y, notes, hends, hnoted, -, hrequests⟩ := exists_requests_select source hs ()
  obtain rfl : r = .ok [.listed "v2.0.0"] := congrArg Prod.fst (hends.symm.trans hselect)
  exact ⟨selector, hs, notes, hselect, hnoted, hrequests⟩

end Selector

end ImageDiscovery
