import Mathlib.Data.List.Perm.Subperm
import ImageDiscovery.Proofs.Outcome
import ImageDiscovery.Proofs.Selection.Ranked

/-!
# What selectors ask and select

A selector asks a source for the images of tags one after another. From a source that does not fail
it selects references to tags that qualify, whatever is answered. Where the answers agree with a
function that gives each tag its image, these are the references to the first of the candidates in
the order of tags, as many as the limit allows. The function is free at the tags that were not asked
for: the places are filled before their turn comes.

## Main definitions

* `TagSource.NeverFails`, `TagSource.Answers` — sources that answer, and that answer alike.
* `TagSource.Asked` — a source is asked for images, and answers.

## Main results

* `Selector.exists_yields_select_asked` — what is asked and selected where the source does not fail.
* `Selector.yields_select_of_answers` — what is selected from a source that answers alike.
-/

namespace ImageDiscovery

/-! ### Sources that answer -/

variable {σ : Type}

/-- A source that does not fail, whatever it answers. -/
structure TagSource.NeverFails (source : TagSource (StateM σ)) (platform : Option Platform) :
    Prop where
  lists : ∀ x, ∃ tags y, Yields source.listTags x tags y
  describes : ∀ t x, ∃ image y, Yields (source.metadata t platform) x image y

/-- A source that always lists the same tags and always knows the same about their images. -/
structure TagSource.Answers (source : TagSource (StateM σ)) (platform : Option Platform)
    (tags : List String) (image : String → Option ImageMetadata) : Prop where
  lists : ∀ x, ∃ y, Yields source.listTags x tags y
  describes : ∀ t x, ∃ y, Yields (source.metadata t platform) x (image t) y

/-- From a state of the world, the source is asked for the images of tags one after another, gives
the answers, and leaves the world in a state. -/
inductive TagSource.Asked (source : TagSource (StateM σ)) (platform : Option Platform) :
    σ → List (String × Option ImageMetadata) → σ → Prop
  | nil (x : σ) : Asked source platform x [] x
  | cons {x y z : σ} {t : String} {i : Option ImageMetadata}
      {asked : List (String × Option ImageMetadata)}
      (h : Yields (source.metadata t platform) x i y) (hs : Asked source platform y asked z) :
      Asked source platform x ((t, i) :: asked) z

section

variable {source : TagSource (StateM σ)} {platform : Option Platform} {listed : List String}
  {image : String → Option ImageMetadata}

theorem TagSource.Answers.neverFails (h : source.Answers platform listed image) :
    source.NeverFails platform :=
  ⟨fun x => ⟨listed, h.lists x⟩, fun t x => ⟨image t, h.describes t x⟩⟩

/-- What a source that answers alike was asked for is answered as always. -/
theorem TagSource.Answers.agrees (h : source.Answers platform listed image) {x y : σ}
    {asked : List (String × Option ImageMetadata)} (ha : source.Asked platform x asked y) :
    ∀ q ∈ asked, image q.1 = q.2 := by
  induction ha with
  | nil x => exact fun q hq => absurd hq List.not_mem_nil
  | @cons x y z t i asked hy hs ih =>
    obtain ⟨y', hy'⟩ := h.describes t x
    exact List.forall_mem_cons.2 ⟨(hy'.unique hy).1, ih⟩

end

namespace Selector

variable {source : TagSource (StateM σ)} {platform : Option Platform}

/-! ### Asking for the images of tags -/

/-- What an image adds to the references of the tags after it. -/
theorem yields_cons {c : ExceptT RegistryError (StateM σ) (List ImageReference)} {x y : σ}
    {rs : List ImageReference} (h : Yields c x rs y) (r : ImageReference) :
    Yields (do return r :: (← c)) x (r :: rs) y :=
  yields_bind_iff.2 ⟨rs, y, h, yields_pure_iff.2 ⟨rfl, rfl⟩⟩

/-- Until there are enough references, the tags are asked for in turn. -/
theorem exists_yields_enrich (h : source.NeverFails platform) (n : Nat) (tags : List String)
    (x : σ) : ∃ asked rs y, Yields (enrich source platform n tags) x rs y ∧
      source.Asked platform x asked y ∧ asked.map (·.1) <+: tags ∧
      (rs.map (·.tag)).Sublist tags ∧ rs.length ≤ n ∧
      ∀ image : String → Option ImageMetadata, (∀ q ∈ asked, image q.1 = q.2) →
        rs = ((tags.filter fun t => (image t).isSome).take n).map (referenceTo image) := by
  induction tags generalizing n x with
  | nil =>
    have hnil : Yields (enrich source platform n []) x [] x := by
      cases n <;> exact yields_pure_iff.2 ⟨rfl, rfl⟩
    refine ⟨[], [], x, hnil, .nil x, List.prefix_rfl, List.nil_sublist _, Nat.zero_le _, ?_⟩
    exact fun image _ => by rw [List.filter_nil, List.take_nil, List.map_nil]
  | cons t ts ih =>
    cases n with
    | zero =>
      refine ⟨[], [], x, yields_pure_iff.2 ⟨rfl, rfl⟩, .nil x, List.nil_prefix,
        List.nil_sublist _, Nat.zero_le _, ?_⟩
      exact fun image _ => by rw [List.take_zero, List.map_nil]
    | succ n =>
      obtain ⟨i, z, hz⟩ := h.describes t x
      cases i with
      | none =>
        obtain ⟨asked, rs, y, hy, hasked, hpre, hsub, hlen, heq⟩ := ih (n + 1) z
        refine ⟨(t, none) :: asked, rs, y, yields_bind_iff.2 ⟨none, z, hz, hy⟩, .cons hz hasked,
          List.cons_prefix_cons.2 ⟨rfl, hpre⟩, hsub.cons t, hlen, fun image hi => ?_⟩
        obtain ⟨ht, hi⟩ := List.forall_mem_cons.1 hi
        rw [List.filter_cons_of_neg (by simp [ht])]
        exact heq image hi
      | some i =>
        obtain ⟨asked, rs, y, hy, hasked, hpre, hsub, hlen, heq⟩ := ih n z
        refine ⟨(t, some i) :: asked, i.reference t :: rs, y,
          yields_bind_iff.2 ⟨some i, z, hz, yields_cons hy (i.reference t)⟩, .cons hz hasked,
          List.cons_prefix_cons.2 ⟨rfl, hpre⟩, hsub.cons_cons t, Nat.succ_le_succ hlen,
          fun image hi => ?_⟩
        obtain ⟨ht, hi⟩ := List.forall_mem_cons.1 hi
        rw [List.filter_cons_of_pos (by simp [ht]), List.take_succ_cons, List.map_cons,
          referenceTo_of_eq_some ht, heq image hi]

/-- Tags are asked for in the order of their rank. It is the same whether those without an image are
left out before or after the tags are ranked. -/
theorem exists_yields_enrich_mergeSort (h : source.NeverFails platform) (n : Nat)
    (cmp : String → String → Ordering) [Std.TransCmp cmp] [Std.LawfulEqCmp cmp]
    (pool : List String) (x : σ) : ∃ asked rs y,
      Yields (enrich source platform n (pool.mergeSort fun a b => (cmp a b).isLE)) x rs y ∧
      source.Asked platform x asked y ∧ (asked.map (·.1)).Subperm pool ∧
      (rs.map (·.tag)).Subperm pool ∧ rs.length ≤ n ∧
      ∀ image : String → Option ImageMetadata, (∀ q ∈ asked, image q.1 = q.2) →
        rs = (((pool.filter fun t => (image t).isSome).mergeSort fun a b =>
          (cmp a b).isLE).take n).map (referenceTo image) := by
  have hperm := List.mergeSort_perm pool fun a b => (cmp a b).isLE
  obtain ⟨asked, rs, y, hy, hasked, hpre, hsub, hlen, heq⟩ :=
    exists_yields_enrich h n (pool.mergeSort fun a b => (cmp a b).isLE) x
  refine ⟨asked, rs, y, hy, hasked, hpre.sublist.subperm.trans hperm.subperm,
    hsub.subperm.trans hperm.subperm, hlen, fun image hi => ?_⟩
  rw [heq image hi, filter_mergeSort cmp]

/-- All tags are asked for in turn. -/
theorem exists_yields_enrichAll (h : source.NeverFails platform) (tags : List String) (x : σ) :
    ∃ asked rs y, Yields (enrichAll source platform tags) x rs y ∧
      source.Asked platform x asked y ∧ asked.map (·.1) = tags ∧ (rs.map (·.tag)).Sublist tags ∧
      ∀ image : String → Option ImageMetadata, (∀ q ∈ asked, image q.1 = q.2) →
        rs = (tags.filter fun t => (image t).isSome).map (referenceTo image) := by
  induction tags generalizing x with
  | nil =>
    exact ⟨[], [], x, yields_pure_iff.2 ⟨rfl, rfl⟩, .nil x, rfl, List.nil_sublist _, fun _ _ => rfl⟩
  | cons t ts ih =>
    obtain ⟨i, z, hz⟩ := h.describes t x
    obtain ⟨asked, rs, y, hy, hasked, hmap, hsub, heq⟩ := ih z
    cases i with
    | none =>
      refine ⟨(t, none) :: asked, rs, y, yields_bind_iff.2 ⟨none, z, hz, hy⟩, .cons hz hasked,
        congrArg (t :: ·) hmap, hsub.cons t, fun image hi => ?_⟩
      obtain ⟨ht, hi⟩ := List.forall_mem_cons.1 hi
      rw [List.filter_cons_of_neg (by simp [ht])]
      exact heq image hi
    | some i =>
      refine ⟨(t, some i) :: asked, i.reference t :: rs, y,
        yields_bind_iff.2 ⟨some i, z, hz, yields_cons hy (i.reference t)⟩, .cons hz hasked,
        congrArg (t :: ·) hmap, hsub.cons_cons t, fun image hi => ?_⟩
      obtain ⟨ht, hi⟩ := List.forall_mem_cons.1 hi
      rw [List.filter_cons_of_pos (by simp [ht]), List.map_cons, referenceTo_of_eq_some ht,
        heq image hi]

/-! ### Selecting -/

variable [PatternEngine]

/-- The tags that pass the filter are listed first. -/
theorem yields_filteredTags {s : Selector} {tags : List String} {x y : σ}
    (h : Yields source.listTags x tags y) :
    Yields (s.filteredTags source) x (tags.filter s.filter.passes) y :=
  yields_bind_iff.2 ⟨tags, y, h, yields_pure_iff.2 ⟨rfl, rfl⟩⟩

/-- The selector asks for the tags of the source first. -/
def lists (s : Selector) : Bool :=
  match s.rule with
  | .versions _ _ | .lexical | .newestBuild => true
  | .tag _ => false

/-- **What is asked and selected where the source does not fail.** Images are asked for of tags that
qualify. The references are to different places of the tags that qualify, as many as the limit
allows at most; and where the images are those of a function, they are the references to the first
candidates in the order of tags. -/
theorem exists_yields_select_asked {s : Selector} (h : source.NeverFails s.platform)
    {listed : List String} {x z : σ} (hz : Yields source.listTags x listed z) :
    ∃ asked rs y, Yields (s.select source) x rs y ∧
      source.Asked s.platform (if s.lists then z else x) asked y ∧
      (asked.map (·.1)).Subperm (s.pool listed) ∧
      (rs.map (·.tag)).Subperm (s.pool listed) ∧ rs.length ≤ s.limit ∧
      ∀ image : String → Option ImageMetadata, (∀ q ∈ asked, image q.1 = q.2) →
        rs = ((s.ranked image listed).take s.limit).map (referenceTo image) := by
  have hfiltered := yields_filteredTags (s := s) hz
  cases hr : s.rule with
  | versions constraint strict =>
    have hlists : s.lists = true := by simp only [lists, hr]
    obtain ⟨asked, rs, y, hy, hasked, hrest⟩ := exists_yields_enrich_mergeSort h s.limit
      (rankBy (SelectionRule.version? constraint strict)) (s.pool listed) z
    rw [pool_of_versions hr, ← rankVersions_eq] at hy
    refine ⟨asked, rs, y, ?_, (if_pos hlists).symm ▸ hasked, ?_⟩
    · simp only [select, hr]
      exact yields_bind_iff.2 ⟨_, z, hfiltered, hy⟩
    · simp only [ranked, compareTags, hr]
      exact hrest
  | lexical =>
    have hlists : s.lists = true := by simp only [lists, hr]
    obtain ⟨asked, rs, y, hy, hasked, hrest⟩ :=
      exists_yields_enrich_mergeSort h s.limit (fun a b => compare b a) (s.pool listed) z
    rw [pool_of_lexical hr, ← rankTexts_eq] at hy
    refine ⟨asked, rs, y, ?_, (if_pos hlists).symm ▸ hasked, ?_⟩
    · simp only [select, hr]
      exact yields_bind_iff.2 ⟨_, z, hfiltered, hy⟩
    · simp only [ranked, compareTags, hr]
      exact hrest
  | newestBuild =>
    have hlists : s.lists = true := by simp only [lists, hr]
    obtain ⟨asked, rs, y, hy, hasked, hmap, hsub, heq⟩ :=
      exists_yields_enrichAll h (listed.filter s.filter.passes) z
    rw [← pool_of_newestBuild hr] at hmap hsub heq
    have hperm : (((rankBuilds rs).take s.limit).map (·.tag)).Subperm (rs.map (·.tag)) :=
      ((List.take_sublist ..).map _).subperm.trans ((List.mergeSort_perm ..).map _).subperm
    refine ⟨asked, (rankBuilds rs).take s.limit, y, ?_, (if_pos hlists).symm ▸ hasked,
      hmap ▸ List.Subperm.refl _, hperm.trans hsub.subperm, List.length_take_le ..,
      fun image hi => ?_⟩
    · simp only [select, hr]
      exact yields_bind_iff.2 ⟨_, z, hfiltered, yields_bind_iff.2 ⟨rs, y, hy,
        yields_pure_iff.2 ⟨rfl, rfl⟩⟩⟩
    · rw [heq image hi, rankBuilds_map_referenceTo, ← List.map_take]
      simp only [ranked, compareTags, hr, candidates]
  | tag name =>
    have hlists : s.lists = false := by simp only [lists, hr]
    rw [if_neg (Bool.eq_false_iff.1 hlists)]
    cases hp : s.filter.passes name with
    | true =>
      have hpool : s.pool listed = [name] := by
        simp only [pool, hr, admits, hp, Bool.true_and, List.filter_cons, BEq.rfl, if_true,
          List.filter_nil]
      obtain ⟨asked, rs, y, hy, hasked, hrest⟩ :=
        exists_yields_enrich_mergeSort h s.limit (s.compareTags fun _ => none) (s.pool listed) x
      rw [hpool, List.mergeSort_singleton] at hy
      refine ⟨asked, rs, y, ?_, hasked, ?_⟩
      · simp only [select, hr, hp, if_true]
        exact hy
      · simp only [ranked, compareTags, hr] at hrest ⊢
        exact hrest
    | false =>
      have hpool : s.pool listed = [] := by
        simp only [pool, hr, admits, hp, Bool.false_and, List.filter_cons, Bool.false_eq_true,
          if_false, List.filter_nil]
      rw [hpool]
      refine ⟨[], [], x, ?_, .nil x, List.nil_subperm, List.nil_subperm, Nat.zero_le _,
        fun image _ => ?_⟩
      · simp only [select, hr, hp, Bool.false_eq_true, if_false]
        exact yields_pure_iff.2 ⟨rfl, rfl⟩
      · rw [ranked, candidates, hpool, List.filter_nil, List.mergeSort_nil, List.take_nil,
          List.map_nil]

/-- What is selected from a source that answers alike: the references to the first candidates in the
order of tags, as many as the limit allows. -/
theorem yields_select_of_answers {s : Selector} {listed : List String}
    {image : String → Option ImageMetadata} (h : source.Answers s.platform listed image)
    (x : σ) : ∃ y,
      Yields (s.select source) x (((s.ranked image listed).take s.limit).map (referenceTo image))
        y := by
  obtain ⟨z, hz⟩ := h.lists x
  obtain ⟨asked, rs, y, hy, hasked, -, -, -, heq⟩ := exists_yields_select_asked h.neverFails hz
  rw [← heq image (h.agrees hasked)]
  exact ⟨y, hy⟩

end Selector

end ImageDiscovery
