import ImageDiscovery.Proofs.Selection.Sorted
import ImageDiscovery.Proofs.Selection.Subscribed
import ImageDiscovery.Proofs.Version.Order

/-!
# The order of tags

Each rule compares tags by a key first, the newest key coming first, and then by their texts, last
text first; this is a linear order of tags. The lists that the rules make are the tags that qualify,
sorted by this order.

## Main definitions

* `rankBy`, `Selector.compareTags` — how tags compare.
* `Selector.pool`, `Selector.candidates`, `Selector.ranked` — the tags that qualify, those of them
  with an image, and these in the order of tags.
* `referenceTo` — the reference to a tag with what is known about its image.

## Main results

* `Selector.rankVersions_eq`, `Selector.rankTexts_eq`, `Selector.rankBuilds_map_referenceTo` — the
  rules rank by the order of tags.
* `Selector.rankVersions_eq_insertionSort`, `Selector.rankTexts_eq_insertionSort` — what the rules
  come to on given tags, by insertion.
-/

namespace ImageDiscovery

open Time

/-! ### The order of tags -/

instance : Std.TransOrd Timestamp :=
  inferInstanceAs (Std.TransCmp (compareLex (compareOn Timestamp.seconds)
    (compareOn Timestamp.nanos)))

instance : Std.LawfulEqOrd Timestamp where
  eq_of_compare {a b} h := by
    obtain ⟨hseconds, hnanos⟩ := Ordering.then_eq_eq.1 h
    cases a
    cases b
    rw [Timestamp.mk.injEq]
    exact ⟨Std.LawfulEqOrd.eq_of_compare hseconds, Std.LawfulEqOrd.eq_of_compare hnanos⟩

/-- How tags compare by a key: the newest key first, and then the last text first. -/
def rankBy {κ : Type} [Ord κ] (key : String → κ) (a b : String) : Ordering :=
  (compare (key b) (key a)).then (compare b a)

section

variable {κ : Type} [Ord κ] [Std.TransOrd κ] (key : String → κ)

instance : Std.TransCmp (rankBy key) :=
  inferInstanceAs (Std.TransCmp fun a b =>
    compareLex (compareOn key) (compare : String → String → Ordering) b a)

instance : Std.LawfulEqCmp (rankBy key) where
  compare_self {a} := by
    rw [rankBy, Std.ReflOrd.compare_self, Std.ReflOrd.compare_self]
    rfl
  eq_of_compare h := (Std.LawfulEqOrd.eq_of_compare (Ordering.then_eq_eq.1 h).2).symm

end

namespace Selector

variable [PatternEngine]

/-- How the tags of a source compare, by what is known about their images. -/
def compareTags (s : Selector) (image : String → Option ImageMetadata) :
    String → String → Ordering :=
  match s.rule with
  | .versions constraint strict => rankBy (SelectionRule.version? constraint strict)
  | .newestBuild => rankBy fun t => (image t).bind (·.createdAt)
  | .lexical | .tag _ => fun a b => compare b a

variable (s : Selector) (image : String → Option ImageMetadata)

instance : Std.TransCmp (s.compareTags image) := by
  unfold compareTags
  split <;> infer_instance

instance : Std.LawfulEqCmp (s.compareTags image) := by
  unfold compareTags
  split <;> infer_instance

/-- The tags that qualify, of those that are listed; a rule that asks for one tag does not look at
the listing, and the order of texts counts each tag once. -/
def pool (s : Selector) (tags : List String) : List String :=
  match s.rule with
  | .versions _ _ | .newestBuild => tags.filter s.admits
  | .lexical => (tags.filter s.admits).dedup
  | .tag name => [name].filter s.admits

/-- The tags that qualify and have an image. -/
def candidates (tags : List String) : List String :=
  (s.pool tags).filter fun t => (image t).isSome

/-- The candidates in the order of tags. -/
def ranked (tags : List String) : List String :=
  (s.candidates image tags).mergeSort fun a b => (s.compareTags image a b).isLE

theorem ranked_perm (tags : List String) : (s.ranked image tags).Perm (s.candidates image tags) :=
  List.mergeSort_perm ..

theorem pairwise_ranked (tags : List String) :
    (s.ranked image tags).Pairwise fun a b => (s.compareTags image a b).isLE = true :=
  pairwise_mergeSort_isLE (s.compareTags image) _

end Selector

/-- The reference to a tag with what is known about its image. -/
def referenceTo (image : String → Option ImageMetadata) (t : String) : ImageReference :=
  ((image t).map (·.reference t)).getD (.bare t)

theorem referenceTo_of_eq_some {image : String → Option ImageMetadata} {t : String}
    {i : ImageMetadata} (h : image t = some i) : referenceTo image t = i.reference t := by
  rw [referenceTo, h]
  rfl

@[simp] theorem tag_referenceTo (image : String → Option ImageMetadata) (t : String) :
    (referenceTo image t).tag = t := by
  unfold referenceTo
  cases image t <;> rfl

theorem createdAt_referenceTo (image : String → Option ImageMetadata) (t : String) :
    (referenceTo image t).createdAt = (image t).bind (·.createdAt) := by
  unfold referenceTo
  cases image t <;> rfl

/-! ### The rules rank by the order of tags -/

namespace Selector

section

variable [PatternEngine]

theorem pool_of_versions {s : Selector} {constraint : Option Constraint} {strict : Bool}
    (h : s.rule = .versions constraint strict) (tags : List String) :
    s.pool tags = (tags.filter s.filter.passes).filter fun t =>
      (SelectionRule.version? constraint strict t).isSome := by
  have hadmits : s.admits = fun t =>
      (SelectionRule.version? constraint strict t).isSome && s.filter.passes t := by
    funext t
    rw [admits, h, Bool.and_comm]
  simp only [pool, h]
  rw [hadmits, List.filter_filter]

/-- By texts and by builds, a tag qualifies if it passes the filter. -/
theorem admits_eq_passes {s : Selector} (h : s.rule = .lexical ∨ s.rule = .newestBuild) :
    s.admits = s.filter.passes := by
  funext t
  rcases h with h | h
  · rw [admits, h, Bool.and_true]
  · rw [admits, h, Bool.and_true]

theorem pool_of_lexical {s : Selector} (h : s.rule = .lexical) (tags : List String) :
    s.pool tags = (tags.filter s.filter.passes).dedup := by
  simp only [pool, h]
  rw [admits_eq_passes (.inl h)]

theorem pool_of_newestBuild {s : Selector} (h : s.rule = .newestBuild) (tags : List String) :
    s.pool tags = tags.filter s.filter.passes := by
  simp only [pool, h]
  rw [admits_eq_passes (.inr h)]

end

theorem rankVersions_eq (constraint : Option Constraint) (strict : Bool) (tags : List String) :
    rankVersions constraint strict tags =
      (tags.filter fun t => (SelectionRule.version? constraint strict t).isSome).mergeSort
        fun a b => (rankBy (SelectionRule.version? constraint strict) a b).isLE := by
  have htags : (tags.filterMap fun t => (SelectionRule.version? constraint strict t).map fun v =>
      (v, t)).map (·.2) =
        tags.filter fun t => (SelectionRule.version? constraint strict t).isSome := by
    induction tags with
    | nil => rfl
    | cons t ts ih =>
      cases ht : SelectionRule.version? constraint strict t with
      | none =>
        rw [List.filterMap_cons_none (by rw [ht]; rfl), ih,
          List.filter_cons_of_neg (by simp [ht])]
      | some v =>
        rw [List.filterMap_cons_some (by rw [ht]; rfl), List.map_cons, ih,
          List.filter_cons_of_pos (by simp [ht])]
  unfold rankVersions
  rw [← htags]
  refine List.map_mergeSort fun a ha b hb => ?_
  obtain ⟨t, -, ht⟩ := List.mem_filterMap.1 ha
  obtain ⟨u, -, hu⟩ := List.mem_filterMap.1 hb
  obtain ⟨v, hv, rfl⟩ := Option.map_eq_some_iff.1 ht
  obtain ⟨w, hw, rfl⟩ := Option.map_eq_some_iff.1 hu
  rw [versionBefore, rankBy, hv, hw]
  rfl

theorem rankTexts_eq (tags : List String) :
    rankTexts tags = tags.dedup.mergeSort fun a b => (compare b a).isLE :=
  eraseReps_mergeSort (fun a b => compare b a) tags

theorem rankVersions_eq_insertionSort (constraint : Option Constraint) (strict : Bool)
    (tags : List String) : rankVersions constraint strict tags =
      (tags.filter fun t => (SelectionRule.version? constraint strict t).isSome).insertionSort
        fun a b => (rankBy (SelectionRule.version? constraint strict) a b).isLE = true := by
  rw [rankVersions_eq]
  exact mergeSort_eq_insertionSort _ _

theorem rankTexts_eq_insertionSort (tags : List String) :
    rankTexts tags = tags.dedup.insertionSort fun a b => (compare b a).isLE = true := by
  rw [rankTexts_eq]
  exact mergeSort_eq_insertionSort (fun a b => compare b a) _

theorem compareBuilds_eq (a b : ImageReference) :
    compareBuilds a b = (compare b.createdAt a.createdAt).then (compare b.tag a.tag) := by
  unfold compareBuilds
  cases a.createdAt with
  | none => cases b.createdAt <;> rfl
  | some s => cases b.createdAt <;> rfl

theorem rankBuilds_map_referenceTo (image : String → Option ImageMetadata) (tags : List String) :
    rankBuilds (tags.map (referenceTo image)) = (tags.mergeSort fun a b =>
      (rankBy (fun t => (image t).bind (·.createdAt)) a b).isLE).map (referenceTo image) := by
  refine (List.map_mergeSort fun a _ b _ => ?_).symm
  rw [compareBuilds_eq, createdAt_referenceTo, createdAt_referenceTo, tag_referenceTo,
    tag_referenceTo, rankBy]

variable [PatternEngine]

/-- Where the listing does not repeat a tag that qualifies, no tag qualifies twice. -/
theorem nodup_pool {s : Selector} {tags : List String} (h : (tags.filter s.admits).Nodup) :
    (s.pool tags).Nodup := by
  unfold pool
  split
  · exact h
  · exact h
  · exact List.nodup_dedup _
  · exact (List.nodup_singleton _).filter _

end Selector

end ImageDiscovery
