import Mathlib.Data.List.Forall2
import Mathlib.Data.String.Basic
import ImageDiscovery.Pattern.Reader
import ImageDiscovery.Proofs.Selection.Asked
import ImageDiscovery.Proofs.Selection.Unflagged

/-!
# The best tags are selected

What a selector finds is described from the subscription alone: the tags that its strategy looks at,
the way in which the strategy ranks them, and how many are wanted. From a source that does not fail
and that lists no tag twice, a selector finds the first of the tags that qualify and have an image,
in the order of their rank; a tag without an image takes no place.

## Main definitions

* `ImageSubscription.Outranks` — how a strategy ranks tags.
* `ImageReference.Describes` — a reference says of a tag what is known about its image.

## Main results

* `Selector.outranks_of_compareTags` — the order of tags of a selector is the rank.
* `Selector.exists_yields_best` — the best tags are selected.
-/

namespace ImageDiscovery

open Time

namespace ImageSubscription

variable (s : ImageSubscription)

/-- The first tag ranks before the second: by a newer version, by a later text, or by a newer build,
where an image without a time of its build comes after all with one. Versions of the same precedence
and builds of the same time are ranked by the later text. A strategy for one tag ranks nothing. -/
def Outranks (image : String → Option ImageMetadata) (t u : String) : Prop :=
  match s.strategy with
  | .semVer => ∃ v w, Version.ofTag? s.strictVersions t = some v ∧
      Version.ofTag? s.strictVersions u = some w ∧ (compare w v = .lt ∨ v = w ∧ u < t)
  | .lexical => u < t
  | .newestBuild =>
    match (image t).bind (·.createdAt), (image u).bind (·.createdAt) with
    | some a, some b => compare b a = .lt ∨ a = b ∧ u < t
    | some _, none => True
    | none, some _ => False
    | none, none => u < t
  | .digest => False

end ImageSubscription

/-- The reference has the tag, with the digest, the time of the build and the annotations of its
image, and is not flagged. -/
def ImageReference.Describes (image : String → Option ImageMetadata) (t : String)
    (r : ImageReference) : Prop :=
  ∃ i, image t = some i ∧ r.tag = t ∧ r.digest = some i.digest ∧ r.createdAt = i.createdAt ∧
    r.annotations = i.annotations ∧ r.fromActiveFreight = false

theorem describes_referenceTo {image : String → Option ImageMetadata} {t : String}
    (h : (image t).isSome = true) : (referenceTo image t).Describes image t := by
  obtain ⟨i, hi⟩ := Option.isSome_iff_exists.1 h
  rw [referenceTo_of_eq_some hi]
  exact ⟨i, hi, rfl, rfl, rfl, rfl, rfl⟩

/-! ### The order of tags is the rank -/

/-- Keys are compared first, the newest key coming first, and then the texts. -/
theorem rankBy_eq_lt_iff {κ : Type} [Ord κ] [Std.LawfulEqOrd κ] {key : String → κ} {t u : String} :
    rankBy key t u = .lt ↔ compare (key u) (key t) = .lt ∨ key t = key u ∧ u < t := by
  rw [rankBy, Ordering.then_eq_lt, compare_lt_iff_lt, Std.LawfulEqOrd.compare_eq_iff_eq,
    eq_comm (a := key u)]

namespace Selector

theorem exists_ofTag?_of_version? {constraint : Option Constraint} {strict : Bool} {t : String}
    (h : (SelectionRule.version? constraint strict t).isSome = true) :
    ∃ v, SelectionRule.version? constraint strict t = some v ∧
      Version.ofTag? strict t = some v := by
  obtain ⟨v, hv⟩ := Option.isSome_iff_exists.1 h
  exact ⟨v, hv, (Option.filter_eq_some_iff.1 hv).1⟩

section

variable [PatternEngine] {s : ImageSubscription} {selector : Selector}
  {image : String → Option ImageMetadata} {listed : List String}

/-- The order of tags of a selector is the rank of its subscription. -/
theorem outranks_of_compareTags (h : ofSubscription s = .ok selector) {t u : String}
    (ht : selector.admits t = true) (hu : selector.admits u = true)
    (hlt : selector.compareTags image t u = .lt) : s.Outranks image t u := by
  rcases rule_of_ofSubscription h with
    ⟨hs, constraint, hr⟩ | ⟨hs, hr⟩ | ⟨hs, hr⟩ | ⟨hs, name, -, hr⟩
  · simp only [admits, hr, Bool.and_eq_true] at ht hu
    obtain ⟨v, hv, htag⟩ := exists_ofTag?_of_version? ht.2
    obtain ⟨w, hw, hutag⟩ := exists_ofTag?_of_version? hu.2
    simp only [compareTags, hr, rankBy_eq_lt_iff, hv, hw, Option.some.injEq] at hlt
    simp only [ImageSubscription.Outranks, hs]
    exact ⟨v, w, htag, hutag, hlt⟩
  · simp only [compareTags, hr] at hlt
    simp only [ImageSubscription.Outranks, hs]
    exact compare_lt_iff_lt.1 hlt
  · simp only [compareTags, hr, rankBy_eq_lt_iff] at hlt
    simp only [ImageSubscription.Outranks, hs]
    cases ha : (image t).bind (·.createdAt) with
    | none =>
      cases hb : (image u).bind (·.createdAt) with
      | none =>
        rw [ha, hb] at hlt
        exact (hlt.resolve_left (by rintro ⟨⟩)).2
      | some b =>
        rw [ha, hb] at hlt
        rcases hlt with hlt | ⟨heq, -⟩
        · cases hlt
        · cases heq
    | some a =>
      cases hb : (image u).bind (·.createdAt) with
      | none => trivial
      | some b =>
        rw [ha, hb] at hlt
        exact hlt.imp_right fun heq => ⟨Option.some.inj heq.1, heq.2⟩
  · -- Only one tag qualifies, and it does not come before itself.
    simp only [admits, hr, Bool.and_eq_true, beq_iff_eq] at ht hu
    rw [ht.2, hu.2] at hlt
    cases Std.ReflCmp.compare_self.symm.trans hlt

/-! ### The tags that qualify -/

/-- Where no tag is listed twice, the tags that qualify are those that the strategy looks at and the
selector admits. -/
theorem pool_eq_filter_considered (h : ofSubscription s = .ok selector) (hlisted : listed.Nodup) :
    selector.pool listed = (s.considered listed).filter selector.admits := by
  rcases rule_of_ofSubscription h with
    ⟨hs, constraint, hr⟩ | ⟨hs, hr⟩ | ⟨hs, hr⟩ | ⟨hs, name, hname, hr⟩
  · simp only [pool, hr, ImageSubscription.considered, hs]
  · simp only [pool, hr, ImageSubscription.considered, hs]
    exact (hlisted.filter _).dedup
  · simp only [pool, hr, ImageSubscription.considered, hs]
  · rw [(SelectionRule.considered_of_tagName hs hname listed).1]
    simp only [pool, hr]

theorem lists_iff (h : ofSubscription s = .ok selector) :
    selector.lists = true ↔ s.strategy ≠ .digest := by
  rcases rule_of_ofSubscription h with
    ⟨hs, constraint, hr⟩ | ⟨hs, hr⟩ | ⟨hs, hr⟩ | ⟨hs, name, -, hr⟩
  · simp [lists, hr, hs]
  · simp [lists, hr, hs]
  · simp [lists, hr, hs]
  · simp [lists, hr, hs]

/-- In the order of tags, the candidates ascend in rank. -/
theorem pairwise_outranks (h : ofSubscription s = .ok selector) (hlisted : listed.Nodup) :
    (selector.ranked image listed).Pairwise (s.Outranks image) := by
  have hadmits : ∀ t ∈ selector.ranked image listed, selector.admits t = true := by
    intro t ht
    rw [(selector.ranked_perm image listed).mem_iff, candidates,
      pool_eq_filter_considered h hlisted] at ht
    exact (List.mem_filter.1 (List.mem_filter.1 ht).1).2
  have hnodup : (selector.ranked image listed).Nodup :=
    (selector.ranked_perm image listed).nodup_iff.2 ((nodup_pool (hlisted.filter _)).filter _)
  have hsorted := selector.pairwise_ranked image listed
  refine (hsorted.and hnodup).imp_of_mem fun {t u} ht hu htu => ?_
  refine outranks_of_compareTags h (hadmits t ht) (hadmits u hu) ?_
  refine (Ordering.isLE_iff_eq_lt_or_eq_eq.1 htu.1).resolve_right fun heq => htu.2 ?_
  exact Std.LawfulEqCmp.eq_of_compare heq

/-! ### Selecting -/

variable {σ : Type} {source : TagSource (StateM σ)}

/-- **The best tags are selected.** From a source that does not fail for the platform that the
subscription wants, and that lists no tag twice, a selector finds the first tags, in the order of
their rank, of those that the strategy looks at, that qualify and that have an image for the
platform: as many as are wanted, or all if there are fewer. Each reference says what is known about
the image. An image is what the source answered if it was asked for it; for no tag it was asked
twice, and for the tags that it was not asked for the result does not depend on whether they have
one. -/
theorem exists_yields_best (h : ofSubscription s = .ok selector) {wanted : Option Platform}
    (hwanted : s.Wants wanted) (hsource : source.NeverFails wanted) {x z : σ}
    (hz : Yields source.listTags x listed z) (hlisted : listed.Nodup) :
    ∃ rs asked y, Yields (selector.select source) x rs y ∧
      source.Asked wanted (if s.strategy = .digest then x else z) asked y ∧
      (asked.map (·.1)).Nodup ∧
      (∀ t, selector.admits t = true ↔ s.Qualifies t) ∧
      ∀ image : String → Option ImageMetadata, (∀ q ∈ asked, image q.1 = q.2) →
        ∃ ranked : List String,
          ranked.Perm ((s.considered listed).filter fun t =>
            selector.admits t && (image t).isSome) ∧
          ranked.Pairwise (s.Outranks image) ∧
          List.Forall₂ (ImageReference.Describes image)
            (ranked.take (min (min (max s.discoveryLimit 1) 100) ranked.length)) rs := by
  obtain rfl := (wants_iff h).1 hwanted
  obtain ⟨asked, rs, y, hy, hasked, hsub, -, -, heq⟩ := exists_yields_select_asked hsource hz
  have hstart : (if selector.lists then z else x) = if s.strategy = .digest then x else z := by
    by_cases hs : s.strategy = .digest
    · rw [if_pos hs, if_neg fun hl => (lists_iff h).1 hl hs]
    · rw [if_neg hs, if_pos ((lists_iff h).2 hs)]
  have hnodup : (asked.map (·.1)).Nodup := List.nodup_iff_count.2 fun t =>
    Nat.le_trans (hsub.count_le t) (List.nodup_iff_count.1 (nodup_pool (hlisted.filter _)) t)
  refine ⟨rs, asked, y, hy, hstart ▸ hasked, hnodup, fun t => admits_iff h, fun image hi => ?_⟩
  refine ⟨_, ?_, pairwise_outranks h hlisted, ?_⟩
  · refine (selector.ranked_perm image listed).trans (List.Perm.of_eq ?_)
    rw [candidates, pool_eq_filter_considered h hlisted, List.filter_filter]
    exact List.filter_congr fun t _ => Bool.and_comm ..
  · rw [heq image hi, (limit_and_rule_of_ofSubscription h).1, ← List.take_eq_take_min]
    refine List.forall₂_map_right_iff.2 (List.forall₂_same.2 fun t ht => ?_)
    have hmem := List.mem_of_mem_take ht
    rw [(selector.ranked_perm image listed).mem_iff, candidates] at hmem
    exact describes_referenceTo (List.mem_filter.1 hmem).2

end

/-- Of three versions the newest one has no image for the wanted platform, and takes none of the two
places. -/
theorem exists_yields_best_skipping :
    let s := { ImageSubscription.ofRepo "registry/web" with
      platform := some " linux/arm64", discoveryLimit := 2 }
    let wanted : Platform := ⟨"linux", "arm64", none⟩
    let image (t : String) : Option ImageMetadata := if t = "v3.0.0" then none else some (.listed t)
    let listed := ["v1.0.0", "latest", "v3.0.0", "v2.0.0"]
    let source : TagSource (StateM Unit) := ⟨pure listed, fun t platform =>
      pure (if platform = some wanted then image t else some (.listed t))⟩
    ∃ selector, ofSubscription s = .ok selector ∧ s.Wants wanted ∧ source.NeverFails wanted ∧
      Yields source.listTags () listed () ∧ listed.Nodup ∧
      ∃ rs y, ∃ ranked : List String, Yields (selector.select source) () rs y ∧
        ranked.Perm ["v1.0.0", "v2.0.0"] ∧ ranked.Pairwise (s.Outranks image) ∧
        List.Forall₂ (ImageReference.Describes image) (ranked.take (min 2 ranked.length)) rs := by
  intro s wanted image listed source
  let selector : Selector := ⟨⟨none, []⟩, wanted, 2, .versions none true⟩
  have hs : ofSubscription s = .ok selector := rfl
  have hwanted : s.Wants wanted := (wants_iff hs).2 rfl
  have hz : Yields source.listTags () listed () := yields_pure_iff.2 ⟨rfl, rfl⟩
  have hanswers : source.Answers wanted listed image :=
    ⟨fun x => ⟨x, hz⟩, fun t x => ⟨x, yields_pure_iff.2 ⟨if_pos rfl, rfl⟩⟩⟩
  obtain ⟨rs, asked, y, hy, hasked, -, -, hbest⟩ :=
    exists_yields_best hs hwanted hanswers.neverFails hz (by decide)
  obtain ⟨ranked, hperm, hpairwise, hrs⟩ := hbest image (hanswers.agrees hasked)
  have hcandidates : ((s.considered listed).filter fun t =>
      selector.admits t && (image t).isSome) = ["v1.0.0", "v2.0.0"] := by
    decide +kernel
  exact ⟨selector, hs, hwanted, hanswers.neverFails, hz, by decide, rs, y, ranked, hy,
    hcandidates ▸ hperm, hpairwise, hrs⟩

end Selector

end ImageDiscovery
