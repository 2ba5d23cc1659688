import Mathlib.Data.List.Basic
import ImageDiscovery.Pattern.Reader
import ImageDiscovery.Proofs.Retention.Kept
import ImageDiscovery.Proofs.Selection.Asked
import ImageDiscovery.Proofs.Selection.Unflagged

/-!
# Repeated tags

The order of texts counts each listed tag once, and a rule for one tag finds it once at most. The
other two rules keep what the listing repeats: a tag that is listed several times is found several
times, if there are places left for it after the tags before it.

## Main results

* `Selector.nodup_tags_select` — when no tag is found twice.
* `Selector.exists_repeated_tag` — a tag that is found twice.
-/

namespace ImageDiscovery

/-- A source that lists fixed tags answers alike. -/
theorem TagSource.answers_listing {σ : Type} (platform : Option Platform) (tags : List String) :
    (listing tags : TagSource (StateM σ)).Answers platform tags fun t => some (.listed t) :=
  ⟨fun x => ⟨x, yields_pure_iff.2 ⟨rfl, rfl⟩⟩, fun _ x => ⟨x, yields_pure_iff.2 ⟨rfl, rfl⟩⟩⟩

namespace Selector

section

variable [PatternEngine]

/-- The order of texts counts each tag once, and a rule for one tag has no other. -/
theorem nodup_pool_of_strategy {s : ImageSubscription} {selector : Selector}
    (h : ofSubscription s = .ok selector) (hs : s.strategy = .lexical ∨ s.strategy = .digest)
    (tags : List String) : (selector.pool tags).Nodup := by
  rcases rule_of_ofSubscription h with
    ⟨hs', -⟩ | ⟨-, hr⟩ | ⟨hs', -⟩ | ⟨-, name, -, hr⟩
  · rw [hs'] at hs
    simp at hs
  · simp only [pool, hr]
    exact List.nodup_dedup _
  · rw [hs'] at hs
    simp at hs
  · simp only [pool, hr]
    exact (List.nodup_singleton name).filter _

variable {σ : Type} {source : TagSource (StateM σ)}

/-- What is selected from a source that answers alike repeats a tag if there are places left for it
after the tags before it. -/
theorem nodup_select_of_answers_iff {s : Selector} {tags : List String}
    {image : String → Option ImageMetadata} (h : source.Answers s.platform tags image) {x y : σ}
    {rs : List ImageReference} (hy : Yields (s.select source) x rs y) :
    (rs.map (·.tag)).Nodup ↔ ∀ t, 2 ≤ (s.candidates image tags).count t →
      s.limit ≤ ((s.candidates image tags).filter fun a =>
        s.compareTags image a t == .lt).length + 1 := by
  obtain ⟨z, hz⟩ := yields_select_of_answers h x
  obtain ⟨rfl, -⟩ := hy.unique hz
  have htags (ts : List String) : (ts.map (referenceTo image)).map (·.tag) = ts := by
    rw [List.map_map]
    exact List.map_id'' (tag_referenceTo image) ts
  have hperm := s.ranked_perm image tags
  rw [htags, nodup_take_of_sorted_iff (s.pairwise_ranked image tags)]
  refine forall_congr' fun t => ?_
  rw [hperm.count_eq, (hperm.filter _).length_eq]

/-- **When no tag is found twice.** The references from a source that does not fail have different
tags if the order is that of texts, if one tag is asked for, if one is wanted, or if the listing
does not repeat a tag that qualifies. From a source that answers alike, they have different tags if
and only if, for each candidate that occurs several times, the candidates before it leave one place
at most. Retention does not change whether a tag is repeated. -/
theorem nodup_tags_select {s : ImageSubscription} {selector : Selector}
    (hs : ofSubscription s = .ok selector) (h : source.NeverFails selector.platform) (x : σ) :
    ∃ rs y, Yields (selector.select source) x rs y ∧
      (s.strategy = .lexical ∨ s.strategy = .digest ∨ s.limit = 1 ∨
          (∀ tags z, Yields source.listTags x tags z → (tags.filter selector.admits).Nodup) →
        (rs.map (·.tag)).Nodup) ∧
      (∀ tags image, source.Answers selector.platform tags image →
        ((rs.map (·.tag)).Nodup ↔ ∀ t, 2 ≤ (selector.candidates image tags).count t →
          s.limit ≤ ((selector.candidates image tags).filter fun a =>
            selector.compareTags image a t == .lt).length + 1)) ∧
      ∀ (policy : RetentionPolicy) (kept : RetentionSource),
        ((policy.retain s selector.admits rs kept).map (·.tag)).Nodup ↔
          (rs.map (·.tag)).Nodup := by
  obtain ⟨tags, z, hz⟩ := h.lists x
  obtain ⟨-, rs, y, hy, -, -, hsub, hlen, -⟩ := exists_yields_select_asked h hz
  have hlimit := (limit_and_rule_of_ofSubscription hs).1
  have hpool (hp : (selector.pool tags).Nodup) : (rs.map (·.tag)).Nodup :=
    List.nodup_iff_count.2 fun t => Nat.le_trans (hsub.count_le t) (List.nodup_iff_count.1 hp t)
  refine ⟨rs, y, hy, ?_, fun tags image ha => ?_, fun policy kept =>
    RetentionPolicy.nodup_tags_retain_iff⟩
  · rintro (hl | hd | hone | hlisted)
    · exact hpool (nodup_pool_of_strategy hs (.inl hl) tags)
    · exact hpool (nodup_pool_of_strategy hs (.inr hd) tags)
    · have hlen' : (rs.map (·.tag)).length ≤ 1 := by
        rw [List.length_map, ← hone, ← hlimit]
        exact hlen
      exact List.nodup_iff_count.2 fun t => Nat.le_trans List.count_le_length hlen'
    · exact hpool (nodup_pool (hlisted tags z hz))
  · rw [← hlimit]
    exact nodup_select_of_answers_iff ha hy

end

/-- Of two places, one is taken by the newer version, so that the tag that is listed twice is found
once. -/
theorem nodup_tags_select_listing :
    let s := { ImageSubscription.ofRepo "registry/web" with discoveryLimit := 2 }
    let source : TagSource (StateM Unit) := .listing ["v1.0.0", "v2.0.0", "v1.0.0"]
    ∃ selector, ofSubscription s = .ok selector ∧ source.NeverFails selector.platform ∧
      ∃ rs y, Yields (selector.select source) () rs y ∧ (rs.map (·.tag)).Nodup := by
  intro s source
  let selector : Selector := ⟨⟨none, []⟩, none, 2, .versions none true⟩
  have hs : ofSubscription s = .ok selector := rfl
  have ha := TagSource.answers_listing (σ := Unit) selector.platform ["v1.0.0", "v2.0.0", "v1.0.0"]
  obtain ⟨rs, y, hy, -, hiff, -⟩ := nodup_tags_select hs ha.neverFails ()
  refine ⟨selector, hs, ha.neverFails, rs, y, hy, (hiff _ _ ha).2 fun t ht => ?_⟩
  have hcandidates : selector.candidates (fun t => some (.listed t))
      ["v1.0.0", "v2.0.0", "v1.0.0"] = ["v1.0.0", "v2.0.0", "v1.0.0"] := by
    decide +kernel
  rw [hcandidates] at ht ⊢
  have hbefore : (["v1.0.0", "v2.0.0", "v1.0.0"].filter fun a =>
      selector.compareTags (fun t => some (.listed t)) a "v1.0.0" == .lt).length = 1 := by
    decide +kernel
  have hmem := List.count_pos_iff.1 (Nat.lt_of_lt_of_le Nat.zero_lt_two ht)
  simp only [List.mem_cons, List.not_mem_nil, or_false] at hmem
  rcases hmem with rfl | rfl | rfl
  · rw [hbefore]
    exact Nat.le_refl 2
  · exact absurd ht (by decide)
  · rw [hbefore]
    exact Nat.le_refl 2

/-- **A tag that is listed twice can be found twice.** -/
theorem exists_repeated_tag :
    ∃ (s : ImageSubscription) (selector : Selector) (source : TagSource (StateM Unit)),
      ofSubscription s = .ok selector ∧ source.NeverFails selector.platform ∧
        ∃ rs y, Yields (selector.select source) () rs y ∧ ¬ (rs.map (·.tag)).Nodup := by
  refine ⟨.ofRepo "registry/web", ⟨⟨none, []⟩, none, 20, .versions none true⟩,
    .listing ["v1.0.0", "v1.0.0"], rfl, (TagSource.answers_listing ..).neverFails,
    [.listed "v1.0.0", .listed "v1.0.0"], (), ?_, by decide⟩
  simp only [select, rankVersions_eq_insertionSort]
  decide +kernel

end Selector

end ImageDiscovery
