import ImageDiscovery.Proofs.Retention.Kept
import ImageDiscovery.Proofs.Text.Bytes

/-!
# What a retention adds

Retention is described without its dictionary. A source *offers* references: freight offers one for
each tag in use, which says no more than the tag, and the pass before offers, of its flagged
references with the same tag, the first one. If the policy applies, then those offered references
stand after the discovered ones whose tags are admitted and were not discovered, in ascending order
of the bytes of their tags. Otherwise nothing is added.

## Main definitions

* `RetentionSource.Offers` — the references that a source offers for a repository.
* `RetentionSource.Holds` — the tags of these references.

## Main results

* `RetentionSource.exists_offers_iff` — a source offers one reference for each tag it holds.
* `RetentionPolicy.retain_eq_append_offered` — the result of a retention.
-/

namespace ImageDiscovery

open Text

namespace RetentionSource

variable {source : RetentionSource} {repoUrl tag : String} {r : ImageReference}

/-- The references that a source offers. Freight offers the tags of images of the repository in
active freight; the pass before offers a flagged reference if none before it has the same tag. -/
inductive Offers (repoUrl : String) : RetentionSource → ImageReference → Prop
  | fresh {freight : List Freight} {f : Freight} {i : Freight.Image} (hf : f ∈ freight)
      (hactive : f.isActive = true) (hi : i ∈ f.images) (hrepo : i.repoUrl = repoUrl)
      (htag : i.tag ≠ "") : Offers repoUrl (.fresh freight) (.retained i.tag)
  | cached {r : ImageReference} {before after : List ImageReference}
      (hflag : r.fromActiveFreight = true)
      (hfirst : ∀ x ∈ before, x.fromActiveFreight = true → x.tag ≠ r.tag) :
      Offers repoUrl (.cached (before ++ r :: after)) r

/-- The tags that a source offers references for. -/
def Holds (repoUrl tag : String) : RetentionSource → Prop
  | .fresh freight => tag ≠ "" ∧ InUse freight repoUrl tag
  | .cached previous => ∃ r ∈ previous, r.fromActiveFreight = true ∧ r.tag = tag

/-- What a source has for the tag of a reference is the reference exactly if it offers it. -/
theorem reference?_tag_eq_some_iff :
    source.reference? repoUrl r.tag = some r ↔ source.Offers repoUrl r := by
  cases source with
  | fresh freight =>
    rw [reference?_fresh_eq_some_iff]
    constructor
    · rintro ⟨hr, htag, f, hf, hactive, i, hi, hrepo, hi'⟩
      rw [hr, ← hi']
      exact .fresh hf hactive hi hrepo (hi' ▸ htag)
    · rintro (⟨hf, hactive, hi, hrepo, htag⟩ | _)
      exact ⟨rfl, htag, _, hf, hactive, _, hi, hrepo, rfl⟩
  | cached previous =>
    rw [reference?, List.find?_eq_some_iff_append, ImageReference.isFlagged_iff]
    have hfirst (before : List ImageReference) :
        (∀ x ∈ before, (!x.isFlagged r.tag) = true) ↔
          ∀ x ∈ before, x.fromActiveFreight = true → x.tag ≠ r.tag := by
      simp only [Bool.not_eq_true', ← Bool.not_eq_true, ImageReference.isFlagged_iff, not_and,
        ne_eq]
    constructor
    · rintro ⟨⟨hflag, -⟩, before, after, rfl, hbefore⟩
      exact .cached hflag ((hfirst before).1 hbefore)
    · intro h
      cases h with
      | cached hflag hbefore => exact ⟨⟨hflag, rfl⟩, _, _, rfl, (hfirst _).2 hbefore⟩

/-- A source offers a reference for each tag it holds. -/
theorem exists_offers_iff : (∃ r, source.Offers repoUrl r ∧ r.tag = tag) ↔
    source.Holds repoUrl tag := by
  have href : (∃ r, source.Offers repoUrl r ∧ r.tag = tag) ↔
      ∃ r, source.reference? repoUrl tag = some r := by
    refine exists_congr fun r => ⟨?_, fun h => ?_⟩
    · rintro ⟨h, rfl⟩
      exact reference?_tag_eq_some_iff.2 h
    · obtain rfl := (ImageReference.isFlagged_iff.1 (isFlagged_of_reference? h)).2
      exact ⟨reference?_tag_eq_some_iff.1 h, rfl⟩
  rw [href]
  cases source with
  | fresh freight => simp only [reference?_fresh_eq_some_iff, exists_eq_left, Holds]
  | cached previous =>
    rw [reference?, ← Option.isSome_iff_exists, List.find?_isSome]
    exact exists_congr fun r => and_congr_right fun _ => ImageReference.isFlagged_iff

end RetentionSource

namespace RetentionPolicy

/-- **The result of a retention.** If the policy does not apply, the discovered references are the
result. Otherwise they come first, and after them, in ascending order of the bytes of their tags,
come the references that the source offers and whose tags are admitted and were not discovered; so
the tags that are added are those that the source holds, as far as they are admitted and were not
discovered. Distinct tags stay distinct. -/
theorem retain_eq_append_offered (p : RetentionPolicy) (s : ImageSubscription)
    (admits : String → Bool) (discovered : List ImageReference) (source : RetentionSource) :
    (p.appliesTo s.strategy = false ∧ p.retain s admits discovered source = discovered ∨
      p.appliesTo s.strategy = true ∧ ∃ added : List ImageReference,
        p.retain s admits discovered source = discovered ++ added ∧
        added.Pairwise (fun x y => Utf8.bytes x.tag < Utf8.bytes y.tag) ∧
        (∀ r ∈ added, r.tag ∉ discovered.map (·.tag)) ∧
        (∀ r, r ∈ added ↔ source.Offers s.repoUrl r ∧ admits r.tag = true ∧
          r.tag ∉ discovered.map (·.tag)) ∧
        ∀ t, t ∈ added.map (·.tag) ↔ source.Holds s.repoUrl t ∧ admits t = true ∧
          t ∉ discovered.map (·.tag)) ∧
    ((discovered.map (·.tag)).Nodup →
      ((p.retain s admits discovered source).map (·.tag)).Nodup) := by
  refine ⟨?_, nodup_tags_retain_iff.2⟩
  cases h : p.appliesTo s.strategy with
  | false => exact .inl ⟨rfl, retain_of_not_appliesTo h ..⟩
  | true =>
    have hmem (r : ImageReference) : r ∈ (p.kept s admits discovered source).entries.map (·.2) ↔
        source.Offers s.repoUrl r ∧ admits r.tag = true ∧ r.tag ∉ discovered.map (·.tag) := by
      simp only [mem_values_kept, find?_kept, h, true_and,
        RetentionSource.reference?_tag_eq_some_iff]
    refine .inr ⟨rfl, _, p.retain_eq .., pairwise_kept.imp Utf8.lt_iff_bytes_lt.1,
      fun r hr => ((hmem r).1 hr).2.2, hmem, fun t => ?_⟩
    rw [List.mem_map, ← RetentionSource.exists_offers_iff]
    simp only [hmem]
    constructor
    · rintro ⟨r, ⟨hr, ha, hd⟩, rfl⟩
      exact ⟨⟨r, hr, rfl⟩, ha, hd⟩
    · rintro ⟨⟨r, hr, rfl⟩, ha, hd⟩
      exact ⟨r, ⟨hr, ha, hd⟩, rfl⟩

end RetentionPolicy

end ImageDiscovery
