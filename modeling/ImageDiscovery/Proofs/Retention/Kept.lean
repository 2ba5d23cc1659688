import ImageDiscovery.Proofs.Document.Lookup
import ImageDiscovery.Retention

/-!
# Kept references

What retention adds to the discovered references is a dictionary by tag. This file reads the
dictionary off as a lookup: from freight, a tag in use yields a reference that says no more than the
tag; from the references of the pass before, a tag yields the first reference with it that was kept
then. In both cases the tag has to be admitted, and not to be among the discovered ones.

A reference is *flagged* when it is kept for its use in active freight only. Where no discovered
reference is flagged, the flagged references of a result are the kept ones, so that what one pass
keeps can be read off its result by the next.

## Main definitions

* `InUse` — some active freight holds a tag of a repository.
* `RetentionSource.reference?` — what a source has for a tag.
* `RetentionPolicy.kept` — the kept references by tag.

## Main results

* `RetentionPolicy.retain_eq` — the discovered references and the kept ones after them.
* `RetentionPolicy.find?_kept` — what is kept.
* `RetentionPolicy.nodup_tags_retain_iff` — retention does not repeat tags.
* `RetentionPolicy.find?_isFlagged_retain` — what was kept can be read off a result.
-/

namespace ImageDiscovery

open Document

/-- Some active freight of the list holds the tag in an image of the repository. -/
def InUse (freight : List Freight) (repoUrl tag : String) : Prop :=
  ∃ f ∈ freight, f.isActive = true ∧ ∃ i ∈ f.images, i.repoUrl = repoUrl ∧ i.tag = tag

instance (freight : List Freight) (repoUrl tag : String) : Decidable (InUse freight repoUrl tag) :=
  inferInstanceAs (Decidable (∃ _ ∈ _, _))

/-- Freight from the warehouse `team/web` that holds two tags of `registry/web` in production. -/
def Freight.deployed : Freight :=
  (((ofWarehouse "team" "first" "web").withImage ⟨"registry/web", "v0", ""⟩).withImage
    ⟨"registry/web", "v1", ""⟩).inStage "prod" ⟨none⟩

/-- A reference with the tag that is kept for its use in active freight only. -/
def ImageReference.isFlagged (tag : String) (r : ImageReference) : Bool :=
  r.fromActiveFreight && r.tag == tag

theorem ImageReference.isFlagged_iff {tag : String} {r : ImageReference} :
    r.isFlagged tag = true ↔ r.fromActiveFreight = true ∧ r.tag = tag := by
  rw [isFlagged, Bool.and_eq_true, beq_iff_eq]

/-- What a source has for a tag of a repository: freight has a reference that says no more than the
tag, if the tag is in use, and the pass before has its first flagged reference with the tag. -/
def RetentionSource.reference? (repoUrl tag : String) : RetentionSource → Option ImageReference
  | .fresh freight => if tag ≠ "" ∧ InUse freight repoUrl tag then some (.retained tag) else none
  | .cached previous => previous.find? (·.isFlagged tag)

theorem RetentionSource.reference?_fresh_eq_some_iff {freight : List Freight}
    {repoUrl tag : String} {r : ImageReference} :
    (fresh freight).reference? repoUrl tag = some r ↔
      r = .retained tag ∧ tag ≠ "" ∧ InUse freight repoUrl tag := by
  rw [reference?]
  by_cases h : tag ≠ "" ∧ InUse freight repoUrl tag
  · simp only [h, if_pos, Option.some.injEq, eq_comm, ne_eq, not_false_eq_true, and_true]
  · simp only [h, if_false, reduceCtorEq, and_false]

theorem RetentionSource.isFlagged_of_reference? {source : RetentionSource} {repoUrl tag : String}
    {r : ImageReference} (h : source.reference? repoUrl tag = some r) : r.isFlagged tag = true := by
  cases source with
  | fresh freight =>
    obtain ⟨rfl, -, -⟩ := reference?_fresh_eq_some_iff.1 h
    exact ImageReference.isFlagged_iff.2 ⟨rfl, rfl⟩
  | cached previous =>
    have hfind : previous.find? (·.isFlagged tag) = some r := h
    exact List.find?_some hfind

namespace RetentionPolicy

variable {p : RetentionPolicy} {s : ImageSubscription} {admits : String → Bool}
  {discovered : List ImageReference} {source : RetentionSource} {t : String} {r : ImageReference}

/-! ### The two sources -/

/-- From freight, the tags in use that are wanted. -/
theorem find?_fromFreight {repoUrl : String} {wanted : String → Bool} {freight : List Freight} :
    (fromFreight repoUrl wanted freight).find? t =
      if wanted t = true then (RetentionSource.fresh freight).reference? repoUrl t else none := by
  rw [fromFreight, Dictionary.find?_foldl_insert (fun i : Freight.Image => i.tag),
    Dictionary.find?_empty]
  have hmem : t ∈ ((((freight.filter (·.isActive)).flatMap (·.images)).filter fun i =>
      i.repoUrl == repoUrl && !i.tag.isEmpty && wanted i.tag).map fun i => i.tag) ↔
      wanted t = true ∧ t ≠ "" ∧ InUse freight repoUrl t := by
    simp only [List.mem_map, List.mem_filter, List.mem_flatMap, Bool.and_eq_true, beq_iff_eq,
      Bool.not_eq_true', String.isEmpty_eq_false_iff, InUse]
    constructor
    · rintro ⟨i, ⟨⟨f, ⟨hf, ha⟩, hi⟩, ⟨hu, ht⟩, hw⟩, rfl⟩
      exact ⟨hw, ht, f, hf, ha, i, hi, hu, rfl⟩
    · rintro ⟨hw, ht, f, hf, ha, i, hi, hu, rfl⟩
      exact ⟨i, ⟨⟨f, ⟨hf, ha⟩, hi⟩, ⟨hu, ht⟩, hw⟩, rfl⟩
  cases hw : wanted t with
  | true => simp only [hmem, hw, true_and, if_true, RetentionSource.reference?]
  | false => simp only [hmem, hw, Bool.false_eq_true, false_and, if_false]

/-- From the pass before, the first flagged reference of each tag that is wanted. -/
theorem find?_fromPrevious {repoUrl : String} {wanted : String → Bool}
    {previous : List ImageReference} :
    (fromPrevious wanted previous).find? t =
      if wanted t = true then (RetentionSource.cached previous).reference? repoUrl t else none := by
  rw [fromPrevious, Dictionary.find?_foldl_first (fun r : ImageReference => r.tag),
    Dictionary.find?_empty, Option.none_or, List.find?_filter]
  split
  · next h =>
    unfold RetentionSource.reference?
    congr 1
    funext x
    by_cases hx : x.tag = t <;> simp [ImageReference.isFlagged, hx, h]
  · next h =>
    rw [List.find?_eq_none]
    rintro x - hx
    simp only [Bool.decide_and, Bool.decide_eq_true, Bool.and_eq_true, beq_iff_eq,
      decide_eq_true_eq] at hx
    exact h (hx.2 ▸ hx.1.2)

theorem find?_additions {repoUrl : String} {wanted : String → Bool} :
    (additions repoUrl wanted source).find? t =
      if wanted t = true then source.reference? repoUrl t else none := by
  cases source with
  | fresh freight => exact find?_fromFreight
  | cached previous => exact find?_fromPrevious

/-! ### The kept references -/

/-- The references that are kept beside the discovered ones, by tag. -/
def kept (p : RetentionPolicy) (s : ImageSubscription) (admits : String → Bool)
    (discovered : List ImageReference) (source : RetentionSource) : Dictionary ImageReference :=
  if p.appliesTo s.strategy then
    additions s.repoUrl (fun tag => !(discovered.any (·.tag == tag)) && admits tag) source
  else .empty

/-- Retention leaves the discovered references as they are and puts the kept ones after them. -/
theorem retain_eq (p : RetentionPolicy) (s : ImageSubscription) (admits : String → Bool)
    (discovered : List ImageReference) (source : RetentionSource) :
    p.retain s admits discovered source =
      discovered ++ (p.kept s admits discovered source).entries.map (·.2) := by
  cases h : p.appliesTo s.strategy with
  | true => rw [retain_of_appliesTo h, kept, h, if_pos rfl]
  | false => simp [retain_of_not_appliesTo h, kept, h, Dictionary.empty]

private theorem wanted_iff :
    (!(discovered.any (·.tag == t)) && admits t) = true ↔
      admits t = true ∧ t ∉ discovered.map (·.tag) := by
  simp only [Bool.and_eq_true, Bool.not_eq_true', List.any_eq_false, beq_iff_eq, List.mem_map,
    not_exists, not_and]
  exact and_comm

/-- What the source has for a tag is kept if the policy applies, the tag is admitted and it was not
discovered. -/
theorem find?_kept : (p.kept s admits discovered source).find? t = some r ↔
    p.appliesTo s.strategy = true ∧ source.reference? s.repoUrl t = some r ∧ admits t = true ∧
      t ∉ discovered.map (·.tag) := by
  cases h : p.appliesTo s.strategy with
  | false => simp [kept, h]
  | true =>
    simp only [kept, h, if_true, find?_additions, wanted_iff, true_and]
    split
    · next hw => simp only [hw, not_false_eq_true, and_true]
    · next hw => simp only [hw, reduceCtorEq, and_false]

/-- A kept reference is flagged, stands at its tag, and is admitted but was not discovered. -/
theorem of_find?_kept (h : (p.kept s admits discovered source).find? t = some r) :
    r.isFlagged t = true ∧ admits t = true ∧ t ∉ discovered.map (·.tag) := by
  obtain ⟨-, hr, ha, hd⟩ := find?_kept.1 h
  exact ⟨RetentionSource.isFlagged_of_reference? hr, ha, hd⟩

theorem mem_values_kept :
    r ∈ (p.kept s admits discovered source).entries.map (·.2) ↔
      (p.kept s admits discovered source).find? r.tag = some r := by
  rw [List.mem_map]
  constructor
  · rintro ⟨⟨t, r'⟩, hmem, rfl⟩
    have h := Dictionary.mem_entries_iff.1 hmem
    rwa [(ImageReference.isFlagged_iff.1 (of_find?_kept h).1).2]
  · exact fun h => ⟨(r.tag, r), Dictionary.mem_entries_iff.2 h, rfl⟩

theorem find?_kept_iff_mem_values :
    (p.kept s admits discovered source).find? t = some r ↔
      r.tag = t ∧ r ∈ (p.kept s admits discovered source).entries.map (·.2) := by
  rw [mem_values_kept]
  constructor
  · intro h
    obtain rfl := (ImageReference.isFlagged_iff.1 (of_find?_kept h).1).2
    exact ⟨rfl, h⟩
  · rintro ⟨rfl, h⟩
    exact h

theorem mem_retain :
    r ∈ p.retain s admits discovered source ↔
      r ∈ discovered ∨ (p.kept s admits discovered source).find? r.tag = some r := by
  rw [retain_eq, List.mem_append, mem_values_kept]

/-- The kept references stand at their tags. -/
theorem map_tag_values_kept : ((p.kept s admits discovered source).entries.map (·.2)).map (·.tag) =
    (p.kept s admits discovered source).entries.map (·.1) := by
  rw [List.map_map]
  refine List.map_congr_left fun ⟨t, r⟩ he => ?_
  exact (ImageReference.isFlagged_iff.1 (of_find?_kept (Dictionary.mem_entries_iff.1 he)).1).2

/-- The kept references are in ascending order of their tags. -/
theorem pairwise_kept :
    ((p.kept s admits discovered source).entries.map (·.2)).Pairwise fun x y => x.tag < y.tag :=
  List.pairwise_map.1 (map_tag_values_kept ▸ Dictionary.pairwise_keys _)

/-- Retention does not repeat tags. -/
theorem nodup_tags_retain_iff : ((p.retain s admits discovered source).map (·.tag)).Nodup ↔
    (discovered.map (·.tag)).Nodup := by
  let d := p.kept s admits discovered source
  rw [retain_eq, List.map_append, List.nodup_append, map_tag_values_kept]
  refine ⟨fun h => h.1, fun h => ⟨h, d.nodup_keys, fun t ht u hu heq => ?_⟩⟩
  obtain ⟨r, hr⟩ := Dictionary.mem_keys_iff.1 hu
  exact (of_find?_kept hr).2.2 (heq ▸ ht)

/-- Where no discovered reference with the tag is flagged, what was kept can be read off the
result. -/
theorem find?_isFlagged_retain (hd : ∀ x ∈ discovered, ¬ x.isFlagged t = true) :
    (p.retain s admits discovered source).find? (·.isFlagged t) =
      (p.kept s admits discovered source).find? t := by
  rw [retain_eq, List.find?_append, List.find?_eq_none.2 hd, Option.none_or]
  cases h : (p.kept s admits discovered source).find? t with
  | none =>
    refine List.find?_eq_none.2 fun x hx hf => ?_
    rw [mem_values_kept, (ImageReference.isFlagged_iff.1 hf).2, h] at hx
    cases hx
  | some x =>
    have hx := of_find?_kept h
    have hmem : x ∈ (p.kept s admits discovered source).entries.map (·.2) := by
      rw [mem_values_kept, (ImageReference.isFlagged_iff.1 hx.1).2, h]
    obtain ⟨y, hy⟩ := Option.isSome_iff_exists.1
      (List.find?_isSome (p := (·.isFlagged t)) |>.2 ⟨x, hmem, hx.1⟩)
    -- The dictionary has one reference at the tag, so that the one found is `x`.
    have hyt := (ImageReference.isFlagged_iff.1 (List.find?_some hy)).2
    have hyx := mem_values_kept.1 (List.mem_of_find?_eq_some hy)
    rw [hyt, h] at hyx
    rw [hy, hyx]

theorem find?_isFlagged_retain_of_unflagged
    (hd : ∀ x ∈ discovered, x.fromActiveFreight = false) (t : String) :
    (p.retain s admits discovered source).find? (·.isFlagged t) =
      (p.kept s admits discovered source).find? t :=
  find?_isFlagged_retain fun x hx hf =>
    Bool.false_ne_true ((hd x hx).symm.trans (ImageReference.isFlagged_iff.1 hf).1)

theorem find?_isFlagged_retain_of_not_mem (hd : t ∉ discovered.map (·.tag)) :
    (p.retain s admits discovered source).find? (·.isFlagged t) =
      (p.kept s admits discovered source).find? t :=
  find?_isFlagged_retain fun _ hx hf =>
    hd (List.mem_map.2 ⟨_, hx, (ImageReference.isFlagged_iff.1 hf).2⟩)

end RetentionPolicy

end ImageDiscovery
