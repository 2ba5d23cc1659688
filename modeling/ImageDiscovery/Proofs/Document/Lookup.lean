import ImageDiscovery.Document.Dictionary

/-!
# Lookup in dictionaries

A dictionary is determined by what is found at its keys, and an insertion changes what is found at
its own key only. Two ways of building a dictionary from a list are read off as lookups: with values
that are functions of their keys, and with the first of several values at a key.

## Main results

* `Document.lookup_filter_ne` — lookup in an association list without the entries of a key.
* `Document.mem_iff_lookup_of_nodup` — the entries of a list without repeated keys.
* `Document.Dictionary.find?_insert` — lookup after an insertion.
* `Document.Dictionary.mem_entries_iff` — the entries are what is found.
* `Document.Dictionary.ext_find?` — dictionaries with the same lookups are the same.
* `Document.Dictionary.find?_foldl_insert`, `Document.Dictionary.find?_foldl_first` — the two ways
  of building a dictionary.
-/

namespace ImageDiscovery.Document

section

variable {κ α : Type} [BEq κ] [LawfulBEq κ] [DecidableEq κ]

theorem lookup_cons_eq_ite (e : κ × α) (es : List (κ × α)) (k : κ) :
    (e :: es).lookup k = if k = e.1 then some e.2 else es.lookup k := by
  rw [List.lookup_cons]
  by_cases h : k = e.1
  · rw [if_pos h, beq_iff_eq.2 h]
  · rw [if_neg h, beq_eq_false_iff_ne.2 h]

/-- Without the entries of a key, the lookups at other keys are the same. -/
theorem lookup_filter_ne (es : List (κ × α)) (a k : κ) :
    (es.filter (·.1 != a)).lookup k = if k = a then none else es.lookup k := by
  induction es with
  | nil => rw [List.filter_nil, List.lookup_nil, ite_self]
  | cons e es ih =>
    rw [List.filter_cons, lookup_cons_eq_ite]
    split
    · next he =>
      rw [lookup_cons_eq_ite, ih]
      by_cases hk : k = e.1
      · rw [if_pos hk, if_neg (hk ▸ bne_iff_ne.1 he), if_pos hk]
      · rw [if_neg hk, if_neg hk]
    · next he =>
      rw [ih]
      by_cases hk : k = a
      · rw [if_pos hk, if_pos hk]
      · have hke : k ≠ e.1 := fun h => he (bne_iff_ne.2 (h ▸ hk))
        rw [if_neg hk, if_neg hk, if_neg hke]

/-- Where keys do not repeat, the entries are what is found. -/
theorem mem_iff_lookup_of_nodup {es : List (κ × α)} (h : (es.map (·.1)).Nodup) {e : κ × α} :
    e ∈ es ↔ es.lookup e.1 = some e.2 := by
  induction es with
  | nil => exact iff_of_false List.not_mem_nil (Option.some_ne_none _).symm
  | cons d es ih =>
    rw [List.map_cons, List.nodup_cons] at h
    rw [lookup_cons_eq_ite, List.mem_cons]
    by_cases hk : e.1 = d.1
    · have hnot : e ∉ es := fun he => h.1 (hk ▸ List.mem_map_of_mem he)
      rw [if_pos hk, or_iff_left hnot, Option.some.injEq, Prod.ext_iff, and_iff_right hk, eq_comm]
    · have hne : e ≠ d := fun he => hk (congrArg Prod.fst he)
      rw [if_neg hk, or_iff_right hne, ih h.2]

end

namespace Dictionary

variable {α β : Type}

theorem lookup_insertEntry (key : String) (value : α) (es : List (String × α)) (k : String) :
    (insertEntry key value es).lookup k = if k = key then some value else es.lookup k := by
  induction es with
  | nil => rw [insertEntry, lookup_cons_eq_ite]
  | cons e es ih =>
    unfold insertEntry
    split
    · rw [lookup_cons_eq_ite]
    · split
      · next heq =>
        rw [lookup_cons_eq_ite, lookup_cons_eq_ite, ← heq]
        by_cases h : k = key <;> simp only [h, if_true, if_false]
      · next hne =>
        rw [lookup_cons_eq_ite, lookup_cons_eq_ite, ih]
        by_cases h : k = key
        · subst h
          simp only [hne, if_true, if_false]
        · simp only [h, if_false]

/-- An insertion changes what is found at its own key only. -/
@[simp] theorem find?_insert (d : Dictionary α) (key : String) (value : α) (k : String) :
    (d.insert key value).find? k = if k = key then some value else d.find? k :=
  lookup_insertEntry key value d.entries k

@[simp] theorem find?_empty (k : String) : (empty : Dictionary α).find? k = none := rfl

theorem mem_entries_of_find? {d : Dictionary α} {k : String} {a : α} (h : d.find? k = some a) :
    (k, a) ∈ d.entries := by
  obtain ⟨as, bs, hes, -⟩ := List.lookup_eq_some_iff.1 h
  rw [hes]
  exact List.mem_append_right _ List.mem_cons_self

/-- The entries of a dictionary are what is found in it. -/
theorem mem_entries_iff {d : Dictionary α} {k : String} {a : α} :
    (k, a) ∈ d.entries ↔ d.find? k = some a := by
  refine ⟨fun h => ?_, mem_entries_of_find?⟩
  -- The entry that the lookup finds stands first, and keys do not repeat.
  obtain ⟨as, bs, hes⟩ := List.append_of_mem h
  refine List.lookup_eq_some_iff.2 ⟨as, bs, hes, fun e he => ?_⟩
  have hs := d.sorted
  rw [hes, List.pairwise_append] at hs
  exact bne_iff_ne.2 fun hk => String.lt_irrefl _ (hk ▸ hs.2.2 e he (k, a) List.mem_cons_self)

/-- Dictionaries in which the same is found are the same. -/
theorem ext_find? {d e : Dictionary α} (h : ∀ k, d.find? k = e.find? k) : d = e := by
  have hnodup (d : Dictionary α) : d.entries.Nodup :=
    d.sorted.imp fun {a b} hab (heq : a = b) => String.lt_irrefl b.1 (heq ▸ hab)
  have hperm : d.entries.Perm e.entries :=
    (List.perm_ext_iff_of_nodup (hnodup d) (hnodup e)).2 fun ⟨k, a⟩ => by
      rw [mem_entries_iff, mem_entries_iff, h k]
  have heq : d.entries = e.entries := hperm.eq_of_pairwise
    (fun a b _ _ hab hba => absurd hba (String.lt_asymm hab)) d.sorted e.sorted
  cases d
  cases e
  congr

/-- A dictionary of values that are functions of their keys. -/
theorem find?_foldl_insert (key : β → String) (value : String → α) (bs : List β) (d : Dictionary α)
    (k : String) :
    (bs.foldl (fun d b => d.insert (key b) (value (key b))) d).find? k =
      if k ∈ bs.map key then some (value k) else d.find? k := by
  induction bs generalizing d with
  | nil => simp only [List.foldl_nil, List.map_nil, List.not_mem_nil, if_false]
  | cons b bs ih =>
    rw [List.foldl_cons, ih, find?_insert, List.map_cons]
    by_cases hb : k = key b
    · simp only [hb, List.mem_cons, true_or, if_true, ite_self]
    · simp only [hb, List.mem_cons, false_or, if_false]

/-- A dictionary in which the first of several values at a key counts. -/
theorem find?_foldl_first (key : α → String) (as : List α) (d : Dictionary α) (k : String) :
    (as.foldl (fun d a => if (d.find? (key a)).isSome then d else d.insert (key a) a) d).find? k =
      (d.find? k).or (as.find? (key · == k)) := by
  induction as generalizing d with
  | nil => simp only [List.foldl_nil, List.find?_nil, Option.or_none]
  | cons a as ih =>
    rw [List.foldl_cons, ih, List.find?_cons]
    by_cases hk : key a = k
    · subst hk
      rw [BEq.rfl]
      cases hd : d.find? (key a) with
      | none =>
        rw [if_neg (by simp), find?_insert, if_pos rfl, Option.some_or, Option.none_or]
      | some b => rw [if_pos (by simp), hd, Option.some_or, Option.some_or]
    · rw [beq_eq_false_iff_ne.2 hk]
      split
      · rfl
      · rw [find?_insert, if_neg (Ne.symm hk)]

/-- The keys of a dictionary ascend. -/
theorem pairwise_keys (d : Dictionary α) : (d.entries.map (·.1)).Pairwise (· < ·) :=
  List.pairwise_map.2 d.sorted

theorem nodup_keys (d : Dictionary α) : (d.entries.map (·.1)).Nodup :=
  d.pairwise_keys.imp String.ne_of_lt

theorem mem_keys_iff {d : Dictionary α} {k : String} :
    k ∈ d.entries.map (·.1) ↔ ∃ a, d.find? k = some a := by
  simp only [List.mem_map, Prod.exists, exists_and_right, exists_eq_right, mem_entries_iff]

end Dictionary

end ImageDiscovery.Document
