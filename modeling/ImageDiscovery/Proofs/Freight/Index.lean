import ImageDiscovery.Freight.Index
import ImageDiscovery.Proofs.Document.Lookup

/-!
# Consistency of the index of freight

The index holds freight by its identifier, and beside it the identifiers for each warehouse. It is
consistent when the second part says what the first one does: an identifier stands at a warehouse
exactly if the freight with this identifier came from there. Inserting and removing keep an index
consistent, so that the active freight of a warehouse is all the active freight that came from it.

## Main definitions

* `FreightIndex.Consistent` — the identifiers of each warehouse are those of its freight.

## Main results

* `FreightIndex.Consistent.remove`, `FreightIndex.Consistent.insert` — the steps.
* `FreightIndex.consistent_ofList` — an index that is built from a list is consistent.
* `FreightIndex.Consistent.mem_active_iff` — the active freight of a warehouse.
-/

namespace ImageDiscovery

open Document

namespace FreightId

theorem eq_of_compare {a b : FreightId} (h : a.compare b = .eq) : a = b := by
  obtain ⟨hns, hname⟩ := Ordering.then_eq_eq.1 h
  cases a
  cases b
  rw [FreightId.mk.injEq]
  exact ⟨Std.LawfulEqOrd.eq_of_compare hns, Std.LawfulEqOrd.eq_of_compare hname⟩

theorem mem_insertInto {a b : FreightId} {ids : List FreightId} :
    a ∈ b.insertInto ids ↔ a = b ∨ a ∈ ids := by
  induction ids with
  | nil => rw [insertInto, List.mem_singleton, or_iff_left List.not_mem_nil]
  | cons d ds ih =>
    unfold insertInto
    split
    · rw [List.mem_cons]
    · next heq =>
      rw [eq_of_compare heq, List.mem_cons, or_iff_right_of_imp Or.inl]
    · rw [List.mem_cons, ih, List.mem_cons, or_left_comm]

end FreightId

namespace FreightIndex

variable {i : FreightIndex}

/-! ### Lookups after a step -/

theorem idsOf_setIds (key : String) (ids : List FreightId) (k : String) :
    (i.setIds key ids).idsOf k = if k = key then ids else i.idsOf k := by
  unfold idsOf setIds
  by_cases hk : k = key
  · rw [if_pos hk]
    split
    · next h => rw [lookup_filter_ne, if_pos hk, List.isEmpty_iff.1 h, Option.getD_none]
    · rw [lookup_cons_eq_ite, if_pos hk, Option.getD_some]
  · rw [if_neg hk]
    split
    · rw [lookup_filter_ne, if_neg hk]
    · rw [lookup_cons_eq_ite, if_neg hk, lookup_filter_ne, if_neg hk]

/-- After a removal, nothing is found at the identifier, and the same at others. -/
@[simp] theorem find?_remove (id k : FreightId) :
    (i.remove id).find? k = if k = id then none else i.find? k := by
  unfold remove
  split
  · next h =>
    split
    · next hk => rw [hk, h]
    · rfl
  · next f h =>
    have hfilter : (i.objects.filter (·.1 != id)).lookup k =
        if k = id then none else i.objects.lookup k := lookup_filter_ne ..
    split <;> exact hfilter

/-- After an insertion, the freight is found at its identifier, and the same at others. -/
@[simp] theorem find?_insert (f : Freight) (k : FreightId) :
    (i.insert f).find? k = if k = f.id then some f else i.find? k := by
  have hcons (j : FreightIndex) (hj : ∀ k, j.find? k = (i.remove f.id).find? k) :
      ((f.id, f) :: j.objects).lookup k = if k = f.id then some f else i.find? k := by
    rw [lookup_cons_eq_ite]
    by_cases hk : k = f.id
    · rw [if_pos hk, if_pos hk]
    · rw [if_neg hk, if_neg hk]
      exact (hj k).trans ((find?_remove ..).trans (if_neg hk))
  unfold insert
  cases h : f.warehouseKey? with
  | none => exact hcons _ fun _ => rfl
  | some key => exact hcons _ fun _ => rfl

/-- After a removal, the identifier does not stand at the warehouse of its freight. -/
theorem mem_idsOf_remove {id k : FreightId} {key : String} : k ∈ (i.remove id).idsOf key ↔
    k ∈ i.idsOf key ∧ ¬ (k = id ∧ (i.find? id).bind (·.warehouseKey?) = some key) := by
  unfold remove
  split
  · next h =>
    rw [h, Option.bind_none, and_iff_left]
    rintro ⟨-, hkey⟩
    cases hkey
  · next f h =>
    rw [h, Option.bind_some]
    cases hkey : f.warehouseKey? with
    | none =>
      rw [and_iff_left (fun hk => nomatch hk.2)]
      rfl
    | some key' =>
      simp only [idsOf_setIds]
      split
      · next heq =>
        rw [List.mem_filter, bne_iff_ne, heq, and_iff_left rfl]
        rfl
      · next hne =>
        rw [and_iff_left fun hk => hne (Option.some.inj hk.2).symm]
        rfl

/-- After an insertion, the identifier stands at the warehouse of its freight. -/
theorem mem_idsOf_insert {f : Freight} {k : FreightId} {key : String} :
    k ∈ (i.insert f).idsOf key ↔
      k = f.id ∧ f.warehouseKey? = some key ∨ k ∈ (i.remove f.id).idsOf key := by
  unfold insert
  cases hkey : f.warehouseKey? with
  | none =>
    rw [or_iff_right fun hk => nomatch hk.2]
    rfl
  | some key' =>
    have hids : k ∈ ((i.remove f.id).setIds key'
        (f.id.insertInto ((i.remove f.id).idsOf key'))).idsOf key ↔
          k = f.id ∧ some key' = some key ∨ k ∈ (i.remove f.id).idsOf key := by
      rw [idsOf_setIds, Option.some.injEq]
      split
      · next heq => rw [FreightId.mem_insertInto, heq, and_iff_left rfl]
      · next hne => rw [or_iff_right fun hk => hne hk.2.symm]
    exact hids

/-! ### The invariant -/

/-- An identifier stands at a warehouse exactly if its freight came from there. -/
def Consistent (i : FreightIndex) : Prop :=
  ∀ key id, id ∈ i.idsOf key ↔ (i.find? id).bind (·.warehouseKey?) = some key

theorem consistent_empty : empty.Consistent := by
  intro key id
  simp [empty, idsOf, FreightIndex.find?]

/-- Removing freight keeps the index consistent. -/
theorem Consistent.remove (h : i.Consistent) (id : FreightId) : (i.remove id).Consistent := by
  intro key k
  rw [mem_idsOf_remove, find?_remove, h]
  by_cases hk : k = id
  · rw [if_pos hk, Option.bind_none, hk]
    exact ⟨fun ⟨hid, hnot⟩ => absurd ⟨rfl, hid⟩ hnot, fun hnone => nomatch hnone⟩
  · rw [if_neg hk, and_iff_left fun hid => hk hid.1]

/-- Inserting freight keeps the index consistent. -/
theorem Consistent.insert (h : i.Consistent) (f : Freight) : (i.insert f).Consistent := by
  intro key k
  rw [mem_idsOf_insert, h.remove f.id, find?_remove, find?_insert]
  by_cases hk : k = f.id
  · rw [if_pos hk, if_pos hk, Option.bind_none, Option.bind_some, and_iff_right hk,
      or_iff_left fun hnone => nomatch hnone]
  · rw [if_neg hk, if_neg hk, or_iff_right fun hid => hk hid.1]

/-- An index that is built from a list is consistent. -/
theorem consistent_ofList (fs : List Freight) : (ofList fs).Consistent := by
  have hfold (i : FreightIndex) (h : i.Consistent) :
      (fs.foldl FreightIndex.insert i).Consistent := by
    induction fs generalizing i with
    | nil => exact h
    | cons f fs ih => exact ih _ (h.insert f)
  exact hfold empty consistent_empty

/-- The active freight of a warehouse is what the index holds of it. -/
theorem Consistent.mem_active_iff (h : i.Consistent) {ns warehouse : String} {f : Freight} :
    f ∈ i.active ns warehouse ↔ (∃ id, i.find? id = some f) ∧
      f.warehouseKey? = some (warehouseKey ns warehouse) ∧ f.isActive = true := by
  unfold active
  rw [List.mem_filter, List.mem_filterMap]
  constructor
  · rintro ⟨⟨id, hid, hf⟩, ha⟩
    rw [h, hf, Option.bind_some] at hid
    exact ⟨⟨id, hf⟩, hid, ha⟩
  · rintro ⟨⟨id, hf⟩, hkey, ha⟩
    refine ⟨⟨id, ?_, hf⟩, ha⟩
    rw [h, hf, Option.bind_some, hkey]

end FreightIndex

end ImageDiscovery
