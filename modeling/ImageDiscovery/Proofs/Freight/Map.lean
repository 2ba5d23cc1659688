import Mathlib.Data.List.Nodup
import ImageDiscovery.Proofs.Freight.Index

/-!
# The index of freight as a map

The index answers as a map from identifiers to freight does. Freight that comes in takes the place
of what stood at its identifier, freight that leaves is handed back, and the active freight of a
warehouse is what a scan of the whole map finds, in the order of the identifiers. What makes the
lookup by warehouse agree with the scan is kept by each change: no identifier is held twice, the
identifiers of each warehouse ascend, and a warehouse without freight leaves no trace.

## Main definitions

* `FreightMap`, `FreightMap.scan` — maps from identifiers to freight, and a scan of all freight.
* `FreightChange` — what can happen to an index or a map, and runs of changes.
* `FreightIndex.Grouped`, `FreightIndex.Tidy` — the invariant of the index.
* `FreightIndex.Represents` — an index stands for a map.

## Main results

* `FreightIndex.Tidy.insert`, `FreightIndex.Tidy.remove` — the invariant is kept.
* `FreightIndex.Represents.active_eq_scan` — the active freight of a warehouse is found by a scan.
* `FreightIndex.answers_as_map` — the index answers as a map does after any run.
-/

namespace ImageDiscovery

open Document

/-! ### The order of identifiers -/

namespace FreightId

instance : Std.TransCmp FreightId.compare :=
  inferInstanceAs (Std.TransCmp (compareLex (compareOn FreightId.ns) (compareOn FreightId.name)))

instance : Std.LawfulEqCmp FreightId.compare where
  eq_of_compare := eq_of_compare

theorem compare_self (id : FreightId) : id.compare id = .eq := Std.ReflCmp.compare_self

/-- The identifiers ascend, so that none is repeated. -/
def Ascending (ids : List FreightId) : Prop := ids.Pairwise fun a b => a.compare b = .lt

theorem Ascending.insertInto {ids : List FreightId} (h : Ascending ids) (id : FreightId) :
    Ascending (id.insertInto ids) := by
  induction ids with
  | nil => exact List.pairwise_singleton ..
  | cons d ds ih =>
    obtain ⟨hd, hds⟩ := List.pairwise_cons.1 h
    unfold FreightId.insertInto
    split
    · next hlt =>
      refine List.pairwise_cons.2 ⟨fun a ha => ?_, h⟩
      rcases List.mem_cons.1 ha with rfl | ha
      · exact hlt
      · exact Std.TransCmp.lt_trans hlt (hd a ha)
    · exact h
    · next hgt =>
      refine List.pairwise_cons.2 ⟨fun a ha => ?_, ih hds⟩
      rcases mem_insertInto.1 ha with rfl | ha
      · exact Std.OrientedCmp.gt_iff_lt.1 hgt
      · exact hd a ha

/-- A list of freight whose identifiers ascend is determined by its members. -/
theorem eq_of_ascending {fs gs : List Freight} (hf : Ascending (fs.map (·.id)))
    (hg : Ascending (gs.map (·.id))) (h : ∀ f, f ∈ fs ↔ f ∈ gs) : fs = gs := by
  have hirrefl (f : Freight) : f.id.compare f.id ≠ .lt := by
    rw [FreightId.compare_self]
    decide
  have hnodup {fs : List Freight} (hf : Ascending (fs.map (·.id))) : fs.Nodup := by
    refine (List.pairwise_map.1 hf).imp fun {a b} hab heq => ?_
    exact hirrefl b (heq ▸ hab : b.id.compare b.id = .lt)
  refine ((List.perm_ext_iff_of_nodup (hnodup hf) (hnodup hg)).2 h).eq_of_pairwise
    (fun a b _ _ hab hba => ?_) (List.pairwise_map.1 hf) (List.pairwise_map.1 hg)
  exact absurd (Std.TransCmp.lt_trans hab hba) (hirrefl a)

end FreightId

/-! ### Maps and changes -/

/-- A map from identifiers to freight. -/
abbrev FreightMap := Std.ExtTreeMap FreightId Freight FreightId.compare

/-- What can happen to an index or a map of freight. -/
inductive FreightChange where
  /-- Freight comes in, in place of any other with its identifier. -/
  | insert (f : Freight)
  /-- The freight of an identifier is taken out. -/
  | take (id : FreightId)

namespace FreightChange

/-- A run of changes from a state: what each of them hands back, and the state after them. -/
def run {σ : Type} (perform : σ → FreightChange → Option Freight × σ) :
    σ → List FreightChange → List (Option Freight) × σ
  | s, [] => ([], s)
  | s, c :: cs =>
    let (answer, next) := perform s c
    let (answers, last) := run perform next cs
    (answer :: answers, last)

end FreightChange

namespace FreightMap

/-- The map after a change, with what the change hands back. -/
def perform (m : FreightMap) : FreightChange → Option Freight × FreightMap
  | .insert f => (none, m.insert f.id f)
  | .take id => (m[id]?, m.erase id)

/-- The map of a list; later freight replaces earlier freight with the same identifier. -/
def ofFreight (fs : List Freight) : FreightMap := fs.foldl (fun m f => m.insert f.id f) ∅

/-- The active freight of a warehouse, found by looking at all freight in the order of the
identifiers. -/
def scan (m : FreightMap) (ns warehouse : String) : List Freight :=
  (m.toList.map (·.2)).filter fun f =>
    f.isActive && f.warehouseKey? == some (warehouseKey ns warehouse)

end FreightMap

namespace FreightIndex

variable {i : FreightIndex} {m : FreightMap}

/-- The index after a change, with what the change hands back. -/
def perform (i : FreightIndex) : FreightChange → Option Freight × FreightIndex
  | .insert f => (none, i.insert f)
  | .take id => i.take id

/-! ### The invariant -/

/-- Identifiers in groups: no group stands twice, and each has identifiers that ascend. -/
structure Grouped (groups : List (String × List FreightId)) : Prop where
  nodup_keys : (groups.map (·.1)).Nodup
  ne_nil : ∀ e ∈ groups, e.2 ≠ []
  ascending : ∀ e ∈ groups, FreightId.Ascending e.2

theorem Grouped.setIds (h : Grouped i.byWarehouse) (key : String) {ids : List FreightId}
    (hids : FreightId.Ascending ids) : Grouped (i.setIds key ids).byWarehouse := by
  have hothers : Grouped (i.byWarehouse.filter (·.1 != key)) := {
    nodup_keys := h.nodup_keys.sublist (List.filter_sublist.map _)
    ne_nil := fun e he => h.ne_nil e (List.mem_filter.1 he).1
    ascending := fun e he => h.ascending e (List.mem_filter.1 he).1 }
  unfold FreightIndex.setIds
  split
  · exact hothers
  · next hne =>
    refine ⟨List.nodup_cons.2 ⟨fun hmem => ?_, hothers.nodup_keys⟩,
      List.forall_mem_cons.2 ⟨fun hnil => hne (List.isEmpty_iff.2 hnil), hothers.ne_nil⟩,
      List.forall_mem_cons.2 ⟨hids, hothers.ascending⟩⟩
    obtain ⟨e, he, hkey⟩ := List.mem_map.1 hmem
    exact bne_iff_ne.1 (List.mem_filter.1 he).2 hkey

theorem Grouped.idsOf (h : Grouped i.byWarehouse) (key : String) :
    FreightId.Ascending (i.idsOf key) := by
  unfold FreightIndex.idsOf
  cases hids : i.byWarehouse.lookup key with
  | none => exact List.Pairwise.nil
  | some ids => exact h.ascending (key, ids) ((mem_iff_lookup_of_nodup h.nodup_keys).2 hids)

/-- Freight is held at its own identifier and no identifier twice, and the identifiers of the
warehouses are those of their freight. -/
structure Tidy (i : FreightIndex) : Prop where
  nodup_ids : (i.objects.map (·.1)).Nodup
  id_eq : ∀ e ∈ i.objects, e.2.id = e.1
  grouped : Grouped i.byWarehouse
  consistent : i.Consistent

theorem tidy_empty : empty.Tidy where
  nodup_ids := List.nodup_nil
  id_eq := nofun
  grouped := ⟨List.nodup_nil, nofun, nofun⟩
  consistent := consistent_empty

/-- Removing freight takes its entry away and no other. -/
theorem objects_remove (id : FreightId) :
    (i.remove id).objects = i.objects.filter (·.1 != id) := by
  unfold remove
  split
  · next h =>
    refine (List.filter_eq_self.2 fun e he => ?_).symm
    rw [bne_comm]
    exact List.lookup_eq_none_iff.1 h e he
  · split <;> rfl

theorem objects_insert (f : Freight) :
    (i.insert f).objects = (f.id, f) :: (i.remove f.id).objects := by
  unfold insert
  split <;> rfl

/-- Removing freight keeps the index tidy. -/
theorem Tidy.remove (h : i.Tidy) (id : FreightId) : (i.remove id).Tidy where
  nodup_ids := by
    rw [objects_remove]
    exact h.nodup_ids.sublist (List.filter_sublist.map _)
  id_eq := by
    rw [objects_remove]
    exact fun e he => h.id_eq e (List.mem_filter.1 he).1
  grouped := by
    unfold FreightIndex.remove
    split
    · exact h.grouped
    · split
      · exact h.grouped
      · exact Grouped.setIds (i := ⟨_, _⟩) h.grouped _ ((h.grouped.idsOf _).filter _)
  consistent := h.consistent.remove id

/-- Inserting freight keeps the index tidy. -/
theorem Tidy.insert (h : i.Tidy) (f : Freight) : (i.insert f).Tidy where
  nodup_ids := by
    rw [objects_insert, objects_remove]
    refine List.nodup_cons.2 ⟨fun hmem => ?_, h.nodup_ids.sublist (List.filter_sublist.map _)⟩
    obtain ⟨e, he, heq⟩ := List.mem_map.1 hmem
    exact bne_iff_ne.1 (List.mem_filter.1 he).2 heq
  id_eq := by
    rw [objects_insert]
    exact List.forall_mem_cons.2 ⟨rfl, (h.remove f.id).id_eq⟩
  grouped := by
    have hr := (h.remove f.id).grouped
    unfold FreightIndex.insert
    split
    · exact hr
    · exact hr.setIds _ ((hr.idsOf _).insertInto _)
  consistent := h.consistent.insert f

theorem Tidy.id_of_find? (h : i.Tidy) {id : FreightId} {f : Freight} (hf : i.find? id = some f) :
    f.id = id :=
  h.id_eq (id, f) ((mem_iff_lookup_of_nodup h.nodup_ids).2 hf)

/-! ### The index stands for a map -/

/-- The index is tidy, and the same is found in it as in the map. -/
structure Represents (i : FreightIndex) (m : FreightMap) : Prop where
  tidy : i.Tidy
  find?_eq : ∀ id, i.find? id = m[id]?

theorem represents_empty : Represents empty ∅ where
  tidy := tidy_empty
  find?_eq _ := Std.ExtTreeMap.getElem?_empty.symm

theorem Represents.insert (h : i.Represents m) (f : Freight) :
    (i.insert f).Represents (m.insert f.id f) where
  tidy := h.tidy.insert f
  find?_eq id := by
    rw [find?_insert, h.find?_eq, Std.ExtTreeMap.getElem?_insert]
    exact if_congr (eq_comm.trans Std.LawfulEqCmp.compare_eq_iff_eq.symm) rfl rfl

theorem Represents.remove (h : i.Represents m) (id : FreightId) :
    (i.remove id).Represents (m.erase id) where
  tidy := h.tidy.remove id
  find?_eq k := by
    rw [find?_remove, h.find?_eq, Std.ExtTreeMap.getElem?_erase]
    exact if_congr (eq_comm.trans Std.LawfulEqCmp.compare_eq_iff_eq.symm) rfl rfl

theorem represents_ofList (fs : List Freight) : (ofList fs).Represents (.ofFreight fs) := by
  have hfold (i : FreightIndex) (m : FreightMap) (h : i.Represents m) :
      (fs.foldl FreightIndex.insert i).Represents (fs.foldl (fun m f => m.insert f.id f) m) := by
    induction fs generalizing i m with
    | nil => exact h
    | cons f fs ih => exact ih _ _ (h.insert f)
  exact hfold empty ∅ represents_empty

/-- A change hands back the same on both sides, and the index stands for the map after it. -/
theorem Represents.perform (h : i.Represents m) (c : FreightChange) :
    (i.perform c).1 = (m.perform c).1 ∧ (i.perform c).2.Represents (m.perform c).2 := by
  cases c with
  | insert f => exact ⟨rfl, h.insert f⟩
  | take id => exact ⟨h.find?_eq id, h.remove id⟩

theorem Represents.run (h : i.Represents m) (cs : List FreightChange) :
    (FreightChange.run FreightIndex.perform i cs).1 =
        (FreightChange.run FreightMap.perform m cs).1 ∧
      (FreightChange.run FreightIndex.perform i cs).2.Represents
        (FreightChange.run FreightMap.perform m cs).2 := by
  induction cs generalizing i m with
  | nil => exact ⟨rfl, h⟩
  | cons c cs ih =>
    obtain ⟨hanswer, hnext⟩ := h.perform c
    obtain ⟨hanswers, hlast⟩ := ih hnext
    exact ⟨congrArg₂ List.cons hanswer hanswers, hlast⟩

/-- Both sides hold the same entries. -/
theorem Represents.perm_toList (h : i.Represents m) : i.objects.Perm m.toList := by
  have hm : (m.toList.map (·.1)).Nodup := by
    refine List.pairwise_map.2 (m.ordered_keys_toList.imp fun {a b} hab heq => ?_)
    rw [heq, FreightId.compare_self] at hab
    cases hab
  refine (List.perm_ext_iff_of_nodup (.of_map _ h.tidy.nodup_ids) (.of_map _ hm)).2 fun e => ?_
  rw [mem_iff_lookup_of_nodup h.tidy.nodup_ids, ← Prod.eta e,
    Std.ExtTreeMap.mem_toList_iff_getElem?_eq_some, ← h.find?_eq]
  rfl

theorem Represents.size_eq (h : i.Represents m) : i.size = m.size :=
  h.perm_toList.length_eq.trans Std.ExtTreeMap.length_toList

theorem Represents.isEmpty_eq (h : i.Represents m) : i.isEmpty = m.isEmpty := by
  rw [FreightIndex.isEmpty, h.perm_toList.isEmpty_eq, Std.ExtTreeMap.isEmpty_toList]

/-! ### Active freight -/

/-- The active freight of a warehouse is listed in the order of its identifiers. -/
theorem Tidy.ascending_active (h : i.Tidy) (ns warehouse : String) :
    FreightId.Ascending ((i.active ns warehouse).map (·.id)) := by
  have hfound : ((i.idsOf (warehouseKey ns warehouse)).filterMap i.find?).Pairwise
      fun f g => f.id.compare g.id = .lt := by
    refine List.pairwise_filterMap.2 ((h.grouped.idsOf _).imp fun hab f hf g hg => ?_)
    rw [h.id_of_find? hf, h.id_of_find? hg]
    exact hab
  exact List.pairwise_map.2 (hfound.filter _)

theorem Represents.ascending_scan (h : i.Represents m) (ns warehouse : String) :
    FreightId.Ascending ((m.scan ns warehouse).map (·.id)) := by
  have hid (e : FreightId × Freight) (he : e ∈ m.toList) : e.2.id = e.1 :=
    h.tidy.id_eq e (h.perm_toList.mem_iff.2 he)
  have hall : (m.toList.map (·.2)).Pairwise fun f g => f.id.compare g.id = .lt := by
    refine List.pairwise_map.2 (m.ordered_keys_toList.imp_of_mem fun {a b} ha hb hab => ?_)
    rw [hid a ha, hid b hb]
    exact hab
  exact List.pairwise_map.2 (hall.filter _)

theorem Represents.mem_scan_iff (h : i.Represents m) {ns warehouse : String} {f : Freight} :
    f ∈ m.scan ns warehouse ↔ (∃ id, i.find? id = some f) ∧
      f.warehouseKey? = some (warehouseKey ns warehouse) ∧ f.isActive = true := by
  have hheld : f ∈ m.toList.map (·.2) ↔ ∃ id, i.find? id = some f := by
    simp only [List.mem_map, Prod.exists, exists_eq_right, h.find?_eq,
      Std.ExtTreeMap.mem_toList_iff_getElem?_eq_some]
  rw [FreightMap.scan, List.mem_filter, hheld, Bool.and_eq_true, beq_iff_eq,
    and_comm (a := _ = true)]

/-- The active freight of a warehouse is found by a scan of all freight. -/
theorem Represents.active_eq_scan (h : i.Represents m) (ns warehouse : String) :
    i.active ns warehouse = m.scan ns warehouse :=
  FreightId.eq_of_ascending (h.tidy.ascending_active ns warehouse) (h.ascending_scan ns warehouse)
    fun _ => h.tidy.consistent.mem_active_iff.trans h.mem_scan_iff.symm

/-- **The index answers as a map does.** After any run of changes from the index of a list, each
change has handed back what the map hands back; under each identifier the same freight is held, and
the sizes agree; the active freight of a warehouse is what a scan of the map finds, with ascending
identifiers; and the identifiers that stand at a warehouse are those of its freight, of which there
is at least one. -/
theorem answers_as_map (fs : List Freight) (cs : List FreightChange) :
    let (answers, i) := FreightChange.run FreightIndex.perform (.ofList fs) cs
    let (answersOfMap, m) := FreightChange.run FreightMap.perform (.ofFreight fs) cs
    answers = answersOfMap ∧ (∀ id, i.find? id = m[id]?) ∧
      i.size = m.size ∧ i.isEmpty = m.isEmpty ∧
      (∀ ns warehouse, i.active ns warehouse = m.scan ns warehouse ∧
        FreightId.Ascending ((i.active ns warehouse).map (·.id))) ∧
      (∀ key id, id ∈ i.idsOf key ↔ (m[id]?).bind (·.warehouseKey?) = some key) ∧
      (i.byWarehouse.map (·.1)).Nodup ∧ ∀ e ∈ i.byWarehouse, e.2 ≠ [] := by
  obtain ⟨hanswers, h⟩ := (represents_ofList fs).run cs
  refine ⟨hanswers, h.find?_eq, h.size_eq, h.isEmpty_eq, fun ns warehouse => ?_, fun key id => ?_,
    h.tidy.grouped.nodup_keys, h.tidy.grouped.ne_nil⟩
  · exact ⟨h.active_eq_scan ns warehouse, h.tidy.ascending_active ns warehouse⟩
  · rw [h.tidy.consistent, h.find?_eq]

end FreightIndex

end ImageDiscovery
