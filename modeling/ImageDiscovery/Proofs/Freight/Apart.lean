import Mathlib.Data.List.Basic
import ImageDiscovery.Proofs.Freight.Map

/-!
# Warehouses with one name in the index

The index names a warehouse by its namespace and its name with a slash between them. Nothing keeps
slashes out of namespaces and names, so that two warehouses may have one name in the index: the
namespace of one goes on, behind a slash, with what the name of the other begins with. The active
freight that is listed for a warehouse came from it exactly if no freight in the index came from
such a warehouse; where namespaces have no slashes there is none.

## Main definitions

* `Straddles` — a warehouse begins within the name of another one.

## Main results

* `warehouseKey_eq_iff` — when two warehouses have one name in the index.
* `FreightIndex.active_apart_iff` — when the freight that is listed for a warehouse came from it.
* `FreightIndex.exists_foreign_active` — freight is listed for a warehouse that it did not come
  from.
-/

namespace ImageDiscovery

/-- The second namespace goes on behind the first one, after a slash, and the first name has there
what is before the second one. -/
def Straddles (ns warehouse ns' warehouse' : String) : Prop :=
  ∃ between, ns' = ns ++ "/" ++ between ∧ warehouse = between ++ "/" ++ warehouse'

theorem toList_append_slash_append (a b : String) :
    (a ++ "/" ++ b).toList = a.toList ++ '/' :: b.toList := by
  rw [String.toList_append, String.toList_append, List.append_assoc]
  rfl

theorem straddles_iff {ns warehouse ns' warehouse' : String} :
    Straddles ns warehouse ns' warehouse' ↔ ∃ between, ns'.toList = ns.toList ++ '/' :: between ∧
      warehouse.toList = between ++ '/' :: warehouse'.toList := by
  constructor
  · rintro ⟨between, rfl, rfl⟩
    exact ⟨between.toList, toList_append_slash_append .., toList_append_slash_append ..⟩
  · rintro ⟨between, hns, hwarehouse⟩
    refine ⟨String.ofList between, String.toList_inj.1 ?_, String.toList_inj.1 ?_⟩
    · rw [hns, toList_append_slash_append, String.toList_ofList]
    · rw [hwarehouse, toList_append_slash_append, String.toList_ofList]

/-- Two warehouses have one name in the index if they are the same or one begins within the name of
the other. -/
theorem warehouseKey_eq_iff {ns warehouse ns' warehouse' : String} :
    warehouseKey ns warehouse = warehouseKey ns' warehouse' ↔
      ns = ns' ∧ warehouse = warehouse' ∨ Straddles ns warehouse ns' warehouse' ∨
        Straddles ns' warehouse' ns warehouse := by
  rw [warehouseKey, warehouseKey, ← String.toList_inj, toList_append_slash_append,
    toList_append_slash_append, List.append_eq_append_iff, straddles_iff, straddles_iff]
  constructor
  · rintro (⟨as, hns, h⟩ | ⟨as, hns, h⟩)
    · rcases List.cons_eq_append_iff.1 h with ⟨rfl, heq⟩ | ⟨between, rfl, hwarehouse⟩
      · rw [List.append_nil] at hns
        exact .inl ⟨String.toList_inj.1 hns.symm, String.toList_inj.1 (List.cons.inj heq).2.symm⟩
      · exact .inr (.inl ⟨between, hns, hwarehouse⟩)
    · rcases List.cons_eq_append_iff.1 h with ⟨rfl, heq⟩ | ⟨between, rfl, hwarehouse⟩
      · rw [List.append_nil] at hns
        exact .inl ⟨String.toList_inj.1 hns, String.toList_inj.1 (List.cons.inj heq).2⟩
      · exact .inr (.inr ⟨between, hns, hwarehouse⟩)
  · rintro (⟨rfl, rfl⟩ | ⟨between, hns, hwarehouse⟩ | ⟨between, hns, hwarehouse⟩)
    · exact .inl ⟨[], (List.append_nil _).symm, rfl⟩
    · exact .inl ⟨'/' :: between, hns, congrArg _ hwarehouse⟩
    · exact .inr ⟨'/' :: between, hns, congrArg _ hwarehouse⟩

theorem Straddles.ne {ns warehouse ns' warehouse' : String}
    (h : Straddles ns warehouse ns' warehouse') : ns ≠ ns' := by
  obtain ⟨between, hns, -⟩ := straddles_iff.1 h
  rintro rfl
  have hlength := congrArg List.length hns
  rw [List.length_append, List.length_cons] at hlength
  omega

/-- A warehouse begins within the name of another one only if its namespace has a slash. -/
theorem Straddles.slash_mem {ns warehouse ns' warehouse' : String}
    (h : Straddles ns warehouse ns' warehouse') : '/' ∈ ns'.toList := by
  obtain ⟨between, hns, -⟩ := straddles_iff.1 h
  rw [hns]
  exact List.mem_append_right _ List.mem_cons_self

/-- Freight is at a warehouse in the index if it came from there, or from a warehouse with the same
name in the index. -/
theorem Freight.warehouseKey?_eq_some_iff {f : Freight} {ns warehouse : String} :
    f.warehouseKey? = some (warehouseKey ns warehouse) ↔ f.origin.name ≠ "" ∧
      (f.metadata.ns = ns ∧ f.origin.name = warehouse ∨
        Straddles f.metadata.ns f.origin.name ns warehouse ∨
        Straddles ns warehouse f.metadata.ns f.origin.name) := by
  rw [warehouseKey?, ← warehouseKey_eq_iff]
  by_cases h : f.origin.name = ""
  · rw [if_pos (String.isEmpty_iff.2 h)]
    exact iff_of_false nofun fun hname => hname.1 h
  · rw [if_neg (mt String.isEmpty_iff.1 h), Option.some.injEq, and_iff_right h]

/-- The freight came from a warehouse that has the name of the given one in the index and is another
one. -/
def Freight.Clashes (f : Freight) (ns warehouse : String) : Prop :=
  f.origin.name ≠ "" ∧ (Straddles f.metadata.ns f.origin.name ns warehouse ∨
    Straddles ns warehouse f.metadata.ns f.origin.name)

theorem Freight.Clashes.ne {f : Freight} {ns warehouse : String} (h : f.Clashes ns warehouse) :
    f.metadata.ns ≠ ns := by
  rcases h.2 with h | h
  · exact h.ne
  · exact h.ne.symm

/-- Freight does not clash with a warehouse where neither namespace has a slash. -/
theorem Freight.not_clashes_of_slash_not_mem {f : Freight} {ns warehouse : String}
    (hf : '/' ∉ f.metadata.ns.toList) (hns : '/' ∉ ns.toList) : ¬ f.Clashes ns warehouse := by
  rintro ⟨-, h | h⟩
  · exact hns h.slash_mem
  · exact hf h.slash_mem

namespace FreightIndex

variable {i : FreightIndex}

theorem Consistent.mem_active_iff_or_clashes (h : i.Consistent) {ns warehouse : String}
    {f : Freight} : f ∈ i.active ns warehouse ↔ (∃ id, i.find? id = some f) ∧
      f.isActive = true ∧ (f.origin.name ≠ "" ∧ f.metadata.ns = ns ∧ f.origin.name = warehouse ∨
        f.Clashes ns warehouse) := by
  rw [h.mem_active_iff, Freight.warehouseKey?_eq_some_iff, Freight.Clashes, ← and_or_left,
    and_comm (b := f.isActive = true)]

/-- All freight that is listed for a warehouse came from it, if no active freight clashes with
it. -/
theorem Consistent.active_apart_iff (h : i.Consistent) {ns warehouse : String} :
    (∀ f ∈ i.active ns warehouse, f.metadata.ns = ns ∧ f.origin.name = warehouse) ↔
      ∀ id f, i.find? id = some f → f.isActive = true → ¬ f.Clashes ns warehouse := by
  constructor
  · intro hall id f hf ha hc
    have hmem := h.mem_active_iff_or_clashes.2 ⟨⟨id, hf⟩, ha, .inr hc⟩
    exact hc.ne (hall f hmem).1
  · intro hnone f hmem
    obtain ⟨⟨id, hf⟩, ha, ⟨-, hsame⟩ | hc⟩ := h.mem_active_iff_or_clashes.1 hmem
    · exact hsame
    · exact absurd hc (hnone id f hf ha)

/-- **When warehouses are kept apart.** Two warehouses have one name in the index exactly if they
are the same or one begins within the name of the other. After any run of changes, the active
freight that is listed for a warehouse came from it exactly if no active freight in the index
clashes with the warehouse; and none does where no namespace has a slash. -/
theorem active_apart_after_run_iff (fs : List Freight) (cs : List FreightChange)
    (ns warehouse : String) :
    let i := (FreightChange.run FreightIndex.perform (.ofList fs) cs).2
    (∀ ns' warehouse', warehouseKey ns warehouse = warehouseKey ns' warehouse' ↔
      ns = ns' ∧ warehouse = warehouse' ∨ Straddles ns warehouse ns' warehouse' ∨
        Straddles ns' warehouse' ns warehouse) ∧
    ((∀ f ∈ i.active ns warehouse, f.metadata.ns = ns ∧ f.origin.name = warehouse) ↔
      ∀ id f, i.find? id = some f → f.isActive = true → ¬ f.Clashes ns warehouse) ∧
    ('/' ∉ ns.toList → (∀ id f, i.find? id = some f → '/' ∉ f.metadata.ns.toList) →
      ∀ f ∈ i.active ns warehouse, f.metadata.ns = ns ∧ f.origin.name = warehouse) := by
  have hi := ((represents_ofList fs).run cs).2.tidy.consistent
  refine ⟨fun _ _ => warehouseKey_eq_iff, hi.active_apart_iff, fun hns hall => ?_⟩
  exact hi.active_apart_iff.2 fun id f hf _ =>
    Freight.not_clashes_of_slash_not_mem (hall id f hf) hns

/-- Active freight from the warehouse `web/api` of the namespace `team`. -/
def slashed : Freight := (Freight.ofWarehouse "team" "first" "web/api").inStage "prod" ⟨none⟩

/-- **Warehouses are not always kept apart.** Freight of the namespace `team` is listed for a
warehouse of the namespace `team/web`, with which it shares the name in the index. -/
theorem exists_foreign_active :
    ∃ fs cs ns warehouse,
      ∃ f ∈ (FreightChange.run FreightIndex.perform (.ofList fs) cs).2.active ns warehouse,
        f.metadata.ns ≠ ns ∧ f.origin.name ≠ warehouse ∧
          f.warehouseKey? = (Freight.ofWarehouse ns "second" warehouse).warehouseKey? := by
  refine ⟨[], [.insert slashed], "team/web", "api", slashed, ?_, ?_, ?_, ?_⟩
  · decide
  · decide
  · decide
  · decide

end FreightIndex

end ImageDiscovery
