/-!
# Dictionaries

A dictionary holds values by key, in ascending order of the keys and at most one at each key. The
order is part of the type, so that a dictionary is determined by what it holds.

## Main definitions

* `Document.Dictionary` — values by key.
* `Document.Dictionary.insert`, `Document.Dictionary.ofList` — later values replace earlier ones.
* `Document.Dictionary.find?` — the value at a key.

## Main results

* `Document.Dictionary.ofList_entries` — a dictionary is made of its entries.
-/

namespace ImageDiscovery.Document

/-- Values by key, in ascending order of the keys. -/
structure Dictionary (α : Type) where
  entries : List (String × α)
  sorted : entries.Pairwise fun a b => a.1 < b.1
  deriving DecidableEq

namespace Dictionary

variable {α β : Type}

/-- No values. -/
def empty : Dictionary α := ⟨[], .nil⟩

instance : Inhabited (Dictionary α) := ⟨empty⟩

/-- There are no values. -/
def isEmpty (d : Dictionary α) : Bool := d.entries.isEmpty

/-- The value at a key. -/
def find? (d : Dictionary α) (key : String) : Option α := d.entries.lookup key

/-- Entries with one more at its place, or in place of the one with the same key. -/
def insertEntry (key : String) (value : α) : List (String × α) → List (String × α)
  | [] => [(key, value)]
  | e :: es =>
    if key < e.1 then (key, value) :: e :: es
    else if key = e.1 then (key, value) :: es
    else e :: insertEntry key value es

theorem fst_mem_insertEntry {key : String} {value : α} {es : List (String × α)} {e : String × α}
    (h : e ∈ insertEntry key value es) : e.1 = key ∨ e ∈ es := by
  induction es with
  | nil => simp_all [insertEntry]
  | cons d es ih =>
    unfold insertEntry at h
    split at h
    · grind
    · split at h <;> grind

theorem sorted_insertEntry {key : String} {value : α} {es : List (String × α)}
    (h : es.Pairwise fun a b => a.1 < b.1) :
    (insertEntry key value es).Pairwise fun a b => a.1 < b.1 := by
  induction es with
  | nil => simp [insertEntry]
  | cons d es ih =>
    rw [List.pairwise_cons] at h
    unfold insertEntry
    split
    · next hlt =>
      refine List.pairwise_cons.2 ⟨fun e he => ?_, List.pairwise_cons.2 h⟩
      rcases List.mem_cons.1 he with rfl | he
      · exact hlt
      · exact String.lt_trans hlt (h.1 e he)
    · split
      · next heq =>
        refine List.pairwise_cons.2 ⟨fun e he => ?_, h.2⟩
        exact heq ▸ h.1 e he
      · next hlt hne =>
        refine List.pairwise_cons.2 ⟨fun e he => ?_, ih h.2⟩
        rcases fst_mem_insertEntry he with hk | he
        · rw [hk]
          rcases Std.le_iff_lt_or_eq.1 (String.not_lt.1 hlt) with h | h
          · exact h
          · exact absurd h.symm hne
        · exact h.1 e he

/-- The dictionary with the value at the key, in place of any other there. -/
def insert (d : Dictionary α) (key : String) (value : α) : Dictionary α :=
  ⟨insertEntry key value d.entries, sorted_insertEntry d.sorted⟩

/-- The dictionary of a list of entries; of several at a key the last one counts. -/
def ofList (es : List (String × α)) : Dictionary α :=
  es.foldl (fun d e => d.insert e.1 e.2) empty

/-- The dictionary with a function applied to its values. -/
def map (f : α → β) (d : Dictionary α) : Dictionary β :=
  ⟨d.entries.map fun e => (e.1, f e.2), by simpa [List.pairwise_map] using d.sorted⟩

theorem insertEntry_append {key : String} {value : α} {es : List (String × α)}
    (h : ∀ e ∈ es, e.1 < key) : insertEntry key value es = es ++ [(key, value)] := by
  induction es with
  | nil => rfl
  | cons d es ih =>
    have hd := h d (by simp)
    rw [insertEntry, if_neg (String.lt_asymm hd), if_neg (fun he => by
      rw [he] at hd; exact String.lt_irrefl _ hd), ih fun e he => h e (by simp [he]),
      List.cons_append]

theorem foldl_insert {d : Dictionary α} {es : List (String × α)}
    (h : (d.entries ++ es).Pairwise fun a b => a.1 < b.1) :
    (es.foldl (fun d e => d.insert e.1 e.2) d).entries = d.entries ++ es := by
  induction es generalizing d with
  | nil => simp
  | cons e es ih =>
    have hb : ∀ a ∈ d.entries, a.1 < e.1 := fun a ha =>
      (List.pairwise_append.1 h).2.2 a ha e (by simp)
    have hi : (d.insert e.1 e.2).entries = d.entries ++ [e] := insertEntry_append hb
    rw [List.foldl_cons, ih (by rw [hi]; simpa using h), hi]
    simp

/-- A dictionary is made of its entries. -/
@[simp] theorem ofList_entries (d : Dictionary α) : ofList d.entries = d := by
  have h : (ofList d.entries).entries = d.entries := by
    simpa [ofList, empty] using foldl_insert (d := empty) (by simpa [empty] using d.sorted)
  cases hd : ofList d.entries
  cases d
  simp_all

end Dictionary

end ImageDiscovery.Document
