import ImageDiscovery.Document.Reading
import ImageDiscovery.Proofs.Document.Lookup
import Mathlib.Data.List.Nodup

/-!
# Records and their documents

A record is written as a mapping with its fields in order, where a field may be left out, and is
read field by field. A reader restores a value from its document if it reads it as that value; lists
and dictionaries are restored if what they hold is. A field that is left out is restored if it is
optional and nothing, or if its value is the default that is taken for a missing one.

## Main definitions

* `Document.Restores` — a reader restores a value from its document.
* `Document.present` — the entries of the fields that are not left out.
* `Document.Fields.Agrees` — the fields of a record are the given ones.

## Main results

* `Document.bind_record_present` — a record is read from the fields that it was written with.
* `Document.Fields.required_eq`, `Document.Fields.orDefault_eq`,
  `Document.Fields.orDefault_eq_of_skip`, `Document.Fields.optional_eq` — what is read in a field.
* `Document.Restores.list`, `Document.Restores.dictionary` — lists and dictionaries.
-/

namespace ImageDiscovery.Document

variable {α β : Type} {read : Reader α} {toNode : α → Node} {a : α}

/-- A reader restores a value from its document, and the document does not stand for nothing. -/
structure Restores (read : Reader α) (toNode : α → Node) (a : α) : Prop where
  read_eq : read (toNode a) = some a
  isNull_eq : (toNode a).isNull = false

/-! ### Values -/

/-- The signed numbers of 64 bits. -/
def IsSigned (i : Int) : Prop := -9223372036854775808 ≤ i ∧ i ≤ 9223372036854775807

theorem restores_text (s : String) : Restores Node.readText .text s := ⟨rfl, rfl⟩

theorem restores_bool (b : Bool) : Restores Node.readBool .bool b := ⟨rfl, rfl⟩

theorem restores_signed {i : Int} (h : IsSigned i) : Restores Node.readSigned .integer i where
  read_eq := if_pos h
  isNull_eq := rfl

theorem restores_unsigned {n : Nat} (h : n ≤ Text.wordMax) :
    Restores Node.readUnsigned (fun n : Nat => .integer n) n where
  read_eq := by
    have hn : (0 : Int) ≤ n ∧ (n : Int) ≤ 18446744073709551615 := by
      rw [Text.wordMax] at h
      omega
    rw [Node.readUnsigned, show Node.readInteger _ _ (.integer (n : Int)) = some (n : Int) from
      if_pos hn, Option.map_some, Int.toNat_natCast]
  isNull_eq := rfl

/-- A name is restored if it is the one that stands for the value. -/
theorem restores_name {names : List (String × α)} {name : α → String}
    (h : names.lookup (name a) = some a) :
    Restores (Node.readName names) (fun a => .text (name a)) a :=
  ⟨h, rfl⟩

/-- Each item of a list is read again. -/
theorem mapM_map_eq {write : α → β} {read : β → Option α} {as : List α}
    (h : ∀ a ∈ as, read (write a) = some a) : (as.map write).mapM read = some as := by
  induction as with
  | nil => rfl
  | cons a as ih =>
    obtain ⟨ha, has⟩ := List.forall_mem_cons.1 h
    rw [List.map_cons, List.mapM_cons, ha, ih has]
    rfl

/-- A list is restored if its items are. -/
theorem restores_list {as : List α} (h : ∀ a ∈ as, Restores read toNode a) :
    Restores (Node.readList read) (fun as => .array (as.map toNode)) as :=
  ⟨mapM_map_eq fun a ha => (h a ha).read_eq, rfl⟩

/-- A dictionary is restored if its values are. -/
theorem restores_dictionary {d : Dictionary α} (h : ∀ e ∈ d.entries, Restores read toNode e.2) :
    Restores (Node.readDictionary read) (fun d => .mapping (d.map toNode).entries) d where
  read_eq := by
    have hentries : (d.entries.map fun e => (e.1, toNode e.2)).mapM
        (fun e => do return (e.1, ← read e.2)) = some d.entries :=
      mapM_map_eq fun e he => by rw [(h e he).read_eq]; rfl
    rw [Node.readDictionary, Dictionary.map, hentries]
    exact congrArg some d.ofList_entries
  isNull_eq := rfl

theorem Dictionary.eq_empty_of_isEmpty {d : Dictionary α} (h : d.isEmpty = true) : d = .empty := by
  obtain ⟨entries, sorted⟩ := d
  obtain rfl : entries = [] := List.isEmpty_iff.1 h
  rfl

/-! ### Records -/

/-- The entries of the fields that are not left out. -/
def present (fs : List (String × Option Node)) : List (String × Node) :=
  fs.flatMap fun e => Node.field? e.1 e.2

/-- The fields of a record are the given ones. -/
def Fields.Agrees (f : Fields) : List (String × Option Node) → Prop
  | [] => True
  | (name, value) :: fs => f name = value ∧ f.Agrees fs

variable {fs : List (String × Option Node)} {names : List String}

@[simp] theorem present_nil : present [] = [] := rfl

@[simp] theorem present_cons (name : String) (value : Option Node)
    (fs : List (String × Option Node)) :
    present ((name, value) :: fs) = Node.field? name value ++ present fs := rfl

@[simp] theorem field?_none (name : String) : Node.field? name none = [] := rfl

@[simp] theorem field?_some (name : String) (n : Node) : Node.field? name (some n) = [(name, n)] :=
  rfl

/-- A field that is left out in a case leaves no entry then. -/
@[simp] theorem field?_skip (name : String) (skip : Prop) [Decidable skip] (n : Node) :
    Node.field? name (if skip then none else some n) = if skip then [] else [(name, n)] := by
  split <;> rfl

theorem sublist_present (fs : List (String × Option Node)) :
    ((present fs).map (·.1)).Sublist (fs.map (·.1)) := by
  induction fs with
  | nil => exact .slnil
  | cons e fs ih =>
    obtain ⟨name, value⟩ := e
    cases value with
    | none => exact ih.cons name
    | some n => exact ih.cons_cons name

/-- A field that is left out leaves no entry, and no other field has its name. -/
theorem lookup_present (h : (fs.map (·.1)).Nodup) {e : String × Option Node} (he : e ∈ fs) :
    (present fs).lookup e.1 = e.2 := by
  induction fs with
  | nil => exact absurd he List.not_mem_nil
  | cons d fs ih =>
    obtain ⟨name, value⟩ := d
    have hfs := (List.nodup_cons.1 h).2
    have hname : name ∉ fs.map (·.1) := (List.nodup_cons.1 h).1
    rw [present_cons]
    rcases List.mem_cons.1 he with rfl | hmem
    · cases value with
      | none =>
        refine List.lookup_eq_none_iff.2 fun p hp => bne_iff_ne.2 fun heq => hname ?_
        exact (sublist_present fs).mem (List.mem_map.2 ⟨p, hp, heq.symm⟩)
      | some n =>
        rw [Node.field?, List.singleton_append, lookup_cons_eq_ite, if_pos rfl]
    · have hne : e.1 ≠ name := fun heq => hname (List.mem_map.2 ⟨e, hmem, heq⟩)
      cases value with
      | none => exact ih hfs hmem
      | some n =>
        rw [Node.field?, List.singleton_append, lookup_cons_eq_ite, if_neg hne]
        exact ih hfs hmem

theorem distinctAmong_present (h : (fs.map (·.1)).Nodup) (names : List String) :
    Node.distinctAmong names (present fs) = true := by
  refine List.all_eq_true.2 fun name _ => decide_eq_true ?_
  have hcount := List.nodup_iff_count_le_one.1 (h.sublist (sublist_present fs)) name
  rwa [List.count, List.countP_map, List.countP_eq_length_filter] at hcount

theorem agrees_of_forall {f : Fields} (h : ∀ e ∈ fs, f e.1 = e.2) : f.Agrees fs := by
  induction fs with
  | nil => trivial
  | cons e fs ih =>
    obtain ⟨he, hfs⟩ := List.forall_mem_cons.1 h
    exact ⟨he, ih hfs⟩

/-- A record is read from its own fields among those that a mapping was written with. -/
theorem bind_record_present_of_subset {gs : List (String × Option Node)} {keys : List String}
    {k : Fields → Option α} (hkeys : fs.map (·.1) = keys) (hnodup : keys.Nodup) (hsub : gs ⊆ fs)
    (hnames : gs.map (·.1) = names) (h : ∀ f : Fields, f.Agrees gs → k f = some a) :
    ((Node.mapping (present fs)).record names >>= k) = some a := by
  rw [← hkeys] at hnodup
  rw [Node.record, if_pos (distinctAmong_present hnodup names)]
  refine h _ (agrees_of_forall fun e he => ?_)
  have hmem : e.1 ∈ names := hnames ▸ List.mem_map.2 ⟨e, he, rfl⟩
  rw [if_pos (List.contains_iff_mem.2 hmem), lookup_present hnodup (hsub he)]

/-- A record is read from the fields that it was written with. -/
theorem bind_record_present {k : Fields → Option α} (hnames : fs.map (·.1) = names)
    (hnodup : names.Nodup) (h : ∀ f : Fields, f.Agrees fs → k f = some a) :
    ((Node.mapping (present fs)).record names >>= k) = some a :=
  bind_record_present_of_subset hnames hnodup (List.Subset.refl fs) hnames h

namespace Fields

variable {f : Fields} {name : String}

theorem required_eq (ha : Restores read toNode a) (h : f name = some (toNode a)) :
    f.required name read = some a := by
  rw [required, h]
  exact ha.read_eq

theorem orDefault_eq {d : α} (ha : Restores read toNode a) (h : f name = some (toNode a)) :
    f.orDefault name read d = some a := by
  rw [orDefault, h]
  exact ha.read_eq

/-- A field that is left out for its default is read as the default. -/
theorem orDefault_eq_of_skip {d : α} {skip : Bool} (ha : Restores read toNode a)
    (hskip : skip = true → a = d) (h : f name = if skip then none else some (toNode a)) :
    f.orDefault name read d = some a := by
  cases skip with
  | true =>
    rw [orDefault, h, hskip rfl]
    rfl
  | false => exact orDefault_eq ha h

theorem optional_eq {v : Option α} (hv : ∀ a ∈ v, Restores read toNode a)
    (h : f name = v.map toNode) : f.optional name read = some v := by
  cases v with
  | none =>
    rw [optional, orDefault, h]
    rfl
  | some a =>
    rw [optional, orDefault, h]
    obtain ⟨hread, hnull⟩ := hv a rfl
    change Node.readOption read (toNode a) = _
    rw [Node.readOption, hnull, if_neg Bool.false_ne_true, hread, Option.map_some]

end Fields

end ImageDiscovery.Document
