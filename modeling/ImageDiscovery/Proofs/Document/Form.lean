import Mathlib.Data.List.Induction
import Mathlib.Data.List.Nodup
import ImageDiscovery.Document.Reading
import ImageDiscovery.Proofs.Document.Lookup
import ImageDiscovery.Proofs.Outcome

/-!
# What documents say

A document value says a text, a number, values in order or values by key, and a record gives values
to its fields, by their names or by their places. These are relations between values and what they
say, and they do not tell how it is found out. A reader finds what a value says, and finds nothing
exactly where the value says nothing of the kind.

## Main definitions

* `Document.Form` — what values say; `Document.Finds` — a reader finds what values say.
* `Document.SaysText`, `Document.SaysUnsigned`, `Document.SaysList`, `Document.SaysDictionary` —
  texts, numbers, values in order and values by key.
* `Document.IsLastAt`, `Document.HasMember` — the value at a key that counts.
* `Document.IsRecord`, `Document.Gives` — records, and the values of their fields.
* `Document.Has`, `Document.HasOr`, `Document.MayHave` — what a record says in a field.

## Main results

* `Document.finds_text`, `Document.finds_unsigned`, `Document.finds_list`,
  `Document.finds_dictionary` — the readers of values.
* `Document.bind_record_eq_some_iff` — what is read from a record is said by its fields.
* `Document.Fields.Reflects.required_iff`, `Document.Fields.Reflects.orDefault_iff`,
  `Document.Fields.Reflects.optional_iff` — what is read from a field is said by the record.
-/

namespace ImageDiscovery.Document

variable {α : Type} {read : Reader α} {a : α} {n : Node}

/-- What values say: a relation, since a value may say nothing of the kind. -/
abbrev Form (α : Type) := Node → α → Prop

/-- The reader finds what a value says, and nothing else. -/
def Finds (read : Reader α) (form : Form α) : Prop := ∀ n a, read n = some a ↔ form n a

variable {form : Form α}

/-! ### Scalars -/

/-- The value is nothing: it is written as such, or as a plain scalar that stands for it. -/
inductive IsNothing : Node → Prop
  | null : IsNothing .null
  | plain {s : String} (h : s ∈ ["", "~", "null", "Null", "NULL"]) : IsNothing (.plain s)

theorem isNull_iff : n.isNull = true ↔ IsNothing n := by
  constructor
  · intro h
    cases n with
    | null => exact .null
    | plain s => exact .plain (List.contains_iff_mem.1 h)
    | _ => exact nomatch h
  · rintro (_ | h)
    · rfl
    · exact List.contains_iff_mem.2 h

/-- A text says itself; so does a plain scalar. -/
inductive SaysText : Form String
  | text (s : String) : SaysText (.text s) s
  | plain (s : String) : SaysText (.plain s) s

theorem finds_text : Finds Node.readText SaysText := by
  intro n s
  constructor
  · intro h
    cases n with
    | text t =>
      obtain rfl := Option.some.inj h
      exact .text t
    | plain t =>
      obtain rfl := Option.some.inj h
      exact .plain t
    | _ => exact nomatch h
  · rintro (_ | _) <;> rfl

/-- A number says itself if it has 64 bits and no sign; so does a plain scalar that writes it. -/
inductive SaysUnsigned : Form Nat
  | integer {m : Nat} (hm : m < UInt64.size) : SaysUnsigned (.integer m) m
  | plain {s : String} {m : Nat} (hs : Plain.integer? s = some (m : Int)) (hm : m < UInt64.size) :
    SaysUnsigned (.plain s) m

/-- The number that a value writes, without regard to its size. -/
theorem readUnsigned_eq_some_iff {m : Nat} : n.readUnsigned = some m ↔
    (n = .integer m ∨ ∃ s, n = .plain s ∧ Plain.integer? s = some (m : Int)) ∧ m < UInt64.size := by
  have hbounds (i : Int) : (0 ≤ i ∧ i ≤ 18446744073709551615) ∧ i.toNat = m ↔
      i = m ∧ m < 18446744073709551616 := by omega
  unfold Node.readUnsigned Node.readInteger
  cases n with
  | integer i => simp [hbounds]
  | plain s => cases hs : Plain.integer? s <;> simp [hs, hbounds]
  | _ => simp

theorem finds_unsigned : Finds Node.readUnsigned SaysUnsigned := by
  intro n m
  rw [readUnsigned_eq_some_iff]
  constructor
  · rintro ⟨rfl | ⟨s, rfl, hs⟩, hm⟩
    · exact .integer hm
    · exact .plain hs hm
  · rintro (⟨hm⟩ | ⟨hs, hm⟩)
    · exact ⟨.inl rfl, hm⟩
    · exact ⟨.inr ⟨_, rfl, hs⟩, hm⟩

/-! ### Values in order and values by key -/

/-- Values in order say what each of them says. An empty scalar says that there are none. -/
inductive SaysList (form : Form α) : Form (List α)
  | array {items : List Node} {as : List α} (h : List.Forall₂ form items as) :
    SaysList form (.array items) as
  | sequence {items : List Node} {as : List α} (h : List.Forall₂ form items as) :
    SaysList form (.sequence items) as
  | blank : SaysList form (.plain "") []

theorem finds_list (h : Finds read form) : Finds (Node.readList read) (SaysList form) := by
  have hitems {items : List Node} {as : List α} :
      items.mapM read = some as ↔ List.Forall₂ form items as := by
    rw [mapM_eq_some_iff]
    simp only [h _ _]
  intro n as
  constructor
  · intro hn
    cases n with
    | array items => exact .array (hitems.1 hn)
    | sequence items => exact .sequence (hitems.1 hn)
    | plain s =>
      obtain ⟨hs, hn⟩ := Option.ite_none_right_eq_some.1 hn
      obtain rfl := String.isEmpty_iff.1 hs
      obtain rfl := Option.some.inj hn
      exact .blank
    | _ => exact nomatch hn
  · rintro (h | h | _)
    · exact hitems.2 h
    · exact hitems.2 h
    · rfl

/-- Of several values at a key the last one counts. -/
def IsLastAt (entries : List (String × α)) (key : String) (a : α) : Prop :=
  ∃ before after, entries = before ++ (key, a) :: after ∧ ∀ e ∈ after, e.1 ≠ key

theorem not_isLastAt_nil (key : String) : ¬ IsLastAt [] key a := by
  rintro ⟨before, after, h, -⟩
  exact List.append_ne_nil_of_right_ne_nil before (List.cons_ne_nil _ after) h.symm

theorem isLastAt_concat {entries : List (String × α)} {e : String × α} {key : String} :
    IsLastAt (entries ++ [e]) key a ↔ if e.1 = key then e.2 = a else IsLastAt entries key a := by
  constructor
  · rintro ⟨before, after, h, hafter⟩
    rcases List.eq_nil_or_concat after with rfl | ⟨after, e', rfl⟩
    · obtain ⟨-, he⟩ := List.append_inj' h rfl
      obtain rfl := List.singleton_inj.1 he
      rw [if_pos rfl]
    · rw [List.concat_eq_append, ← List.cons_append, ← List.append_assoc] at h
      obtain ⟨rfl, he⟩ := List.append_inj' h rfl
      obtain rfl := List.singleton_inj.1 he
      rw [if_neg (hafter _ (by simp))]
      exact ⟨before, after, rfl, fun d hd => hafter d (by simp [hd])⟩
  · intro h
    split at h
    · next hkey =>
      subst hkey h
      exact ⟨entries, [], rfl, by simp⟩
    · next hkey =>
      obtain ⟨before, after, rfl, hafter⟩ := h
      refine ⟨before, after ++ [e], by simp, fun d hd => ?_⟩
      rcases List.mem_append.1 hd with hd | hd
      · exact hafter d hd
      · rwa [List.mem_singleton.1 hd]

/-- The value that a mapping has at a key is the last one there. -/
theorem get?_mapping_eq_some_iff {entries : List (String × Node)} {key : String} {v : Node} :
    (Node.mapping entries).get? key = some v ↔ IsLastAt entries key v := by
  change entries.foldl _ none = some v ↔ _
  induction entries using List.reverseRecOn with
  | nil => exact iff_of_false nofun (not_isLastAt_nil key)
  | append_singleton entries e ih =>
    rw [List.foldl_append, List.foldl_cons, List.foldl_nil, isLastAt_concat]
    split
    · rw [Option.some.injEq]
    · exact ih

/-- The value is a mapping with a value at a key. -/
def HasMember (n : Node) (key : String) (v : Node) : Prop :=
  ∃ entries, n = .mapping entries ∧ IsLastAt entries key v

theorem get?_eq_some_iff {key : String} {v : Node} : n.get? key = some v ↔ HasMember n key v := by
  cases n with
  | mapping entries =>
    rw [get?_mapping_eq_some_iff]
    exact ⟨fun h => ⟨entries, rfl, h⟩, fun ⟨_, heq, h⟩ => Node.mapping.inj heq ▸ h⟩
  | _ => exact iff_of_false nofun nofun

/-- A dictionary has the last of several values at a key. -/
theorem Dictionary.find?_ofList_eq_some_iff {values : List (String × α)} {key : String} :
    (Dictionary.ofList values).find? key = some a ↔ IsLastAt values key a := by
  unfold ofList
  induction values using List.reverseRecOn with
  | nil => exact iff_of_false nofun (not_isLastAt_nil key)
  | append_singleton values e ih =>
    rw [List.foldl_append, List.foldl_cons, List.foldl_nil, find?_insert, isLastAt_concat]
    by_cases hkey : e.1 = key
    · rw [if_pos hkey.symm, if_pos hkey, Option.some.injEq]
    · rw [if_neg (Ne.symm hkey), if_neg hkey, ih]

/-- Values by key say what the last of them says at each key, if all of them say something. An empty
scalar says that there are none. -/
inductive SaysDictionary (form : Form α) : Form (Dictionary α)
  | mapping {entries : List (String × Node)} {values : List (String × α)} {d : Dictionary α}
      (h : List.Forall₂ (fun e v => e.1 = v.1 ∧ form e.2 v.2) entries values)
      (hd : ∀ key a, d.find? key = some a ↔ IsLastAt values key a) :
    SaysDictionary form (.mapping entries) d
  | blank : SaysDictionary form (.plain "") .empty

theorem finds_dictionary (h : Finds read form) :
    Finds (Node.readDictionary read) (SaysDictionary form) := by
  have hentries {entries : List (String × Node)} {values : List (String × α)} :
      entries.mapM (fun e => do return (e.1, ← read e.2)) = some values ↔
        List.Forall₂ (fun e v => e.1 = v.1 ∧ form e.2 v.2) entries values := by
    rw [mapM_eq_some_iff]
    have hentry (e : String × Node) (v : String × α) :
        (do return (e.1, ← read e.2) : Option _) = some v ↔ e.1 = v.1 ∧ form e.2 v.2 := by
      obtain ⟨key, b⟩ := v
      refine Option.bind_eq_some_iff.trans ?_
      simp only [h _ _, Option.pure_def, Option.some.injEq, Prod.mk.injEq]
      constructor
      · rintro ⟨b, hb, hkey, rfl⟩
        exact ⟨hkey, hb⟩
      · rintro ⟨hkey, hb⟩
        exact ⟨b, hb, hkey, rfl⟩
    simp only [hentry]
  intro n d
  constructor
  · intro hn
    cases n with
    | mapping entries =>
      obtain ⟨values, hvalues, hn⟩ := Option.bind_eq_some_iff.1 hn
      obtain rfl := Option.some.inj hn
      exact .mapping (hentries.1 hvalues) fun _ _ => Dictionary.find?_ofList_eq_some_iff
    | plain s =>
      obtain ⟨hs, hn⟩ := Option.ite_none_right_eq_some.1 hn
      obtain rfl := String.isEmpty_iff.1 hs
      obtain rfl := Option.some.inj hn
      exact .blank
    | _ => exact nomatch hn
  · rintro (@⟨entries, values, d, hvalues, hd⟩ | _)
    · have heq : Dictionary.ofList values = d := Dictionary.ext_find? fun key =>
        Option.ext fun b => Dictionary.find?_ofList_eq_some_iff.trans (hd key b).symm
      exact Option.bind_eq_some_iff.2 ⟨values, hentries.2 hvalues, congrArg some heq⟩
    · rfl

/-! ### Records -/

variable {names : List String} {name : String}

/-- The value is a record with fields of the given names: by key, with none of them twice; by place,
with no more values than there are names; or empty. -/
inductive IsRecord (names : List String) : Node → Prop
  | keyed {entries : List (String × Node)}
      (h : ∀ name ∈ names, (entries.map (·.1)).count name ≤ 1) : IsRecord names (.mapping entries)
  | placed {items : List Node} (h : items.length ≤ names.length) : IsRecord names (.array items)
  | blank : IsRecord names (.plain "")

/-- The record gives a value to the field of a name. -/
inductive Gives (names : List String) : Node → String → Node → Prop
  | keyed {entries : List (String × Node)} {name : String} {v : Node} (h : (name, v) ∈ entries) :
    Gives names (.mapping entries) name v
  | placed {items : List Node} {name : String} {v : Node} (h : (name, v) ∈ names.zip items) :
    Gives names (.array items) name v

/-- The fields of a record are the values that it gives. -/
def Fields.Reflects (f : Fields) (names : List String) (n : Node) : Prop :=
  ∀ name ∈ names, ∀ v, f name = some v ↔ Gives names n name v

/-- A key that occurs once is looked up. -/
theorem lookup_eq_some_iff_of_count {es : List (String × Node)} {v : Node}
    (h : (es.map (·.1)).count name ≤ 1) : es.lookup name = some v ↔ (name, v) ∈ es := by
  induction es with
  | nil => exact iff_of_false nofun List.not_mem_nil
  | cons e es ih =>
    rw [List.map_cons, List.count_cons] at h
    rw [lookup_cons_eq_ite, List.mem_cons]
    by_cases hname : name = e.1
    · -- the key does not occur again
      have hnot : (name, v) ∉ es := by
        intro hmem
        have hcount : 0 < (es.map (·.1)).count name :=
          List.count_pos_iff.2 (List.mem_map.2 ⟨_, hmem, rfl⟩)
        rw [if_pos (beq_iff_eq.2 hname.symm)] at h
        omega
      rw [if_pos hname, or_iff_left hnot, Option.some.injEq, Prod.ext_iff, and_iff_right hname,
        eq_comm]
    · have hne : (name, v) ≠ e := fun he => hname (congrArg Prod.fst he)
      rw [if_neg hname, or_iff_right hne, ih (by omega)]

theorem distinctAmong_iff {entries : List (String × Node)} :
    Node.distinctAmong names entries = true ↔
      ∀ name ∈ names, (entries.map (·.1)).count name ≤ 1 := by
  simp only [Node.distinctAmong, List.all_eq_true, decide_eq_true_iff, List.count,
    List.countP_map, ← List.countP_eq_length_filter]
  rfl

theorem sublist_zip (names : List String) (items : List Node) :
    ((names.zip items).map (·.1)).Sublist names := by
  induction names generalizing items with
  | nil => exact .slnil
  | cons name names ih =>
    cases items with
    | nil => exact List.nil_sublist _
    | cons v items => exact (ih items).cons_cons name

/-- The fields that are read are those of a record. -/
theorem reflects_of_record (hnodup : names.Nodup) {f : Fields} (h : n.record names = some f) :
    IsRecord names n ∧ f.Reflects names n := by
  cases n with
  | mapping entries =>
    obtain ⟨hdistinct, h⟩ := Option.ite_none_right_eq_some.1 h
    obtain rfl := Option.some.inj h
    have hcount := distinctAmong_iff.1 hdistinct
    refine ⟨.keyed hcount, fun name hname v => ?_⟩
    dsimp only
    rw [if_pos (List.contains_iff_mem.2 hname), lookup_eq_some_iff_of_count (hcount name hname)]
    exact ⟨.keyed, fun | .keyed h => h⟩
  | array items =>
    obtain ⟨hlength, h⟩ := Option.ite_none_right_eq_some.1 h
    obtain rfl := Option.some.inj h
    refine ⟨.placed hlength, fun name _ v => ?_⟩
    have hkeys : ((names.zip items).map (·.1)).Nodup :=
      hnodup.sublist (sublist_zip names items)
    exact (mem_iff_lookup_of_nodup hkeys (e := (name, v))).symm.trans
      ⟨.placed, fun | .placed h => h⟩
  | plain s =>
    obtain ⟨hs, h⟩ := Option.ite_none_right_eq_some.1 h
    obtain rfl := String.isEmpty_iff.1 hs
    obtain rfl := Option.some.inj h
    exact ⟨.blank, fun _ _ _ => ⟨nofun, nofun⟩⟩
  | _ => exact nomatch h

theorem IsRecord.exists_record (h : IsRecord names n) : ∃ f, n.record names = some f := by
  cases h with
  | keyed h => exact ⟨_, if_pos (distinctAmong_iff.2 h)⟩
  | placed h => exact ⟨_, if_pos h⟩
  | blank => exact ⟨_, rfl⟩

/-- What is read from the fields of a record is what the record says. -/
theorem bind_record_eq_some_iff {k : Fields → Option α} {P : Prop} (hnodup : names.Nodup)
    (h : ∀ f : Fields, f.Reflects names n → (k f = some a ↔ P)) :
    (n.record names >>= k) = some a ↔ IsRecord names n ∧ P := by
  refine Option.bind_eq_some_iff.trans ⟨?_, ?_⟩
  · rintro ⟨f, hf, hk⟩
    obtain ⟨hrecord, hreflects⟩ := reflects_of_record hnodup hf
    exact ⟨hrecord, (h f hreflects).1 hk⟩
  · rintro ⟨hrecord, hP⟩
    obtain ⟨f, hf⟩ := hrecord.exists_record
    exact ⟨f, hf, (h f (reflects_of_record hnodup hf).2).2 hP⟩

/-! ### Fields -/

/-- The record says something in a field. -/
def Has (names : List String) (n : Node) (name : String) (form : Form α) (a : α) : Prop :=
  ∃ v, Gives names n name v ∧ form v a

/-- The record says something in a field, or the field is missing and its default counts. -/
def HasOr (names : List String) (n : Node) (name : String) (form : Form α) (default a : α) : Prop :=
  Has names n name form a ∨ (∀ v, ¬ Gives names n name v) ∧ a = default

/-- The record says something in a field, or the field is missing or nothing. -/
def MayHave (names : List String) (n : Node) (name : String) (form : Form α) (a : Option α) :
    Prop :=
  (∃ v b, Gives names n name v ∧ ¬ IsNothing v ∧ form v b ∧ a = some b) ∨
    (∀ v, Gives names n name v → IsNothing v) ∧ a = none

namespace Fields.Reflects

variable {f : Fields} (hf : f.Reflects names n)
include hf

theorem required_iff (hread : Finds read form) (hname : name ∈ names) :
    f.required name read = some a ↔ Has names n name form a := by
  unfold required Has
  simp only [Option.bind_eq_bind, Option.bind_eq_some_iff, hf name hname, hread _ _]

theorem orDefault_iff (hread : Finds read form) (hname : name ∈ names) {default : α} :
    f.orDefault name read default = some a ↔ HasOr names n name form default a := by
  unfold orDefault HasOr Has
  simp only [← hf name hname, ← hread _ _]
  cases f name with
  | none => simp [eq_comm]
  | some v => simp

theorem optional_iff (hread : Finds read form) (hname : name ∈ names) {a : Option α} :
    f.optional name read = some a ↔ MayHave names n name form a := by
  unfold optional orDefault MayHave
  simp only [← hf name hname, ← hread _ _, ← isNull_iff, Node.readOption]
  cases f name with
  | none => simpa using eq_comm
  | some v =>
    by_cases hv : v.isNull = true
    · simpa [hv] using eq_comm
    · simp [hv, eq_comm (b := a)]

end Fields.Reflects

end ImageDiscovery.Document
