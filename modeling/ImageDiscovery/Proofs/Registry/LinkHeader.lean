import ImageDiscovery.Proofs.Text.Edges
import ImageDiscovery.Proofs.Text.Parts
import ImageDiscovery.Registry.Link

/-!
# Where a header of links leads

A header of links is a list of pieces with commas between them. A piece leads to the next page if it
says `rel="next"` behind its first semicolon; before the semicolon stands the target, in brackets
and with white space around them. The first piece that leads to the next page counts. This is said
here of all headers, also of those that are not written as links should be.

## Main definitions

* `Link.IsBare` — a text without the brackets around it.
* `Link.PieceNames`, `Link.Names` — the target that a piece, and that a header of links names.
* `Link.Leads` — what the header of a page comes to.

## Main results

* `Link.bareTarget_eq_iff`, `Link.targetOfNext?_eq_some_iff`, `Link.nextTarget?_eq_some_iff` — what
  is read of a header.
* `Link.nextPage_eq_iff` — where the next page is.
-/

namespace ImageDiscovery.Link

open Net Text

variable {s piece target : List Char}

/-- The text is the target with opening brackets before it and closing ones behind it. -/
structure IsBare (s target : List Char) : Prop where
  eq : ∃ m k, s = List.replicate m '<' ++ (target ++ List.replicate k '>')
  head : ∀ c ∈ target.head?, c ≠ '<'
  last : ∀ c ∈ target.getLast?, c ≠ '>'

theorem bareTarget_eq_iff : bareTarget s = target ↔ IsBare (trim s) target := by
  have hbare : bareTarget s = ((trim s).dropWhile (· == '<')).rdropWhile (· == '>') := rfl
  rw [hbare]
  generalize trim s = t
  constructor
  · rintro rfl
    have hopening : t.takeWhile (· == '<') = List.replicate (t.takeWhile (· == '<')).length '<' :=
      List.eq_replicate_of_mem fun c hc =>
        beq_iff_eq.1 (List.mem_takeWhile_imp (p := (· == '<')) hc)
    generalize hrest : t.dropWhile (· == '<') = u
    have hclosing : u.rtakeWhile (· == '>') = List.replicate (u.rtakeWhile (· == '>')).length '>' :=
      List.eq_replicate_of_mem fun c hc =>
        beq_iff_eq.1 (List.mem_rtakeWhile_imp (p := (· == '>')) hc)
    have hends : u.rdropWhile (· == '>') ++ u.rtakeWhile (· == '>') = u :=
      List.rdropWhile_append_rtakeWhile ..
    refine ⟨⟨(t.takeWhile (· == '<')).length, (u.rtakeWhile (· == '>')).length, ?_⟩,
      fun c hc => ?_, fun c hc => ?_⟩
    · rw [← hclosing, hends, ← hopening, ← hrest, List.takeWhile_append_dropWhile]
    · have hhead : c ∈ u.head? := by
        rw [← hends, List.head?_append, Option.mem_def.1 hc]
        rfl
      exact beq_eq_false_iff_ne.1 (of_mem_head?_dropWhile (p := (· == '<')) (hrest ▸ hhead))
    · exact beq_eq_false_iff_ne.1 (of_mem_getLast?_rdropWhile (p := (· == '>')) hc)
  · rintro ⟨⟨m, k, rfl⟩, hhead, hlast⟩
    have hopening : ∀ c ∈ (target ++ List.replicate k '>').head?, (c == '<') = false := by
      intro c hc
      cases target with
      | nil =>
        have hc : c = '>' := List.eq_of_mem_replicate (List.mem_of_mem_head? hc)
        rw [hc]
        decide
      | cons d target => exact beq_eq_false_iff_ne.2 (hhead c hc)
    rw [List.dropWhile_append_of_pos fun c hc => beq_iff_eq.2 (List.eq_of_mem_replicate hc),
      dropWhile_eq_self hopening,
      rdropWhile_append_of_pos fun c hc => beq_iff_eq.2 (List.eq_of_mem_replicate hc),
      List.rdropWhile_eq_self_iff]
    exact fun hne h => hlast _ (List.getLast?_eq_some_getLast hne) (beq_iff_eq.1 h)

/-- The piece leads to the next page: the target stands before its first semicolon, and the relation
behind it. -/
def PieceNames (piece target : List Char) : Prop :=
  ∃ front parameters, piece = front ++ ';' :: parameters ∧ ';' ∉ front ∧
    "rel=\"next\"".toList <:+: parameters ∧ IsBare (trim front) target

theorem targetOfNext?_eq_some_iff :
    targetOfNext? piece = some target ↔ PieceNames piece target := by
  unfold targetOfNext? PieceNames
  simp only [Option.bind_eq_bind, Option.bind_eq_some_iff, Prod.exists, cut_eq_some_iff,
    Option.ite_none_right_eq_some, contains_iff_isInfix, Option.some.injEq, bareTarget_eq_iff]
  refine exists_congr fun front => exists_congr fun parameters => ?_
  rw [and_comm (a := ';' ∉ front), and_assoc]

/-- The header names the target of the first piece that leads to the next page. -/
def Names (header target : String) : Prop :=
  ∃ before piece after, header.toList = join ',' (before ++ piece :: after) ∧
    (∀ p ∈ before ++ piece :: after, ',' ∉ p) ∧ PieceNames piece target.toList ∧
    ∀ p ∈ before, ∀ other, ¬ PieceNames p other

theorem nextTarget?_eq_some_iff {header target : String} :
    nextTarget? header.toList = some target.toList ↔ Names header target := by
  unfold nextTarget? Names
  simp only [List.findSome?_eq_some_iff, targetOfNext?_eq_some_iff,
    Option.eq_none_iff_forall_ne_some, ne_eq]
  refine exists_congr fun before => exists_congr fun piece => exists_congr fun after => ?_
  rw [← and_assoc (b := ∀ p ∈ _, _)]
  refine and_congr_left fun _ => ⟨fun h => ?_, fun ⟨h, hcomma⟩ => ?_⟩
  · rw [← h]
    exact ⟨(join_split ',' _).symm, fun p => sep_not_mem_of_mem_split⟩
  · rw [h, split_join (by simp) hcomma]

/-- What the header of links of the page at `current` comes to: there is no next page where no
header or no target is there, and the target is read from `current`. -/
inductive Leads (current : String) : Option String → Except RegistryError (Option String) → Prop
  | missing : Leads current none (.ok none)
  | nowhere {header : String} (h : ∀ target, ¬ Names header target) :
    Leads current (some header) (.ok none)
  | onward {header target : String} {base next : Url} (h : Names header target)
      (hbase : Url.ofString? current = some base) (hnext : base.resolve? target = some next) :
    Leads current (some header) (.ok (some next.text))
  | unbased {header target : String} (h : Names header target)
      (hbase : Url.ofString? current = none) :
    Leads current (some header) (.error (.invalidUrl current))
  | unresolved {header target : String} {base : Url} (h : Names header target)
      (hbase : Url.ofString? current = some base) (hnext : base.resolve? target = none) :
    Leads current (some header) (.error (.invalidUrl target))

/-- **Where the next page is.** The next page is where the header of links leads, and it fails to be
found where the header leads to what is no URL. -/
theorem nextPage_eq_iff {current : String} {header : Option String}
    {r : Except RegistryError (Option String)} :
    nextPage current header = r ↔ Leads current header r := by
  constructor
  · rintro rfl
    cases header with
    | none => exact .missing
    | some header =>
      unfold nextPage
      rw [Option.bind_some]
      cases htarget : nextTarget? header.toList with
      | none =>
        refine .nowhere fun target h => ?_
        exact nomatch htarget.symm.trans (nextTarget?_eq_some_iff.2 h)
      | some target =>
        have h : Names header (String.ofList target) := nextTarget?_eq_some_iff.1 (by simpa)
        dsimp only
        split
        · next hbase => exact .unbased h hbase
        · next base hbase =>
          split
          · next hnext => exact .unresolved h hbase hnext
          · next hnext => exact .onward h hbase hnext
  · have hnames {header target : String} (h : Names header target) :
        (some header).bind (fun h => nextTarget? h.toList) = some target.toList :=
      nextTarget?_eq_some_iff.2 h
    unfold nextPage
    rintro (_ | @⟨header, h⟩ | ⟨h, hbase, hnext⟩ | ⟨h, hbase⟩ | ⟨h, hbase, hnext⟩)
    · rfl
    · cases htarget : nextTarget? header.toList with
      | none => simp [htarget]
      | some target =>
        exact absurd (nextTarget?_eq_some_iff.1 (by simpa)) (h (String.ofList target))
    · simp [hnames h, hbase, hnext]
    · simp [hnames h, hbase]
    · simp [hnames h, hbase, hnext]

end ImageDiscovery.Link
