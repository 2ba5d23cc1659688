import ImageDiscovery.Proofs.Version.Alternatives

/-!
# What the terms of an alternative ask

The words of an alternative are put together to terms: an operator that stands alone belongs to the
word after it. Each term of an alternative that is read is an operator with a partial version, and
it asks how a version, be it a release or a pre-release, stands to the numbers that are given: to
the least version with these numbers, or to the end of those that begin with them or with some of
them.
A term names a pre-release only if identifiers are written in it, whatever bounds its operator makes
up. So a constraint admits a version exactly if it has an alternative of which all terms hold of the
version, and of which one names a pre-release with the numbers of the version if it is one.

## Main definitions

* `Constraint.terms` — the texts of the terms of an alternative.
* `Constraint.Operator.Asks` — what an operator with a partial version asks of a version.
* `Constraint.TermHolds`, `Constraint.TermNames` — a term holds of a version, and a term names a
  pre-release with its numbers.

## Main results

* `Constraint.Writes.forall₂_terms` — the comparators of an alternative are those of its terms.
* `Constraint.Operator.renders_ofPartial` — the comparators of a term say what it asks.
* `Constraint.Operator.Renders.names_iff` — a term names what is written in it.
* `Constraint.admits_iff_terms` — what a constraint admits.
-/

namespace ImageDiscovery

open Text Version

namespace Constraint

/-! ### Reading terms -/

/-- The texts of the terms that words make up. An operator that stands alone belongs to the word
after it; at the end it is a term without a version. -/
def termTexts : List (List Char) → List (List Char)
  | [] => []
  | w :: ws =>
    if w.all Operator.isChar then
      match ws with
      | [] => [w]
      | v :: ws => (w ++ v) :: termTexts ws
    else w :: termTexts ws

/-- The texts of the terms of an alternative. -/
def terms (a : List Char) : List (List Char) := termTexts (words (commasAsBlanks a))

theorem termTexts_eq_nil_iff {ws : List (List Char)} : termTexts ws = [] ↔ ws = [] := by
  fun_induction termTexts ws with
  | case1 => exact iff_of_true rfl rfl
  | case2 w hw => exact iff_of_false (List.cons_ne_nil _ _) (List.cons_ne_nil _ _)
  | case3 w hw v ws ih => exact iff_of_false (List.cons_ne_nil _ _) (List.cons_ne_nil _ _)
  | case4 w ws hw ih => exact iff_of_false (List.cons_ne_nil _ _) (List.cons_ne_nil _ _)

theorem termTexts_cons {w : List Char} (hw : ¬ w.all Operator.isChar = true)
    (ws : List (List Char)) : termTexts (w :: ws) = w :: termTexts ws := by
  cases ws with
  | nil => exact if_neg hw
  | cons v ws => exact if_neg hw

theorem forall₂_termTexts {ws : List (List Char)} {cs : List Comparator} (h : ofWords ws = .ok cs) :
    ∃ css, List.Forall₂ (fun t ds => Constraint.ofTerm t = .ok ds) (termTexts ws) css ∧
      css.flatten = cs := by
  fun_induction ofWords ws generalizing cs with
  | case1 => exact ⟨[], .nil, Except.ok.inj h⟩
  | case2 w hw => cases h
  | case3 w hw v ws ih =>
    obtain ⟨ds, hds, h⟩ := bind_eq_ok_iff.1 h
    obtain ⟨es, hes, h⟩ := bind_eq_ok_iff.1 h
    obtain ⟨css, hcss, rfl⟩ := ih hes
    rw [termTexts, if_pos hw]
    exact ⟨ds :: css, .cons hds hcss, Except.ok.inj h⟩
  | case4 w ws hw ih =>
    obtain ⟨ds, hds, h⟩ := bind_eq_ok_iff.1 h
    obtain ⟨es, hes, h⟩ := bind_eq_ok_iff.1 h
    obtain ⟨css, hcss, rfl⟩ := ih hes
    rw [termTexts_cons hw]
    exact ⟨ds :: css, .cons hds hcss, Except.ok.inj h⟩

/-- The comparators of an alternative are those of its terms, one term after another. -/
theorem Writes.forall₂_terms {a : List Char} {cs : List Comparator} (h : Writes a cs) :
    ∃ css, List.Forall₂ (fun t ds => Constraint.ofTerm t = .ok ds) (terms a) css ∧
      css.flatten = cs :=
  forall₂_termTexts h

/-- The version of a term: what follows its operator. -/
def versionText (t : List Char) : List Char := (Operator.ofTerm t).2

/-- A term is read as an operator and a partial version. -/
theorem ofTerm_eq_ok_iff {t : List Char} {cs : List Comparator} : Constraint.ofTerm t = .ok cs ↔
    ∃ p, Partial.ofChars? (versionText t) = some p ∧
      (Operator.ofTerm t).1.ofPartial p = .ok cs := by
  rw [Constraint.ofTerm, versionText]
  cases Operator.ofTerm t with
  | mk op rest =>
    simp only
    cases Partial.ofChars? rest with
    | none => simp only [reduceCtorEq, false_and, exists_false]
    | some p =>
      simp only [Option.some.injEq, exists_eq_left']
      exact Iff.rfl

namespace Partial

theorem numbersOfParts?_bounds {ps : List (List Char)} {ns : List Nat}
    (h : numbersOfParts? ps = some ns) : ns.length ≤ ps.length ∧ ∀ n ∈ ns, n ≤ wordMax := by
  induction ps generalizing ns with
  | nil =>
    obtain rfl := Option.some.inj h
    exact ⟨Nat.le_refl _, List.forall_mem_nil _⟩
  | cons p ps ih =>
    rw [numbersOfParts?] at h
    split at h
    · split at h
      · obtain rfl := Option.some.inj h
        exact ⟨Nat.zero_le _, List.forall_mem_nil _⟩
      · cases h
    · obtain ⟨n, hn, h⟩ := Option.bind_eq_some_iff.1 h
      obtain ⟨ms, hms, h⟩ := Option.bind_eq_some_iff.1 h
      obtain rfl := Option.some.inj h
      obtain ⟨hlen, hmax⟩ := ih hms
      exact ⟨Nat.succ_le_succ hlen,
        List.forall_mem_cons.2 ⟨(natUpTo?_eq_some_iff.1 hn).2.2.2, hmax⟩⟩

/-- The identifiers that a text after a hyphen writes; without one there are none. -/
def identifiers? (text : Option (List Char)) : Option (List Identifier) :=
  text.elim (some []) Identifier.listOfChars?

/-- A partial version is read from the text before the first hyphen and the one after it. -/
theorem ofChars?_eq_some_iff {s core : List Char} {text : Option (List Char)} {p : Partial}
    (h : coreAndPre (withoutBuild (Partial.withoutMark s)) = (core, text)) :
    Partial.ofChars? s = some p ↔
      identifiers? text = some p.pre ∧ (parts core).length ≤ 3 ∧
      numbersOfParts? (parts core) = some p.numbers ∧ (p.pre ≠ [] → p.numbers.length = 3) := by
  obtain ⟨numbers, pre⟩ := p
  have hread : Partial.ofChars? s = (identifiers? text).bind fun is =>
      if (parts core).length > 3 then none
      else (numbersOfParts? (parts core)).bind fun ns =>
        if (!is.isEmpty && ns.length != 3) = true then none else some ⟨ns, is⟩ := by
    rw [Partial.ofChars?, h]
    cases text with
    | none => rfl
    | some text => rfl
  rw [hread, Option.bind_eq_some_iff]
  constructor
  · rintro ⟨is, his, h⟩
    split at h
    · cases h
    · next hlen =>
      obtain ⟨ns, hns, h⟩ := Option.bind_eq_some_iff.1 h
      split at h
      · cases h
      · next hfull =>
        cases h
        exact ⟨his, Nat.not_lt.1 hlen, hns, by simpa using hfull⟩
  · rintro ⟨his, hlen, hns, hfull⟩
    refine ⟨pre, his, ?_⟩
    rw [if_neg (Nat.not_lt.2 hlen), hns, Option.bind_some]
    exact if_neg (by simpa using hfull)

/-- A partial version that is read is well formed. -/
theorem wellFormed_of_ofChars? {s : List Char} {p : Partial} (h : Partial.ofChars? s = some p) :
    p.WellFormed := by
  obtain ⟨-, hlen, hnumbers, hfull⟩ := (ofChars?_eq_some_iff rfl).1 h
  obtain ⟨hle, hmax⟩ := numbersOfParts?_bounds hnumbers
  exact ⟨hmax, Nat.le_trans hle hlen, hfull⟩

end Partial

/-! ### What a term asks of a version -/

theorem pre_of_above {ns : List Nat} {u : Version} (h : above ns = .ok u) : u.pre = [] := by
  unfold above at h
  split at h
  · obtain ⟨n, -, h⟩ := bind_eq_ok_iff.1 h
    exact Except.ok.inj h ▸ rfl
  · obtain ⟨n, -, h⟩ := bind_eq_ok_iff.1 h
    exact Except.ok.inj h ▸ rfl
  · obtain ⟨n, -, h⟩ := bind_eq_ok_iff.1 h
    exact Except.ok.inj h ▸ rfl
  · cases h

theorem namesPrereleaseOf_iff {c : Comparator} {v : Version} : c.namesPrereleaseOf v = true ↔
    c.version.pre ≠ [] ∧ c.version.numbers = v.numbers := by
  simp [Comparator.namesPrereleaseOf, isPrerelease, sameCore, numbers, and_assoc]

/-- The version comes before the first release after all those that begin with the numbers. -/
def BeforeEnd (ns : List Nat) (v : Version) : Prop := ∃ u, above ns = .ok u ∧ v < u

theorem beforeEnd_iff {ns : List Nat} {u v : Version} (h : above ns = .ok u) :
    BeforeEnd ns v ↔ v < u := by
  rw [BeforeEnd, h]
  exact ⟨fun ⟨w, hw, hlt⟩ => Except.ok.inj hw ▸ hlt, fun hlt => ⟨u, rfl, hlt⟩⟩

namespace Operator

/-- What an operator with a partial version asks of a version, which may be a release or a
pre-release. Where every number is a wildcard it asks nothing. -/
def Asks (op : Operator) (p : Partial) (v : Version) : Prop :=
  p.numbers = [] ∨
    match op with
    | bare | eq => if p.isFull then v = p.lower else p.lower ≤ v ∧ BeforeEnd p.numbers v
    | ne => v ≠ p.lower
    | gt => if p.isFull then p.lower < v else ¬ BeforeEnd p.numbers v
    | ge => p.lower ≤ v
    | lt => v < p.lower
    | le => if p.isFull then v ≤ p.lower else BeforeEnd p.numbers v
    | tilde => p.lower ≤ v ∧ BeforeEnd (p.numbers.take 2) v
    | caret => p.lower ≤ v ∧ BeforeEnd (leading p.numbers) v

/-- The comparators ask what is meant. They compare with the version that is written or with
releases, and with the version that is written if it is full. -/
structure Renders (p : Partial) (means : Version → Prop) (cs : List Comparator) : Prop where
  holds_iff (v : Version) : (∀ c ∈ cs, c.holds v = true) ↔ means v
  lower_or_release : ∀ c ∈ cs, c.version = p.lower ∨ c.version.pre = []
  exists_lower : p.isFull = true → ∃ c ∈ cs, c.version = p.lower

section

variable {op : Operator} {p : Partial} {cs : List Comparator} {ns : List Nat} {u v : Version}

theorem Renders.congr {means means' : Version → Prop} (h : Renders p means cs)
    (hm : ∀ v, means v ↔ means' v) : Renders p means' cs where
  holds_iff v := (h.holds_iff v).trans (hm v)
  lower_or_release := h.lower_or_release
  exists_lower := h.exists_lower

theorem renders_lower (p : Partial) (r : Relation) :
    Renders p (fun v => relates r v p.lower) [⟨r, p.lower⟩] where
  holds_iff v := by rw [List.forall_mem_singleton, Constraint.holds_iff]
  lower_or_release := List.forall_mem_singleton.2 (.inl rfl)
  exists_lower _ := ⟨_, List.mem_singleton_self _, rfl⟩

theorem renders_range (p : Partial) (h : above ns = .ok u) :
    Renders p (fun v => p.lower ≤ v ∧ BeforeEnd ns v) [⟨.ge, p.lower⟩, ⟨.lt, u⟩] where
  holds_iff v := by
    rw [List.forall_mem_cons, List.forall_mem_singleton, Constraint.holds_iff,
      Constraint.holds_iff, beforeEnd_iff h]
    exact Iff.rfl
  lower_or_release :=
    List.forall_mem_cons.2 ⟨.inl rfl, List.forall_mem_singleton.2 (.inr (pre_of_above h))⟩
  exists_lower _ := ⟨_, List.mem_cons_self, rfl⟩

theorem renders_after (hfull : p.isFull = false) (h : above p.numbers = .ok u) :
    Renders p (fun v => ¬ BeforeEnd p.numbers v) [⟨.ge, u⟩] where
  holds_iff v := by
    rw [List.forall_mem_singleton, Constraint.holds_iff, beforeEnd_iff h, Std.not_lt]
    exact Iff.rfl
  lower_or_release := List.forall_mem_singleton.2 (.inr (pre_of_above h))
  exists_lower hf := absurd (hf.symm.trans hfull) Bool.noConfusion

theorem renders_before (hfull : p.isFull = false) (h : above p.numbers = .ok u) :
    Renders p (BeforeEnd p.numbers) [⟨.lt, u⟩] where
  holds_iff v := by
    rw [List.forall_mem_singleton, Constraint.holds_iff, beforeEnd_iff h]
    exact Iff.rfl
  lower_or_release := List.forall_mem_singleton.2 (.inr (pre_of_above h))
  exists_lower hf := absurd (hf.symm.trans hfull) Bool.noConfusion

/-- A full version has no end, and a partial one has the end of what begins with its numbers. -/
theorem of_upper_eq_ok (hne : p.numbers ≠ []) (hlen : p.numbers.length ≤ 3) {o : Option Version}
    (h : p.upper = .ok o) : (p.isFull = true ∧ o = none) ∨
      (p.isFull = false ∧ ∃ u, above p.numbers = .ok u ∧ o = some u) := by
  by_cases hfull : p.numbers.length = 3
  · rw [Partial.upper_of_full hfull] at h
    exact .inl ⟨beq_iff_eq.2 hfull, (Except.ok.inj h).symm⟩
  · rw [Partial.upper_of_partial hne (Nat.lt_of_le_of_ne hlen hfull)] at h
    cases habove : above p.numbers with
    | error fault => rw [habove] at h; cases h
    | ok u =>
      rw [habove] at h
      exact .inr ⟨beq_eq_false_iff_ne.2 hfull, u, rfl, (Except.ok.inj h).symm⟩

/-- The comparators of an operator with numbers ask what it asks. -/
theorem renders_comparators (hne : p.numbers ≠ []) (hlen : p.numbers.length ≤ 3)
    (h : op.comparators p = .ok cs) : Renders p (op.Asks p) cs := by
  cases op with
  | bare | eq =>
    obtain ⟨o, ho, h⟩ := bind_eq_ok_iff.1 h
    rcases of_upper_eq_ok hne hlen ho with ⟨hfull, rfl⟩ | ⟨hfull, u, hu, rfl⟩
    · obtain rfl := Except.ok.inj h
      exact (renders_lower p .eq).congr fun v => by rw [Asks, or_iff_right hne, hfull]; rfl
    · obtain rfl := Except.ok.inj h
      exact (renders_range p hu).congr fun v => by rw [Asks, or_iff_right hne, hfull]; rfl
  | ne =>
    rw [comparators] at h
    split at h
    · obtain rfl := Except.ok.inj h
      exact (renders_lower p .ne).congr fun v => by rw [Asks, or_iff_right hne]; rfl
    · cases h
  | gt =>
    obtain ⟨o, ho, h⟩ := bind_eq_ok_iff.1 h
    rcases of_upper_eq_ok hne hlen ho with ⟨hfull, rfl⟩ | ⟨hfull, u, hu, rfl⟩
    · obtain rfl := Except.ok.inj h
      exact (renders_lower p .gt).congr fun v => by rw [Asks, or_iff_right hne, hfull]; rfl
    · obtain rfl := Except.ok.inj h
      exact (renders_after hfull hu).congr fun v => by rw [Asks, or_iff_right hne, hfull]; rfl
  | ge =>
    obtain rfl := Except.ok.inj h
    exact (renders_lower p .ge).congr fun v => by rw [Asks, or_iff_right hne]; rfl
  | lt =>
    obtain rfl := Except.ok.inj h
    exact (renders_lower p .lt).congr fun v => by rw [Asks, or_iff_right hne]; rfl
  | le =>
    obtain ⟨o, ho, h⟩ := bind_eq_ok_iff.1 h
    rcases of_upper_eq_ok hne hlen ho with ⟨hfull, rfl⟩ | ⟨hfull, u, hu, rfl⟩
    · obtain rfl := Except.ok.inj h
      exact (renders_lower p .le).congr fun v => by rw [Asks, or_iff_right hne, hfull]; rfl
    · obtain rfl := Except.ok.inj h
      exact (renders_before hfull hu).congr fun v => by rw [Asks, or_iff_right hne, hfull]; rfl
  | tilde =>
    rw [comparators, tildeUpper_eq hne] at h
    obtain ⟨u, hu, h⟩ := bind_eq_ok_iff.1 h
    obtain rfl := Except.ok.inj h
    exact (renders_range p hu).congr fun v => by rw [Asks, or_iff_right hne]
  | caret =>
    rw [comparators, caretUpper_eq hne hlen] at h
    obtain ⟨u, hu, h⟩ := bind_eq_ok_iff.1 h
    obtain rfl := Except.ok.inj h
    exact (renders_range p hu).congr fun v => by rw [Asks, or_iff_right hne]

theorem eq_nil_of_ofWildcard (h : op.ofWildcard = .ok cs) : cs = [] := by
  cases op with
  | bare | eq | ge | tilde | caret => exact (Except.ok.inj h).symm
  | ne | gt | lt | le => cases h

/-- The comparators of a term ask what its operator asks. -/
theorem renders_ofPartial (hp : p.WellFormed) (h : op.ofPartial p = .ok cs) :
    Renders p (op.Asks p) cs := by
  by_cases hnil : p.numbers = []
  · rw [ofPartial, hnil, List.isEmpty_nil, if_pos rfl] at h
    obtain rfl := eq_nil_of_ofWildcard h
    refine ⟨fun v => iff_of_true (List.forall_mem_nil _) (.inl hnil), List.forall_mem_nil _, ?_⟩
    intro hfull
    rw [Partial.isFull, hnil] at hfull
    cases hfull
  · rw [ofPartial, List.isEmpty_eq_false_iff.2 hnil, if_neg Bool.false_ne_true] at h
    exact renders_comparators hnil hp.length_le h

/-- A term names a pre-release if identifiers are written in it, and then the one with its numbers:
no end of a range counts. -/
theorem Renders.names_iff {means : Version → Prop} (h : Renders p means cs) (hp : p.WellFormed) :
    (∃ c ∈ cs, c.namesPrereleaseOf v = true) ↔ p.pre ≠ [] ∧ p.numbers = v.numbers := by
  have hnumbers (hpre : p.pre ≠ []) : p.lower.numbers = p.numbers := by
    obtain ⟨a, b, c, habc⟩ := List.length_eq_three.1 (hp.full_of_pre hpre)
    rw [numbers, Partial.lower, habc]
    rfl
  simp only [namesPrereleaseOf_iff]
  constructor
  · rintro ⟨c, hc, hpre, hsame⟩
    have hlower := (h.lower_or_release c hc).resolve_right hpre
    rw [hlower] at hpre hsame
    exact ⟨hpre, (hnumbers hpre).symm.trans hsame⟩
  · rintro ⟨hpre, hsame⟩
    obtain ⟨c, hc, hlower⟩ := h.exists_lower (beq_iff_eq.2 (hp.full_of_pre hpre))
    rw [← hnumbers hpre, ← hlower] at hsame
    exact ⟨c, hc, hlower ▸ hpre, hsame⟩

end

end Operator

/-! ### What a constraint admits -/

/-- The term, an operator with a partial version, holds of the version. -/
def TermHolds (t : List Char) (v : Version) : Prop :=
  ∃ p, Partial.ofChars? (versionText t) = some p ∧ (Operator.ofTerm t).1.Asks p v

/-- The term names a pre-release with the numbers of the version. -/
def TermNames (t : List Char) (v : Version) : Prop :=
  ∃ p, Partial.ofChars? (versionText t) = some p ∧ p.pre ≠ [] ∧ p.numbers = v.numbers

section

variable {t a : List Char} {cs : List Comparator} {v : Version}

/-- The comparators of a term hold if the term does, and name what the term names. -/
theorem termHolds_and_termNames_iff (h : Constraint.ofTerm t = .ok cs) :
    ((∀ c ∈ cs, c.holds v = true) ↔ TermHolds t v) ∧
      ((∃ c ∈ cs, c.namesPrereleaseOf v = true) ↔ TermNames t v) := by
  obtain ⟨p, hp, hcs⟩ := ofTerm_eq_ok_iff.1 h
  have hwell := Partial.wellFormed_of_ofChars? hp
  have hrenders := Operator.renders_ofPartial hwell hcs
  rw [hrenders.holds_iff, hrenders.names_iff hwell, TermHolds, TermNames, hp]
  simp only [Option.some.injEq, exists_eq_left', and_self]

/-- The comparators of an alternative hold if its terms do, and name what one of its terms names. -/
theorem Writes.holds_and_names_iff (h : Writes a cs) :
    ((∀ c ∈ cs, c.holds v = true) ↔ ∀ t ∈ terms a, TermHolds t v) ∧
      ((∃ c ∈ cs, c.namesPrereleaseOf v = true) ↔ ∃ t ∈ terms a, TermNames t v) := by
  obtain ⟨css, hcss, rfl⟩ := h.forall₂_terms
  generalize terms a = ts at hcss ⊢
  clear h
  induction hcss with
  | nil => simp
  | cons ht htail ih =>
    obtain ⟨hholds, hnames⟩ := termHolds_and_termNames_iff (v := v) ht
    rw [List.flatten_cons, List.forall_mem_append, List.forall_mem_cons, hholds, ih.1,
      List.exists_mem_cons_iff, ← hnames, ← ih.2]
    refine ⟨Iff.rfl, ?_⟩
    simp only [List.mem_append, or_and_right, exists_or]

/-- **What a constraint admits.** A version is admitted if all terms of one of the alternatives hold
of it, of which, if it is a pre-release, one has to name a pre-release with its numbers. -/
theorem admits_iff_terms {s : List Char} {c : Constraint} (h : ofChars s = .ok c) :
    c.admits v = true ↔ ∃ a ∈ splitAlternatives s, (∀ t ∈ terms a, TermHolds t v) ∧
      (v.pre ≠ [] → ∃ t ∈ terms a, TermNames t v) := by
  obtain ⟨-, hwrites, -⟩ := ofChars_eq_ok_iff.1 h
  rw [admits]
  generalize splitAlternatives s = as, c.alternatives = css at hwrites ⊢
  induction hwrites with
  | nil => simp
  | cons ha htail ih =>
    obtain ⟨hholds, hnames⟩ := ha.holds_and_names_iff (v := v)
    rw [List.any_cons, Bool.or_eq_true, ih, alternativeAdmits_iff, hholds, hnames,
      List.exists_mem_cons_iff]

end

end Constraint

end ImageDiscovery
