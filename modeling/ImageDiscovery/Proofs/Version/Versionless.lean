import ImageDiscovery.Proofs.Version.Clause

/-!
# Terms without a version

The version of a term need not give all numbers, and one in which the first number is missing is
read as a wildcard. Of what may stand around the numbers, the mark `v` and the build part, either is
read where no number is left between them, so that a term may have no version at all and hold of
every release. An alternative of several may not be blank; one of commas only is not blank, and has
no term. Apart from these, in every alternative that is read there is a term, and in every term a
number or a wildcard.

## Main definitions

* `Constraint.HasComponent` — there is a number or a wildcard in a version text.
* `Constraint.IsVersionless` — a term of an operator, a mark and a build part.
* `Constraint.FailsClosed` — every alternative has a term, and every term a number or a wildcard.

## Main results

* `Constraint.hasComponent_iff` — the version texts that are read and have no component.
* `Constraint.eq_of_versionText_eq_nil` — the one operator that is read with nothing after it.
* `Constraint.failsClosed_iff` — the constraints that are read and do not fail closed.
-/

namespace ImageDiscovery

open Text Version

namespace Constraint

/-! ### Version texts without a component -/

/-- The components of a version text: what stands between dots before the first hyphen, without the
mark and the build part. -/
def components (s : List Char) : List (List Char) :=
  split '.' (coreAndPre (withoutBuild (Partial.withoutMark s))).1

/-- The version text has a component that is a number or a wildcard. -/
def HasComponent (s : List Char) : Prop :=
  ∃ part ∈ components s, Partial.isWildcard part = true ∨ (natUpTo? wordMax part).isSome = true

instance : DecidablePred HasComponent := fun s =>
  inferInstanceAs (Decidable (∃ part ∈ components s, _))

/-- Nothing is written but a mark and a build part, or one of them, or nothing at all. -/
def IsHollow (s : List Char) : Prop :=
  ∃ build, (build = [] ∨ ∃ b, build = '+' :: b) ∧ (s = build ∨ s = 'v' :: build)

variable {s t a : List Char} {p : Partial} {cs : List Comparator}

theorem withoutBuild_eq_nil_iff : withoutBuild s = [] ↔ s = [] ∨ ∃ b, s = '+' :: b := by
  cases s with
  | nil => exact iff_of_true rfl (.inl rfl)
  | cons x s =>
    rw [withoutBuild, List.takeWhile_cons]
    by_cases hx : x = '+'
    · simp [hx]
    · simp [hx]

theorem isHollow_iff : IsHollow s ↔ withoutBuild (Partial.withoutMark s) = [] := by
  rw [withoutBuild_eq_nil_iff]
  constructor
  · rintro ⟨build, hbuild, rfl | rfl⟩
    · rcases hbuild with rfl | ⟨b, rfl⟩
      · exact .inl rfl
      · exact .inr ⟨b, rfl⟩
    · exact hbuild
  · intro h
    by_cases hmark : ∃ r, s = 'v' :: r
    · obtain ⟨r, rfl⟩ := hmark
      exact ⟨r, h, .inr rfl⟩
    · have hs : Partial.withoutMark s = s := by
        unfold Partial.withoutMark
        split
        · next r => exact absurd ⟨r, rfl⟩ hmark
        · rfl
      exact ⟨s, hs ▸ h, .inl rfl⟩

/-- A hollow text is read as a wildcard. -/
theorem ofChars?_of_isHollow (h : IsHollow s) : Partial.ofChars? s = some ⟨[], []⟩ := by
  have hcut : coreAndPre (withoutBuild (Partial.withoutMark s)) = ([], none) := by
    rw [isHollow_iff.1 h]
    rfl
  exact (Partial.ofChars?_eq_some_iff hcut).2 ⟨rfl, by decide, rfl, fun hpre => absurd rfl hpre⟩

/-- There are identifiers wherever a hyphen is. -/
theorem ne_nil_of_listOfChars? {is : List Identifier} (h : Identifier.listOfChars? s = some is) :
    is ≠ [] := by
  rintro rfl
  rw [Identifier.listOfChars?, split, List.mapM_cons] at h
  obtain ⟨i, -, h⟩ := Option.bind_eq_some_iff.1 h
  obtain ⟨is, -, h⟩ := Option.bind_eq_some_iff.1 h
  cases h

/-- The version texts that are read have a component, unless they are hollow: identifiers without
numbers are refused. -/
theorem hasComponent_iff (h : Partial.ofChars? s = some p) : HasComponent s ↔ ¬ IsHollow s := by
  rw [isHollow_iff, HasComponent, components]
  cases hcut : coreAndPre (withoutBuild (Partial.withoutMark s)) with
  | mk core text =>
  obtain ⟨his, -, hnumbers, hfull⟩ := (Partial.ofChars?_eq_some_iff hcut).1 h
  cases core with
  | nil =>
    refine iff_of_false (by simp [Partial.isWildcard, natUpTo?]) (not_not.2 ?_)
    rw [coreAndPre] at hcut
    split at hcut
    · -- Identifiers ask for three numbers, and here are none.
      obtain ⟨-, rfl⟩ := Prod.mk.inj hcut
      obtain hnil := Option.some.inj hnumbers
      exact absurd (hfull (ne_nil_of_listOfChars? his)) (by rw [← hnil]; decide)
    · exact (Prod.mk.inj hcut).1
  | cons x core =>
    refine iff_of_true ⟨_, List.mem_cons_self, ?_⟩ fun hnil => ?_
    · have hparts : Partial.parts (x :: core) = split '.' (x :: core) := rfl
      rw [hparts, split, Partial.numbersOfParts?] at hnumbers
      split at hnumbers
      · next hwild => exact .inl hwild
      · obtain ⟨n, hn, -⟩ := Option.bind_eq_some_iff.1 hnumbers
        exact .inr (Option.isSome_of_eq_some hn)
    · rw [hnil] at hcut
      cases hcut

/-! ### Terms without a component -/

/-- The term has no version: it is `>=` alone, or an operator or none with a mark, a build part or
both after it. -/
def IsVersionless (t : List Char) : Prop :=
  t = ['>', '='] ∨ versionText t ≠ [] ∧ IsHollow (versionText t)

theorem IsVersionless.isHollow (h : IsVersionless t) : IsHollow (versionText t) := by
  rcases h with rfl | ⟨-, h⟩
  · exact ⟨[], .inl rfl, .inl rfl⟩
  · exact h

theorem text_append_versionText (t : List Char) :
    (Operator.ofTerm t).1.text.toList ++ versionText t = t := by
  unfold versionText Operator.ofTerm
  split <;> simp [Operator.text]

theorem Operator.compares_eq_false {op : Operator} (h : op.ofPartial ⟨[], []⟩ = .ok cs) :
    op.compares = false := by
  cases op with
  | bare | eq | ge | tilde | caret => rfl
  | ne | gt | lt | le => cases h

/-- A term of operator characters alone is put together from two words. -/
theorem two_le_length_of_mem_termTexts {ws : List (List Char)} (h : ofWords ws = .ok cs)
    (hws : ∀ w ∈ ws, w ≠ []) (ht : t ∈ termTexts ws) (hop : t.all Operator.isChar = true) :
    2 ≤ t.length := by
  fun_induction ofWords ws generalizing cs with
  | case1 => cases ht
  | case2 w hw => cases h
  | case3 w hw v ws ih =>
    obtain ⟨ds, -, h⟩ := bind_eq_ok_iff.1 h
    obtain ⟨es, hes, -⟩ := bind_eq_ok_iff.1 h
    obtain ⟨hwne, hws⟩ := List.forall_mem_cons.1 hws
    obtain ⟨hvne, hws⟩ := List.forall_mem_cons.1 hws
    rw [termTexts, if_pos hw] at ht
    rcases List.mem_cons.1 ht with rfl | ht
    · rw [List.length_append]
      exact Nat.add_le_add (List.length_pos_iff.2 hwne) (List.length_pos_iff.2 hvne)
    · exact ih hes hws ht
  | case4 w ws hw ih =>
    obtain ⟨ds, -, h⟩ := bind_eq_ok_iff.1 h
    obtain ⟨es, hes, -⟩ := bind_eq_ok_iff.1 h
    rw [termTexts_cons hw] at ht
    rcases List.mem_cons.1 ht with rfl | ht
    · exact absurd hop hw
    · exact ih hes (List.forall_mem_cons.1 hws).2 ht

/-- Of the operators only `>=` is read with nothing after it, namely where its characters are two
words. -/
theorem eq_of_versionText_eq_nil (hlen : t.all Operator.isChar = true → 2 ≤ t.length)
    (hop : (Operator.ofTerm t).1.compares = false) (h : versionText t = []) : t = ['>', '='] := by
  have ht := text_append_versionText t
  rw [h, List.append_nil] at ht
  have hlen := hlen (ht ▸ Operator.all_isChar_text _)
  rw [← ht] at hlen ⊢
  cases hterm : (Operator.ofTerm t).1 with
  | ge => decide
  | bare | eq | tilde | caret =>
    rw [hterm] at hlen
    exact absurd hlen (by decide)
  | ne | gt | lt | le =>
    rw [hterm] at hop
    cases hop

/-- The terms that are read have a component, unless they are versionless. -/
theorem Writes.hasComponent_iff (h : Writes a cs) (ht : t ∈ terms a) :
    HasComponent (versionText t) ↔ ¬ IsVersionless t := by
  obtain ⟨css, hcss, -⟩ := h.forall₂_terms
  obtain ⟨ds, hds⟩ := exists_of_forall₂ hcss t ht
  obtain ⟨p, hp, hds⟩ := ofTerm_eq_ok_iff.1 hds
  rw [Constraint.hasComponent_iff hp, not_iff_not]
  refine ⟨fun hhollow => ?_, IsVersionless.isHollow⟩
  by_cases hnil : versionText t = []
  · obtain rfl := Option.some.inj (hp.symm.trans (ofChars?_of_isHollow hhollow))
    exact .inl (eq_of_versionText_eq_nil
      (two_le_length_of_mem_termTexts h (fun w => ne_nil_of_mem_words) ht)
      (Operator.compares_eq_false hds) hnil)
  · exact .inr ⟨hnil, hhollow⟩

theorem terms_eq_nil_iff : terms a = [] ↔ ∀ x ∈ a, x = ',' ∨ isBlank x = true := by
  rw [terms, termTexts_eq_nil_iff, words_eq_nil_iff, commasAsBlanks, List.forall_mem_map]
  refine forall₂_congr fun x _ => ?_
  by_cases hx : x = ','
  · simp [hx, isBlank]
  · simp [hx]

/-- An alternative that is not blank has a term, unless it is made of commas and white space. -/
theorem terms_ne_nil_iff (h : ∃ x ∈ a, isBlank x = false) :
    terms a ≠ [] ↔ (',' ∈ a → ∃ x ∈ a, x ≠ ',' ∧ isBlank x = false) := by
  have hne : terms a ≠ [] ↔ ∃ x ∈ a, x ≠ ',' ∧ isBlank x = false := by
    rw [ne_eq, terms_eq_nil_iff]
    simp only [not_forall, not_or, Bool.not_eq_true, exists_prop]
  rw [hne]
  refine ⟨fun hvisible _ => hvisible, fun hcomma => ?_⟩
  obtain ⟨x, hx, hblank⟩ := h
  by_cases hxcomma : x = ','
  · exact hcomma (hxcomma ▸ hx)
  · exact ⟨x, hx, hxcomma, hblank⟩

/-- A versionless term holds of every version. -/
theorem IsVersionless.termHolds (h : IsVersionless t) (v : Version) : TermHolds t v :=
  ⟨⟨[], []⟩, ofChars?_of_isHollow h.isHollow, .inl rfl⟩

/-! ### Constraints -/

/-- Every alternative has a term, and every term has a component. -/
def FailsClosed (s : List Char) : Prop :=
  ∀ a ∈ splitAlternatives s, terms a ≠ [] ∧ ∀ t ∈ terms a, HasComponent (versionText t)

instance : DecidablePred FailsClosed := fun s =>
  inferInstanceAs (Decidable (∀ a ∈ splitAlternatives s, _))

/-- **What fails open.** A constraint that is read and not blank fails closed, unless an alternative
is made of commas and white space or a term is versionless. An alternative of versionless terms
alone, or of no term, admits every release. -/
theorem failsClosed_iff {s : String} {c : Constraint} (h : ofString s = .ok c)
    (hs : ∃ x ∈ s.toList, isBlank x = false) :
    (FailsClosed s.toList ↔ ∀ a ∈ splitAlternatives s.toList,
      (',' ∈ a → ∃ x ∈ a, x ≠ ',' ∧ isBlank x = false) ∧ ∀ t ∈ terms a, ¬ IsVersionless t) ∧
    ∀ a ∈ splitAlternatives s.toList, (∀ t ∈ terms a, IsVersionless t) →
      ∀ v : Version, v.pre = [] → c.admits v = true := by
  constructor
  · refine forall₂_congr fun a ha => ?_
    obtain ⟨cs, hvisible, hwrites⟩ := exists_of_forall₂ (forall₂_writesVisibly h hs) a ha
    rw [terms_ne_nil_iff hvisible]
    exact and_congr_right' (forall₂_congr fun t ht => hwrites.hasComponent_iff ht)
  · intro a ha hterms v hv
    exact (admits_iff_terms h).2
      ⟨a, ha, fun t ht => (hterms t ht).termHolds v, fun hpre => absurd hv hpre⟩

/-- A double bar with a comma after it opens a caret to every release. -/
theorem failsClosed_iff_comma : ∃ c, ofString "^1.0 || ," = .ok c ∧
    (∃ x ∈ "^1.0 || ,".toList, isBlank x = false) ∧ ¬ FailsClosed "^1.0 || ,".toList ∧
    ∀ v : Version, v.pre = [] → c.admits v = true := by
  have h : ofString "^1.0 || ," =
      .ok ⟨"^1.0 || ,", [[⟨.ge, .release 1 0 0⟩, ⟨.lt, .release 2 0 0⟩], []]⟩ := by
    decide +kernel
  have hs : ∃ x ∈ "^1.0 || ,".toList, isBlank x = false := ⟨'^', by decide, by decide⟩
  have hcomma : [' ', ','] ∈ splitAlternatives "^1.0 || ,".toList := by decide +kernel
  have hterms : terms [' ', ','] = [] :=
    terms_eq_nil_iff.2 (List.forall_mem_cons.2 ⟨.inr rfl, List.forall_mem_singleton.2 (.inl rfl)⟩)
  obtain ⟨hclosed, hopen⟩ := failsClosed_iff h hs
  refine ⟨_, h, hs, fun hfails => ?_, hopen _ hcomma fun t ht => ?_⟩
  · obtain ⟨x, hx, hne, hblank⟩ := (hclosed.1 hfails _ hcomma).1 (by decide)
    rcases List.mem_pair.1 hx with rfl | rfl
    · cases hblank
    · exact hne rfl
  · rw [hterms] at ht
    cases ht

/-- The text is not blank and is read, but does not fail closed and admits the version. -/
def FailsOpen (s : String) (v : Version) : Prop :=
  ∃ c, ofString s = .ok c ∧ (∃ x ∈ s.toList, isBlank x = false) ∧ ¬ FailsClosed s.toList ∧
    c.admits v = true

/-- A constraint admits a release that no term names where an alternative is a comma, or where the
version of a term is a mark, a build part, a mark after an operator, or nothing after an operator of
two words. -/
theorem failsOpen_of_no_version : FailsOpen "^1.0 || ," (.release 7 0 0) ∧
    FailsOpen "v" (.release 7 0 0) ∧ FailsOpen "+b" (.release 7 0 0) ∧
    FailsOpen ">=v" (.release 7 0 0) ∧ FailsOpen "> =" (.release 7 0 0) :=
  ⟨⟨⟨"^1.0 || ,", [[⟨.ge, .release 1 0 0⟩, ⟨.lt, .release 2 0 0⟩], []]⟩, by decide +kernel,
      ⟨'^', by decide, rfl⟩, by decide +kernel, by decide⟩,
    ⟨⟨"v", [[]]⟩, by decide +kernel, ⟨'v', by decide, rfl⟩, by decide +kernel, by decide⟩,
    ⟨⟨"+b", [[]]⟩, by decide +kernel, ⟨'+', by decide, rfl⟩, by decide +kernel, by decide⟩,
    ⟨⟨">=v", [[]]⟩, by decide +kernel, ⟨'v', by decide, rfl⟩, by decide +kernel, by decide⟩,
    ⟨⟨"> =", [[]]⟩, by decide +kernel, ⟨'=', by decide, rfl⟩, by decide +kernel, by decide⟩⟩

end Constraint

end ImageDiscovery
