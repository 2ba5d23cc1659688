import ImageDiscovery.Proofs.Outcome
import ImageDiscovery.Proofs.Text.Parts
import ImageDiscovery.Proofs.Version.Term

/-!
# Constraints that are put together

A constraint is cut at double bars into alternatives, and an alternative at white space and commas
into words, of which its comparators are read in order. So two alternatives with a blank or a comma
between them are one alternative with the comparators of both, and two constraints with a double bar
between them are one constraint with the alternatives of both. The latter needs that neither of them
is blank: a blank constraint has one alternative that asks nothing, and a blank alternative among
several is refused.

## Main definitions

* `Constraint.Writes`, `Constraint.WritesVisibly` — an alternative writes comparators, and is not
  blank.

## Main results

* `Constraint.splitAlternatives_append_bars` — the alternatives of two texts with bars between them.
* `Constraint.ofWords_append` — the comparators of words that follow an alternative.
* `Constraint.ofChars_eq_ok_iff` — the constraints that are read, alternative by alternative.
* `Constraint.ofString_append_admits` — what constraints that are put together admit.
-/

namespace ImageDiscovery

open Text

namespace Constraint

variable {s t : List Char} {c : Constraint} {cs : List Comparator}

/-! ### Cutting at double bars -/

/-- A text with one alternative is this alternative. -/
theorem eq_of_splitAlternatives_eq_singleton {a : List Char} (h : splitAlternatives s = [a]) :
    a = s := by
  fun_induction splitAlternativesHead s generalizing a with
  | case1 => exact (List.cons.inj h).1.symm
  | case2 s ih => cases (List.cons.inj h).2
  | case3 x s hbars ih =>
    rw [splitAlternatives_cons hbars, splitAlternatives, List.modifyHead_cons] at h
    obtain ⟨rfl, hnil⟩ := List.cons.inj h
    rw [ih (a := (splitAlternativesHead s).1) (by rw [splitAlternatives, hnil])]

/-- No double bar comes about where another character stands between two texts. -/
theorem not_infix_append_cons {x : Char} (hx : x ≠ '|') (hs : ¬ ['|', '|'] <:+: s)
    (ht : ¬ ['|', '|'] <:+: t) : ¬ ['|', '|'] <:+: s ++ x :: t := by
  induction s with
  | nil =>
    rw [List.nil_append, List.infix_cons_iff, not_or]
    exact ⟨fun h => hx (List.cons_prefix_cons.1 h).1.symm, ht⟩
  | cons y s ih =>
    rw [List.infix_cons_iff, not_or] at hs
    rw [List.cons_append, List.infix_cons_iff, not_or]
    refine ⟨fun h => ?_, ih hs.2⟩
    obtain ⟨rfl, hbar⟩ := List.cons_prefix_cons.1 h
    cases s with
    | nil => exact hx (List.cons_prefix_cons.1 hbar).1.symm
    | cons z s =>
      obtain ⟨rfl, -⟩ := List.cons_prefix_cons.1 hbar
      exact hs.1 (List.prefix_append ['|', '|'] s)

/-- The next character of a text and that of the text with more after it are both bars or both
none, if what comes after it begins with a blank. -/
theorem ne_bar_cons_append {x : Char} (h : ∀ r, x = '|' → s ≠ '|' :: r) (t r : List Char)
    (hx : x = '|') : s ++ ' ' :: t ≠ '|' :: r := by
  cases s with
  | nil => exact fun heq => absurd (List.cons.inj heq).1 (by decide)
  | cons y s =>
    intro heq
    obtain ⟨rfl, -⟩ := List.cons.inj heq
    exact h s hx rfl

/-- The alternatives before a double bar and those after it are the alternatives of the text. -/
theorem splitAlternatives_append_bars (s t : List Char) :
    splitAlternatives (s ++ ' ' :: '|' :: '|' :: t) =
      splitAlternatives (s ++ [' ']) ++ splitAlternatives t := by
  fun_induction splitAlternativesHead s with
  | case1 => rfl
  | case2 s ih => exact congrArg ([] :: ·) ih
  | case3 x s hbars ih =>
    rw [List.cons_append, List.cons_append, splitAlternatives_cons (ne_bar_cons_append hbars _),
      splitAlternatives_cons (ne_bar_cons_append hbars []), ih]
    rfl

/-- A blank at the end of a text is at the end of its last alternative. -/
theorem forall₂_splitAlternatives_append_blank (s : List Char) :
    List.Forall₂ (fun a a' => a' = a ∨ a' = a ++ [' ']) (splitAlternatives s)
      (splitAlternatives (s ++ [' '])) := by
  fun_induction splitAlternativesHead s with
  | case1 => exact .cons (.inr rfl) .nil
  | case2 s ih => exact .cons (.inl rfl) ih
  | case3 x s hbars ih =>
    rw [List.cons_append, splitAlternatives_cons hbars,
      splitAlternatives_cons (ne_bar_cons_append hbars [])]
    obtain ⟨hhead, htail⟩ := List.forall₂_cons.1 ih
    exact .cons (hhead.imp (congrArg (x :: ·)) (congrArg (x :: ·))) htail

/-! ### Reading words -/

theorem ofWords_cons {w : List Char} (hw : ¬ w.all Operator.isChar = true)
    (ws : List (List Char)) :
    ofWords (w :: ws) = do return (← Constraint.ofTerm w) ++ (← ofWords ws) := by
  cases ws with
  | nil => exact if_neg hw
  | cons v ws => exact if_neg hw

/-- The comparators of words that follow an alternative come after its own: no operator at the end
of an alternative waits for them. -/
theorem ofWords_append {ws : List (List Char)} (h : ofWords ws = .ok cs) (us : List (List Char)) :
    ofWords (ws ++ us) = (cs ++ ·) <$> ofWords us := by
  fun_induction ofWords ws generalizing cs with
  | case1 =>
    obtain rfl := Except.ok.inj h
    exact (id_map (ofWords us)).symm
  | case2 w hw => cases h
  | case3 w hw v ws ih =>
    obtain ⟨ds, hds, h⟩ := bind_eq_ok_iff.1 h
    obtain ⟨es, hes, h⟩ := bind_eq_ok_iff.1 h
    obtain rfl := Except.ok.inj h
    rw [List.cons_append, List.cons_append, ofWords, if_pos hw, hds, ih hes]
    cases ofWords us with
    | error fault => rfl
    | ok fs => exact congrArg Except.ok (List.append_assoc ds es fs).symm
  | case4 w ws hw ih =>
    obtain ⟨ds, hds, h⟩ := bind_eq_ok_iff.1 h
    obtain ⟨es, hes, h⟩ := bind_eq_ok_iff.1 h
    obtain rfl := Except.ok.inj h
    rw [List.cons_append, ofWords_cons hw, hds, ih hes]
    cases ofWords us with
    | error fault => rfl
    | ok fs => exact congrArg Except.ok (List.append_assoc ds es fs).symm

/-- The alternative writes the comparators. -/
def Writes (a : List Char) (cs : List Comparator) : Prop :=
  ofWords (words (commasAsBlanks a)) = .ok cs

/-- What follows an alternative after a blank or a comma adds its comparators. -/
theorem Writes.append_iff {ds : List Comparator} {x : Char} (hs : Writes s cs)
    (hx : x = ' ' ∨ x = ',') : Writes (s ++ x :: t) ds ↔ ∃ es, Writes t es ∧ cs ++ es = ds := by
  have hblank : commasAsBlanks (s ++ x :: t) = commasAsBlanks s ++ ' ' :: commasAsBlanks t := by
    rcases hx with rfl | rfl
    · exact List.map_append
    · exact List.map_append
  rw [Writes, hblank, words_append_cons rfl, ofWords_append hs, ← bind_pure_comp, bind_eq_ok_iff]
  exact exists_congr fun es => and_congr_right' ⟨Except.ok.inj, congrArg Except.ok⟩

/-- Alternatives with a blank or a comma between them write the comparators of both. -/
theorem Writes.append {ds : List Comparator} {x : Char} (hs : Writes s cs) (ht : Writes t ds)
    (hx : x = ' ' ∨ x = ',') : Writes (s ++ x :: t) (cs ++ ds) :=
  (hs.append_iff hx).2 ⟨ds, ht, rfl⟩

theorem writes_nil : Writes [] [] := rfl

/-- A text of white space writes nothing. -/
theorem writes_of_blank (h : ∀ x ∈ s, isBlank x = true) : Writes s [] := by
  have hcomma : ',' ∉ s := fun hmem => Bool.false_ne_true (h ',' hmem)
  rw [Writes, commasAsBlanks_of_not_mem hcomma, words_of_blank h, ofWords]

theorem ofAlternative_eq_ok_iff {several : Bool} : ofAlternative several s = .ok cs ↔
    (several = true → ∃ x ∈ s, isBlank x = false) ∧ Writes s cs := by
  rw [ofAlternative, bind_eq_ok_iff]
  constructor
  · rintro ⟨ds, hds, h⟩
    split at h
    · cases h
    · next hrefused =>
      obtain rfl := Except.ok.inj h
      refine ⟨fun hseveral => ?_, hds⟩
      by_contra hblank
      have hall : ∀ x ∈ s, isBlank x = true := by simpa using hblank
      obtain rfl := Except.ok.inj ((writes_of_blank hall).symm.trans hds)
      exact hrefused (by rw [trim_eq_nil_iff.2 hall, hseveral]; rfl)
  · rintro ⟨hblank, hwrites⟩
    refine ⟨cs, hwrites, if_neg fun hrefused => ?_⟩
    simp only [Bool.and_eq_true, List.isEmpty_iff, trim_eq_nil_iff] at hrefused
    obtain ⟨x, hx, hxs⟩ := hblank hrefused.2
    exact Bool.false_ne_true (hxs.symm.trans (hrefused.1.2 x hx))

/-- **The constraints that are read.** Each alternative writes comparators, and none of several is
blank. -/
theorem ofChars_eq_ok_iff : ofChars s = .ok c ↔
    c.source = String.ofList (trim s) ∧
    List.Forall₂ Writes (splitAlternatives s) c.alternatives ∧
    (1 < (splitAlternatives s).length → ∀ a ∈ splitAlternatives s, ∃ x ∈ a, isBlank x = false) := by
  obtain ⟨source, alternatives⟩ := c
  rw [ofChars, bind_eq_ok_iff]
  simp only [mapM_eq_ok_iff, ofAlternative_eq_ok_iff, List.forall₂_and_left, decide_eq_true_eq]
  constructor
  · rintro ⟨css, ⟨hblank, hwrites⟩, h⟩
    cases h
    exact ⟨rfl, hwrites, fun hlen a ha => hblank a ha hlen⟩
  · rintro ⟨rfl, hwrites, hblank⟩
    exact ⟨alternatives, ⟨fun a ha hlen => hblank hlen a ha, hwrites⟩, rfl⟩

/-- No alternative of a constraint is blank, unless the constraint is. -/
theorem not_blank_of_ofChars (h : ofChars s = .ok c) (hs : ∃ x ∈ s, isBlank x = false) :
    ∀ a ∈ splitAlternatives s, ∃ x ∈ a, isBlank x = false := by
  obtain ⟨-, -, hblank⟩ := ofChars_eq_ok_iff.1 h
  by_cases hlen : 1 < (splitAlternatives s).length
  · exact hblank hlen
  · obtain ⟨a, ha⟩ : ∃ a, splitAlternatives s = [a] :=
      List.length_eq_one_iff.1 (Nat.le_antisymm (Nat.not_lt.1 hlen) (Nat.succ_pos _))
    rw [ha, List.forall_mem_singleton, eq_of_splitAlternatives_eq_singleton ha]
    exact hs

/-- A text without a double bar is read as one alternative. -/
theorem ofChars_eq_ok_iff_of_unbarred (h : ¬ ['|', '|'] <:+: s) : ofChars s = .ok c ↔
    ∃ cs, c = ⟨String.ofList (trim s), [cs]⟩ ∧ Writes s cs := by
  obtain ⟨source, alternatives⟩ := c
  rw [ofChars_eq_ok_iff, splitAlternatives_of_unbarred h]
  simp only [List.length_singleton, Nat.lt_irrefl, false_implies, and_true,
    List.forall₂_cons_left_iff, List.forall₂_nil_left_iff, Constraint.mk.injEq]
  constructor
  · rintro ⟨hsource, cs, css, hwrites, rfl, rfl⟩
    exact ⟨cs, ⟨hsource, rfl⟩, hwrites⟩
  · rintro ⟨cs, ⟨hsource, rfl⟩, hwrites⟩
    exact ⟨hsource, cs, [], hwrites, rfl, rfl⟩

/-! ### Putting constraints together -/

/-- The alternative is not blank, and writes the comparators. -/
def WritesVisibly (a : List Char) (cs : List Comparator) : Prop :=
  (∃ x ∈ a, isBlank x = false) ∧ Writes a cs

theorem WritesVisibly.append_blank (h : WritesVisibly s cs) : WritesVisibly (s ++ [' ']) cs := by
  obtain ⟨⟨x, hx, hblank⟩, hwrites⟩ := h
  have happend := hwrites.append writes_nil (.inl rfl)
  rw [List.append_nil] at happend
  exact ⟨⟨x, List.mem_append_left _ hx, hblank⟩, happend⟩

theorem WritesVisibly.cons_blank (h : WritesVisibly s cs) : WritesVisibly (' ' :: s) cs := by
  obtain ⟨⟨x, hx, hblank⟩, hwrites⟩ := h
  exact ⟨⟨x, List.mem_cons_of_mem _ hx, hblank⟩, writes_nil.append hwrites (.inl rfl)⟩

theorem forall₂_writesVisibly (h : ofChars s = .ok c) (hs : ∃ x ∈ s, isBlank x = false) :
    List.Forall₂ WritesVisibly (splitAlternatives s) c.alternatives :=
  (List.forall₂_and_left ..).2 ⟨not_blank_of_ofChars h hs, (ofChars_eq_ok_iff.1 h).2.1⟩

theorem ofChars_of_forall₂_writesVisibly {css : List (List Comparator)}
    (h : List.Forall₂ WritesVisibly (splitAlternatives s) css) :
    ofChars s = .ok ⟨String.ofList (trim s), css⟩ := by
  obtain ⟨hblank, hwrites⟩ := (List.forall₂_and_left ..).1 h
  exact ofChars_eq_ok_iff.2 ⟨rfl, hwrites, fun _ => hblank⟩

theorem forall₂_writesVisibly_append_blank {css : List (List Comparator)}
    (h : List.Forall₂ WritesVisibly (splitAlternatives s) css) :
    List.Forall₂ WritesVisibly (splitAlternatives (s ++ [' '])) css := by
  have hpadded := forall₂_splitAlternatives_append_blank s
  generalize splitAlternatives s = as at h hpadded
  generalize splitAlternatives (s ++ [' ']) = as' at hpadded
  induction h generalizing as' with
  | nil =>
    cases hpadded
    exact .nil
  | cons hwrites htail ih =>
    obtain ⟨a', as', hhead, hrest, rfl⟩ := List.forall₂_cons_left_iff.1 hpadded
    refine .cons ?_ (ih _ hrest)
    rcases hhead with rfl | rfl
    · exact hwrites
    · exact hwrites.append_blank

theorem forall₂_writesVisibly_cons_blank {css : List (List Comparator)}
    (h : List.Forall₂ WritesVisibly (splitAlternatives s) css) :
    List.Forall₂ WritesVisibly (splitAlternatives (' ' :: s)) css := by
  rw [splitAlternatives_cons fun r hbar => absurd hbar (by decide)]
  obtain ⟨cs, css, hhead, htail, rfl⟩ := List.forall₂_cons_left_iff.1 h
  exact .cons hhead.cons_blank htail

/-- Constraints that are not blank, with bars between them, are read as the alternatives of both. -/
theorem ofChars_append_bars {d : Constraint} (hs : ofChars s = .ok c) (ht : ofChars t = .ok d)
    (hsblank : ∃ x ∈ s, isBlank x = false) (htblank : ∃ x ∈ t, isBlank x = false) :
    ofChars (s ++ ' ' :: '|' :: '|' :: ' ' :: t) =
      .ok ⟨String.ofList (trim (s ++ ' ' :: '|' :: '|' :: ' ' :: t)),
        c.alternatives ++ d.alternatives⟩ := by
  refine ofChars_of_forall₂_writesVisibly ?_
  rw [splitAlternatives_append_bars]
  exact List.rel_append
    (forall₂_writesVisibly_append_blank (forall₂_writesVisibly hs hsblank))
    (forall₂_writesVisibly_cons_blank (forall₂_writesVisibly ht htblank))

/-- Constraints without double bars, with a blank or a comma between them, are read as one
alternative with the comparators of both. -/
theorem ofChars_append_cons {d : Constraint} {x : Char} (hs : ofChars s = .ok c)
    (ht : ofChars t = .ok d) (hsbar : ¬ ['|', '|'] <:+: s) (htbar : ¬ ['|', '|'] <:+: t)
    (hx : x = ' ' ∨ x = ',') : ∃ cs ds, c.alternatives = [cs] ∧ d.alternatives = [ds] ∧
      ofChars (s ++ x :: t) = .ok ⟨String.ofList (trim (s ++ x :: t)), [cs ++ ds]⟩ := by
  obtain ⟨cs, rfl, hcs⟩ := (ofChars_eq_ok_iff_of_unbarred hsbar).1 hs
  obtain ⟨ds, rfl, hds⟩ := (ofChars_eq_ok_iff_of_unbarred htbar).1 ht
  have hbar : x ≠ '|' := by
    rcases hx with rfl | rfl
    · decide
    · decide
  refine ⟨cs, ds, rfl, rfl, ?_⟩
  exact (ofChars_eq_ok_iff_of_unbarred (not_infix_append_cons hbar hsbar htbar)).2
    ⟨_, rfl, hcs.append hds hx⟩

/-- An alternative admits a version of which all its comparators hold; if it is a pre-release, one
of them has to name a pre-release with its numbers. -/
theorem alternativeAdmits_iff {v : Version} : alternativeAdmits cs v = true ↔
    (∀ c ∈ cs, c.holds v = true) ∧
      (v.pre ≠ [] → ∃ c ∈ cs, c.namesPrereleaseOf v = true) := by
  rw [alternativeAdmits, Bool.and_eq_true, List.all_eq_true, Version.isPrerelease, Bool.not_not,
    Bool.or_eq_true, List.isEmpty_iff, List.any_eq_true, or_iff_not_imp_left]

/-- **What constraints that are put together admit.** Two constraints without double bars may be
joined by a blank or by a comma, and then admit the releases that both of them admit. Two
constraints that are not blank may be joined by a double bar, and then admit the versions, releases
and pre-releases, that one of them admits. -/
theorem ofString_append_admits {a b : String} {d : Constraint} (ha : ofString a = .ok c)
    (hb : ofString b = .ok d) :
    (¬ "||".toList <:+: a.toList → ¬ "||".toList <:+: b.toList → ∀ sep ∈ [" ", ","],
      ∃ e, ofString (a ++ sep ++ b) = .ok e ∧ ∀ v : Version, v.pre = [] →
        (e.admits v = true ↔ c.admits v = true ∧ d.admits v = true)) ∧
    ((∃ x ∈ a.toList, isBlank x = false) → (∃ x ∈ b.toList, isBlank x = false) →
      ∃ e, ofString (a ++ " || " ++ b) = .ok e ∧ ∀ v : Version,
        (e.admits v = true ↔ c.admits v = true ∨ d.admits v = true)) := by
  constructor
  · intro hbara hbarb sep hsep
    obtain ⟨x, hx, hsep⟩ : ∃ x, (x = ' ' ∨ x = ',') ∧ sep.toList = [x] := by
      rcases List.mem_pair.1 hsep with rfl | rfl
      · exact ⟨' ', .inl rfl, rfl⟩
      · exact ⟨',', .inr rfl, rfl⟩
    obtain ⟨cs, ds, hcs, hds, he⟩ := ofChars_append_cons ha hb hbara hbarb hx
    have hchars : (a ++ sep ++ b).toList = a.toList ++ x :: b.toList := by
      rw [String.toList_append, String.toList_append, hsep, List.append_assoc,
        List.singleton_append]
    rw [ofString, hchars]
    refine ⟨_, he, fun v hv => ?_⟩
    simp only [admits, hcs, hds, List.any_cons, List.any_nil, Bool.or_false,
      alternativeAdmits_iff, hv, ne_eq, not_true_eq_false, false_implies, and_true,
      List.forall_mem_append]
  · intro hblanka hblankb
    have hchars : (a ++ " || " ++ b).toList =
        a.toList ++ ' ' :: '|' :: '|' :: ' ' :: b.toList := by
      rw [String.toList_append, String.toList_append, List.append_assoc]
      rfl
    rw [ofString, hchars]
    refine ⟨_, ofChars_append_bars ha hb hblanka hblankb, fun v => ?_⟩
    rw [admits, List.any_append, Bool.or_eq_true]
    rfl

/-- With a comma between them both constraints count, and with a bar one of them is enough, also for
a pre-release that only the second one names. -/
theorem ofString_append_admits_caret :
    let c : Constraint := ⟨"^1.0", [[⟨.ge, .release 1 0 0⟩, ⟨.lt, .release 2 0 0⟩]]⟩
    let candidate : Version := ⟨1, 2, 0, [.word "rc", .numeric 1]⟩
    let d : Constraint := ⟨">=1.2.0-rc.0", [[⟨.ge, ⟨1, 2, 0, [.word "rc", .numeric 0]⟩⟩]]⟩
    ofString "^1.0" = .ok c ∧ ofString ">=1.2.0-rc.0" = .ok d ∧
      (∃ e, ofString "^1.0,>=1.2.0-rc.0" = .ok e ∧ e.admits (.release 1 1 0) = false ∧
        e.admits (.release 1 3 0) = true) ∧
      ∃ e, ofString "^1.0 || >=1.2.0-rc.0" = .ok e ∧ c.admits candidate = false ∧
        e.admits candidate = true := by
  intro c candidate d
  have hc : ofString "^1.0" = .ok c := by decide +kernel
  have hd : ofString ">=1.2.0-rc.0" = .ok d := by decide +kernel
  obtain ⟨hjoined, hbarred⟩ := ofString_append_admits hc hd
  obtain ⟨e, he, hboth⟩ := hjoined (fun h => absurd (h.subset List.mem_cons_self) (by decide))
    (fun h => absurd (h.subset List.mem_cons_self) (by decide)) "," (by decide)
  obtain ⟨f, hf, hone⟩ := hbarred ⟨'^', by decide, by decide⟩ ⟨'>', by decide, by decide⟩
  refine ⟨hc, hd, ⟨e, he, Bool.eq_false_iff.2 fun h => ?_, ?_⟩, f, hf, by decide, ?_⟩
  · exact absurd ((hboth (.release 1 1 0) rfl).1 h).2 (by decide)
  · exact (hboth (.release 1 3 0) rfl).2 ⟨by decide, by decide⟩
  · exact (hone candidate).2 (.inr (by decide))

end Constraint

end ImageDiscovery
