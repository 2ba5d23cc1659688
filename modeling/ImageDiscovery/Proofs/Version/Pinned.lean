import ImageDiscovery.Proofs.Version.Full

/-!
# Constraints that pin a tag

A tag that writes a full version may stand as a constraint, alone or after `=`. It then admits the
version of the tag and nothing else: a release is named by itself, and a pre-release is admitted
since the constraint names it. But the mark of the tag may be a capital, and that is no mark of a
term: a constraint with such a tag is refused.

## Main definitions

* `IsTagChar` — the characters of image tags.

## Main results

* `Constraint.ofString_append_tag` — a constraint of an operator and a tag has one term.
* `Constraint.alternativeAdmits_pin` — what one version with `=` admits.
* `Constraint.pinned_tag_admits_iff` — what a constraint that pins a tag admits.
-/

namespace ImageDiscovery

open Text Version

/-- The characters of image tags: letters, digits, underscores, dots and hyphens. -/
def IsTagChar (x : Char) : Prop := isLetterOrDigit x = true ∨ x = '_' ∨ x = '.' ∨ x = '-'

instance : DecidablePred IsTagChar := fun _ => inferInstanceAs (Decidable (_ ∨ _))

theorem forall_isTagChar {s : List Char} (h : (s.all fun x => decide (IsTagChar x)) = true) :
    ∀ x ∈ s, IsTagChar x :=
  fun x hx => of_decide_eq_true (List.all_eq_true.1 h x hx)

/-- No character of a tag separates terms or alternatives. -/
theorem IsTagChar.isBlank_eq_false {x : Char} (h : IsTagChar x) :
    isBlank x = false ∧ x ≠ ',' ∧ x ≠ '|' := by
  rcases h with h | rfl | rfl | rfl
  · have hchar : Identifier.isChar x = true := by rw [Identifier.isChar, h, Bool.true_or]
    refine ⟨Identifier.isBlank_of_isChar hchar, ?_, ?_⟩
    · rintro rfl
      cases h
    · rintro rfl
      cases h
  all_goals decide

namespace Constraint

variable {v w : Version} {tag : String}

/-- A constraint of an operator and a tag with a full version has one term. -/
theorem ofString_append_tag (hw : Version.ofTag? true tag = some w)
    (htag : ∀ x ∈ tag.toList, IsTagChar x) (op : Operator) :
    ofString (op.text ++ tag) =
      (fun cs => ⟨String.ofList (trim (op.text ++ tag).toList), [cs]⟩) <$>
        Constraint.ofTerm (op.text.toList ++ tag.toList) := by
  have hmem {x : Char} (hx : Operator.isChar x = false) (h : x ∈ op.text.toList ++ tag.toList) :
      x ∈ tag.toList := by
    refine (List.mem_append.1 h).resolve_left fun hop => ?_
    cases hx.symm.trans (List.all_eq_true.1 op.all_isChar_text x hop)
  have hbar : '|' ∉ op.text.toList ++ tag.toList := fun h =>
    (htag '|' (hmem rfl h)).isBlank_eq_false.2.2 rfl
  have hcomma : ',' ∉ op.text.toList ++ tag.toList := fun h =>
    (htag ',' (hmem rfl h)).isBlank_eq_false.2.1 rfl
  rw [ofString, String.toList_append, ofChars_of_not_mem hbar hcomma,
    ofWords_append_version hw (fun x hx => (htag x hx).isBlank_eq_false.1) op]

/-- An alternative that asks for one version admits it and nothing else. -/
theorem alternativeAdmits_pin : alternativeAdmits [⟨.eq, w⟩] v = true ↔ v = w := by
  have heq : Comparator.holds ⟨.eq, w⟩ v = true ↔ v = w := holds_iff
  rw [alternativeAdmits_iff, List.forall_mem_singleton, heq]
  refine and_iff_left_of_imp ?_
  rintro rfl hpre
  exact ⟨_, List.mem_singleton_self _, namesPrereleaseOf_iff.2 ⟨hpre, rfl⟩⟩

/-- **What a constraint that pins a tag admits.** A tag with a full version is written as a
constraint, alone or after `=`. If its mark is a capital the constraint is refused, and otherwise it
admits the version of the tag and nothing else. -/
theorem pinned_tag_admits_iff (hw : Version.ofTag? true tag = some w)
    (htag : ∀ x ∈ tag.toList, IsTagChar x) : ∀ pin ∈ ["", "="],
      (tag.toList.head? = some 'V' → ofString (pin ++ tag) = .error (.invalidVersion tag)) ∧
      (tag.toList.head? ≠ some 'V' →
        ∃ c, ofString (pin ++ tag) = .ok c ∧ ∀ v : Version, c.admits v = true ↔ v = w) := by
  have hpins (op : Operator) (hop : op.ofPartial ⟨w.numbers, w.pre⟩ = .ok [⟨.eq, w⟩]) :
      (tag.toList.head? = some 'V' → ofString (op.text ++ tag) = .error (.invalidVersion tag)) ∧
      (tag.toList.head? ≠ some 'V' → ∃ c, ofString (op.text ++ tag) = .ok c ∧
        ∀ v : Version, c.admits v = true ↔ v = w) := by
    rw [ofString_append_tag hw htag op]
    refine ⟨fun hmark => ?_, fun hmark => ?_⟩
    · obtain ⟨s, hs⟩ := List.head?_eq_some_iff.1 hmark
      have htext : String.ofList ('V' :: s) = tag := by rw [← hs, String.ofList_toList]
      rw [hs, ofTerm_append_capital, htext]
      rfl
    · rw [ofTerm_append_version hw hmark, hop]
      exact ⟨_, rfl, fun v => admits_singleton ▸ alternativeAdmits_pin⟩
  exact List.forall_mem_cons.2
    ⟨hpins .bare rfl, List.forall_mem_singleton.2 (hpins .eq rfl)⟩

/-- A candidate that is pinned is admitted, and neither its release nor the next candidate is. -/
theorem pinned_tag_admits_iff_candidate :
    let w : Version := ⟨1, 4, 0, [.word "rc", .numeric 1]⟩
    Version.ofTag? true "v1.4.0-rc.1" = some w ∧ (∀ x ∈ "v1.4.0-rc.1".toList, IsTagChar x) ∧
      ∃ c, ofString "=v1.4.0-rc.1" = .ok c ∧ c.admits w = true ∧
        c.admits (.release 1 4 0) = false ∧
        c.admits ⟨1, 4, 0, [.word "rc", .numeric 2]⟩ = false := by
  intro w
  have hw : Version.ofTag? true "v1.4.0-rc.1" = some w := by decide +kernel
  have htag : ∀ x ∈ "v1.4.0-rc.1".toList, IsTagChar x := forall_isTagChar (by decide +kernel)
  obtain ⟨c, hc, hadmits⟩ :=
    (pinned_tag_admits_iff hw htag "=" (by decide)).2 (by decide +kernel)
  refine ⟨hw, htag, c, hc, (hadmits w).2 rfl, ?_, ?_⟩
  · exact Bool.eq_false_iff.2 fun h => absurd ((hadmits _).1 h) (by decide)
  · exact Bool.eq_false_iff.2 fun h => absurd ((hadmits _).1 h) (by decide)

/-- A tag with a capital mark writes a version, and as a constraint it is refused. -/
theorem exists_tag_not_pinned : ∃ (tag : String) (w : Version),
    (∀ x ∈ tag.toList, IsTagChar x) ∧ Version.ofTag? true tag = some w ∧
      (¬ ∃ c, ofString tag = .ok c) ∧ ¬ ∃ c, ofString ("=" ++ tag) = .ok c := by
  have hbare : ofString "V1.2.3" = .error (.invalidVersion "V1.2.3") := by decide +kernel
  have heq : ofString ("=" ++ "V1.2.3") = .error (.invalidVersion "V1.2.3") := by decide +kernel
  refine ⟨"V1.2.3", .release 1 2 3, forall_isTagChar (by decide +kernel), by decide +kernel, ?_, ?_⟩
  · rintro ⟨c, hc⟩
    cases hbare.symm.trans hc
  · rintro ⟨c, hc⟩
    cases heq.symm.trans hc

end Constraint

end ImageDiscovery
