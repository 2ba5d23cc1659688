import ImageDiscovery.Proofs.Version.Full

/-!
# Constraints with an exclusion

A term with `!=` excludes one version. Put after an alternative it leaves out this version, and of
the releases nothing else changes. But it names what it excludes: where that is a pre-release, the
alternative now names a pre-release, so that others with the same numbers are admitted if all its
other terms hold of them, which were not admitted before. More than these an exclusion does not
admit.

## Main results

* `Constraint.ofTerm_exclusion_iff` — an exclusion is read as one comparator.
* `Constraint.alternativeAdmits_append_exclusion_iff` — what one more exclusion changes.
* `Constraint.ofString_append_exclusion` — what a constraint with an exclusion admits.
-/

namespace ImageDiscovery

open Text Version

variable {w v : Version}

namespace Constraint

/-! ### The term of an exclusion -/

section

variable {p : List Char} {cs ds : List Comparator}

/-- An exclusion is read as one comparator, unless the mark of its version is a capital. -/
theorem ofTerm_exclusion_iff (hp : Version.ofChars? true p = some w) :
    Constraint.ofTerm ('!' :: '=' :: p) = .ok ds ↔ p.head? ≠ some 'V' ∧ ds = [⟨.ne, w⟩] := by
  by_cases hmark : p.head? = some 'V'
  · obtain ⟨r, rfl⟩ := List.head?_eq_some_iff.1 hmark
    have hterm := ofTerm_append_capital r .ne
    exact iff_of_false (fun h => by cases hterm.symm.trans h) fun h => h.1 hmark
  · have hterm : Constraint.ofTerm ('!' :: '=' :: p) = .ok [⟨.ne, w⟩] :=
      ofTerm_append_version hp hmark .ne
    rw [hterm]
    exact ⟨fun h => ⟨hmark, (Except.ok.inj h).symm⟩, fun h => congrArg Except.ok h.2.symm⟩

/-- An exclusion is one word, and its version belongs to it. -/
theorem writes_exclusion_iff (hp : Version.ofChars? true p = some w)
    (hword : ∀ x ∈ p, isBlank x = false ∧ x ≠ ',') :
    Writes ('!' :: '=' :: p) ds ↔ Constraint.ofTerm ('!' :: '=' :: p) = .ok ds := by
  have hcomma : ',' ∉ '!' :: '=' :: p := by
    simp only [List.mem_cons, not_or]
    exact ⟨by decide, by decide, fun hmem => (hword ',' hmem).2 rfl⟩
  have hwords : ofWords (words ('!' :: '=' :: p)) = Constraint.ofTerm ('!' :: '=' :: p) :=
    ofWords_append_version hp (fun x hx => (hword x hx).1) .ne
  rw [Writes, commasAsBlanks_of_not_mem hcomma, hwords]

end

/-! ### Constraints with an exclusion -/

/-- With an exclusion an alternative admits what it admits without, less the excluded version, and
the pre-releases that only the exclusion names. -/
theorem alternativeAdmits_append_exclusion_iff {cs : List Comparator} :
    alternativeAdmits (cs ++ [⟨.ne, w⟩]) v = true ↔ v ≠ w ∧ (alternativeAdmits cs v = true ∨
      v.pre ≠ [] ∧ w.pre ≠ [] ∧ w.numbers = v.numbers ∧ ∀ c ∈ cs, c.holds v = true) := by
  have hne : Comparator.holds ⟨.ne, w⟩ v = true ↔ v ≠ w := holds_iff
  have hnames : (∃ c ∈ cs ++ [⟨.ne, w⟩], c.namesPrereleaseOf v = true) ↔
      (∃ c ∈ cs, c.namesPrereleaseOf v = true) ∨ w.pre ≠ [] ∧ w.numbers = v.numbers := by
    have hw : Comparator.namesPrereleaseOf ⟨.ne, w⟩ v = true ↔ w.pre ≠ [] ∧ w.numbers = v.numbers :=
      namesPrereleaseOf_iff
    simp only [List.mem_append, List.mem_singleton, or_and_right, exists_or, exists_eq_left, hw]
  rw [alternativeAdmits_iff, alternativeAdmits_iff, List.forall_mem_append,
    List.forall_mem_singleton, hne, hnames]
  constructor
  · rintro ⟨⟨hcs, hvw⟩, hnamed⟩
    refine ⟨hvw, ?_⟩
    -- Of a release nothing has to be named; a pre-release is named by the old terms or the new one.
    by_cases hv : v.pre = []
    · exact .inl ⟨hcs, fun hpre => absurd hv hpre⟩
    · exact (hnamed hv).imp (fun hnamed => ⟨hcs, fun _ => hnamed⟩)
        fun ⟨hw, hsame⟩ => ⟨hv, hw, hsame, hcs⟩
  · rintro ⟨hvw, ⟨hcs, hnamed⟩ | ⟨-, hw, hsame, hcs⟩⟩
    · exact ⟨⟨hcs, hvw⟩, fun hv => .inl (hnamed hv)⟩
    · exact ⟨⟨hcs, hvw⟩, fun _ => .inr ⟨hw, hsame⟩⟩

/-- **What a constraint with an exclusion admits.** After a constraint without double bars a full
version may be excluded, unless its mark is a capital. The constraint with the exclusion admits
nothing but what the constraint admits, less the excluded version, and, where this is a pre-release,
those with the same numbers of which all terms of the constraint hold. -/
theorem ofString_append_exclusion {a p : String} {c : Constraint} {w : Version}
    (h : ofString a = .ok c) (ha : ¬ "||".toList <:+: a.toList)
    (hp : Version.ofTag? true p = some w) (hword : ∀ x ∈ p.toList, isBlank x = false ∧ x ≠ ',')
    (hbar : ¬ "||".toList <:+: p.toList) :
    ((∃ d, ofString (a ++ " !=" ++ p) = .ok d) ↔ p.toList.head? ≠ some 'V') ∧
    ∀ d, ofString (a ++ " !=" ++ p) = .ok d → ∀ v : Version, d.admits v = true ↔
      v ≠ w ∧ (c.admits v = true ∨ v.pre ≠ [] ∧ w.pre ≠ [] ∧ w.numbers = v.numbers ∧
        ∀ t ∈ terms a.toList, TermHolds t v) := by
  obtain ⟨cs, rfl, hwrites⟩ := (ofChars_eq_ok_iff_of_unbarred ha).1 h
  have hchars : (a ++ " !=" ++ p).toList = a.toList ++ ' ' :: '!' :: '=' :: p.toList := by
    rw [String.toList_append, String.toList_append, List.append_assoc]
    rfl
  have hterm : ¬ ['|', '|'] <:+: '!' :: '=' :: p.toList := by
    simp only [List.infix_cons_iff, List.cons_prefix_cons, not_or]
    exact ⟨fun hfirst => absurd hfirst.1 (by decide), fun hfirst => absurd hfirst.1 (by decide),
      hbar⟩
  have hread (d : Constraint) : ofString (a ++ " !=" ++ p) = .ok d ↔ p.toList.head? ≠ some 'V' ∧
      d = ⟨String.ofList (trim (a ++ " !=" ++ p).toList), [cs ++ [⟨.ne, w⟩]]⟩ := by
    rw [ofString, hchars,
      ofChars_eq_ok_iff_of_unbarred (not_infix_append_cons (by decide) ha hterm)]
    simp only [hwrites.append_iff (.inl rfl), writes_exclusion_iff hp hword,
      ofTerm_exclusion_iff hp]
    constructor
    · rintro ⟨_, rfl, _, ⟨hmark, rfl⟩, rfl⟩
      exact ⟨hmark, rfl⟩
    · rintro ⟨hmark, rfl⟩
      exact ⟨_, rfl, _, ⟨hmark, rfl⟩, rfl⟩
  simp only [hread]
  constructor
  · exact ⟨fun h => h.elim fun d hd => hd.1, fun hmark => ⟨_, hmark, rfl⟩⟩
  · rintro d ⟨-, rfl⟩ v
    rw [admits_singleton, admits_singleton, alternativeAdmits_append_exclusion_iff,
      hwrites.holds_and_names_iff.1]

/-- A lower bound with an excluded candidate still admits the releases, and neither the candidate
nor one with other numbers. -/
theorem ofString_append_exclusion_candidate :
    let c : Constraint := ⟨">=1.0.0", [[⟨.ge, .release 1 0 0⟩]]⟩
    let w : Version := ⟨2, 0, 0, [.word "rc", .numeric 1]⟩
    ofString ">=1.0.0" = .ok c ∧ Version.ofTag? true "v2.0.0-rc.1" = some w ∧
      ∃ d, ofString ">=1.0.0 !=v2.0.0-rc.1" = .ok d ∧ d.admits w = false ∧
        d.admits (.release 2 0 0) = true ∧
        d.admits ⟨3, 0, 0, [.word "rc", .numeric 1]⟩ = false := by
  intro c w
  have hc : ofString ">=1.0.0" = .ok c := by decide +kernel
  have hw : Version.ofTag? true "v2.0.0-rc.1" = some w := by decide +kernel
  have hword : "v2.0.0-rc.1".toList.all (fun x => !isBlank x && x != ',') = true := by
    decide +kernel
  obtain ⟨haccepted, hadmits⟩ := ofString_append_exclusion hc
    (fun h => absurd (h.subset List.mem_cons_self) (by decide +kernel)) hw
    (fun x hx => by simpa using List.all_eq_true.1 hword x hx)
    (fun h => absurd (h.subset List.mem_cons_self) (by decide +kernel))
  obtain ⟨d, hd⟩ := haccepted.2 (by decide +kernel)
  refine ⟨hc, hw, d, hd, Bool.eq_false_iff.2 fun hw => ?_, ?_, Bool.eq_false_iff.2 fun hv => ?_⟩
  · exact ((hadmits d hd w).1 hw).1 rfl
  · exact (hadmits d hd _).2 ⟨by decide, .inl (by decide)⟩
  · rcases ((hadmits d hd _).1 hv).2 with hc | ⟨-, -, hsame, -⟩
    · exact absurd hc (by decide)
    · exact absurd hsame (by decide)

/-- Excluding a candidate lets the next candidate in, which was not admitted before. -/
theorem exists_admitted_by_exclusion : ∃ (c d : Constraint) (w v : Version),
    ofString ">=1.0.0" = .ok c ∧ ¬ "||".toList <:+: ">=1.0.0".toList ∧
      Version.ofTag? true "2.0.0-rc.1" = some w ∧ ofString ">=1.0.0 !=2.0.0-rc.1" = .ok d ∧
      d.admits v = true ∧ ¬ (c.admits v = true ∧ v ≠ w) := by
  let w : Version := ⟨2, 0, 0, [.word "rc", .numeric 1]⟩
  refine ⟨⟨">=1.0.0", [[⟨.ge, .release 1 0 0⟩]]⟩,
    ⟨">=1.0.0 !=2.0.0-rc.1", [[⟨.ge, .release 1 0 0⟩, ⟨.ne, w⟩]]⟩, w,
    ⟨2, 0, 0, [.word "rc", .numeric 2]⟩, by decide +kernel, fun h => ?_, by decide +kernel,
    by decide +kernel, by decide, by decide⟩
  exact absurd (h.subset List.mem_cons_self) (by decide +kernel)

end Constraint

end ImageDiscovery
