import ImageDiscovery.Proofs.Version.Operator
import ImageDiscovery.Proofs.Version.Written

/-!
# Constraints of one term

A term is written as an operator and a partial version, and white space may stand at its ends and
between the two. A constraint that consists of one term is refused exactly if the operator with the
version is, and otherwise it admits exactly the releases of which the operator with the version
holds.

## Main definitions

* `TermText` — a term as it is written.

## Main results

* `TermText.ofWords_words` — the operator and the version are put together again.
* `TermText.ofString_text` — what a constraint of one term admits.
-/

namespace ImageDiscovery

open Text Version

namespace Constraint

namespace Operator

/-! ### Reading the operator -/

theorem mem_of_isChar {c : Char} (h : isChar c = true) :
    c = '<' ∨ c = '>' ∨ c = '=' ∨ c = '!' ∨ c = '^' ∨ c = '~' := by
  simpa [isChar] using h

theorem all_isChar_text (op : Operator) : op.text.toList.all isChar = true := by
  cases op <;> decide

/-- No white space stands in an operator. -/
theorem isBlank_of_mem_text (op : Operator) : ∀ c ∈ op.text.toList, isBlank c = false := by
  intro c hmem
  rcases mem_of_isChar (List.all_eq_true.1 op.all_isChar_text c hmem) with
    rfl | rfl | rfl | rfl | rfl | rfl
  all_goals rfl

/-- An operator before a character that is none of an operator is read. -/
theorem ofTerm_append {op : Operator} {c : Char} (hc : Operator.isChar c = false)
    (s : List Char) : ofTerm (op.text.toList ++ c :: s) = (op, c :: s) := by
  simp only [isChar, List.contains_cons, List.contains_nil, Bool.or_false, Bool.or_eq_false_iff,
    beq_eq_false_iff_ne] at hc
  obtain ⟨h1, h2, h3, h4, h5, h6⟩ := hc
  cases op with
  | bare =>
    change ofTerm (c :: s) = _
    unfold ofTerm
    split <;> first | rfl | next heq => exact absurd (List.cons.inj heq).1 ‹_›
  | lt => simp [ofTerm, text, h3]
  | gt => simp [ofTerm, text, h3]
  | eq | ne | ge | le | tilde | caret => rfl

end Operator

/-! ### Constraints without bars and commas -/

theorem splitAlternatives_cons {s : List Char} {x : Char} (h : ∀ r, x = '|' → s ≠ '|' :: r) :
    splitAlternatives (x :: s) = (splitAlternatives s).modifyHead (x :: ·) := by
  rw [splitAlternatives, splitAlternativesHead]
  · rfl
  · exact h

/-- A text without a double bar is its one alternative. -/
theorem splitAlternatives_of_unbarred {s : List Char} (h : ¬ ['|', '|'] <:+: s) :
    splitAlternatives s = [s] := by
  fun_induction splitAlternativesHead s with
  | case1 => rfl
  | case2 s ih => exact absurd (List.prefix_append ['|', '|'] s).isInfix h
  | case3 x s hbars ih =>
    rw [splitAlternatives_cons hbars, ih fun hs => h (List.infix_cons hs), List.modifyHead_cons]

theorem commasAsBlanks_of_not_mem {s : List Char} (h : ',' ∉ s) : commasAsBlanks s = s :=
  (List.map_congr_left fun c hc => if_neg fun (heq : c = ',') => h (heq ▸ hc)).trans
    (List.map_id s)

theorem ofWords_singleton {w : List Char} (h : w.all Operator.isChar = false) :
    ofWords [w] = Constraint.ofTerm w := by
  rw [ofWords, h, if_neg Bool.false_ne_true, ofWords]
  cases Constraint.ofTerm w with
  | error fault => rfl
  | ok cs => exact congrArg Except.ok (List.append_nil cs)

/-- An operator that stands alone belongs to the word after it. -/
theorem ofWords_pair {w v : List Char} (h : w.all Operator.isChar = true) :
    ofWords [w, v] = Constraint.ofTerm (w ++ v) := by
  rw [ofWords, if_pos h, ofWords]
  cases Constraint.ofTerm (w ++ v) with
  | error fault => rfl
  | ok cs => exact congrArg Except.ok (List.append_nil cs)

/-- A constraint whose text has neither bars nor commas has the comparators of its words. -/
theorem ofChars_of_not_mem {s : List Char} (hbar : '|' ∉ s) (hcomma : ',' ∉ s) :
    ofChars s = (fun cs => ⟨String.ofList (trim s), [cs]⟩) <$> ofWords (words s) := by
  rw [ofChars, splitAlternatives_of_unbarred fun h => hbar (h.subset List.mem_cons_self)]
  simp only [ofAlternative, commasAsBlanks_of_not_mem hcomma, List.mapM_cons, List.mapM_nil]
  cases ofWords (words s) with
  | error fault => rfl
  | ok cs => simp

theorem admits_singleton {source : String} {cs : List Comparator} {v : Version} :
    admits ⟨source, [cs]⟩ v = alternativeAdmits cs v := by
  rw [admits, List.any_cons, List.any_nil, Bool.or_false]

/-- A constraint of one alternative admits the releases of which all its comparators hold. -/
theorem admits_iff {source : String} {cs : List Comparator} {v : Version} (hv : v.IsRelease) :
    admits ⟨source, [cs]⟩ v = true ↔ ∀ c ∈ cs, c.holds v = true := by
  have hpre : v.isPrerelease = false := by rw [isPrerelease, hv.pre]; rfl
  rw [admits_singleton, alternativeAdmits, hpre, Bool.not_false, Bool.true_or, Bool.and_true,
    List.all_eq_true]

end Constraint

open Constraint

/-! ### Terms -/

namespace PartialText

theorem wellFormed (p : PartialText) : p.value.WellFormed where
  le_wordMax n hn := by
    obtain ⟨m, -, rfl⟩ := List.mem_map.1 hn
    exact m.le_wordMax
  length_le := by
    rw [value, List.length_map]
    exact Nat.le_trans (Nat.le_add_right ..) p.le_three
  full_of_pre h := by
    rw [value, List.length_map]
    exact p.full_of_pre fun hnil => h (congrArg (List.map _) hnil)

/-- A partial version begins with no character of an operator. -/
theorem exists_text_eq_cons (p : PartialText) : ∃ c s, p.text = c :: s ∧
    Operator.isChar c = false := by
  obtain ⟨c, s, hcore, hc⟩ := p.exists_core_eq_cons
  unfold text
  cases p.marked with
  | true => exact ⟨'v', _, rfl, rfl⟩
  | false =>
    refine ⟨c, s ++ p.preText, by rw [hcore]; rfl, Bool.eq_false_iff.2 fun hop => ?_⟩
    rcases Operator.mem_of_isChar hop with rfl | rfl | rfl | rfl | rfl | rfl
    all_goals exact absurd hc (by decide)

/-- The operator and the version of a term are told apart. -/
theorem ofTerm_append (p : PartialText) (op : Operator) :
    Constraint.ofTerm (op.text.toList ++ p.text) = op.ofPartial p.value := by
  obtain ⟨c, s, htext, hc⟩ := p.exists_text_eq_cons
  have hread := p.ofChars?_text
  rw [htext] at hread
  rw [htext, Constraint.ofTerm, Operator.ofTerm_append hc]
  simp only [hread]
  rfl

theorem isBlank_of_mem_text {p : PartialText} {c : Char} (h : c ∈ p.text) : isBlank c = false := by
  rcases mem_text h with rfl | rfl | h
  · rfl
  · rfl
  · exact Identifier.isBlank_of_isChar h

end PartialText

/-- A term as it is written, with white space around the operator and at the ends. -/
structure TermText where
  before : List Char
  operator : Operator
  between : List Char
  version : PartialText
  after : List Char
  isBlank_before : ∀ c ∈ before, isBlank c = true
  isBlank_between : ∀ c ∈ between, isBlank c = true
  isBlank_after : ∀ c ∈ after, isBlank c = true

namespace TermText

/-- The characters of the term. -/
def chars (t : TermText) : List Char :=
  t.before ++ (t.operator.text.toList ++ (t.between ++ (t.version.text ++ t.after)))

/-- How the term is written. -/
def text (t : TermText) : String := String.ofList t.chars

/-- Neither bars nor commas stand in a term. -/
theorem not_mem_chars (t : TermText) : '|' ∉ t.chars ∧ ',' ∉ t.chars := by
  have hmem {c : Char} (h : c ∈ t.chars) : isBlank c = true ∨
      Operator.isChar c = true ∨ c = '.' ∨ c = '*' ∨ Identifier.isChar c = true := by
    simp only [chars, List.mem_append] at h
    rcases h with h | h | h | h | h
    · exact .inl (t.isBlank_before c h)
    · exact .inr (.inl (List.all_eq_true.1 t.operator.all_isChar_text c h))
    · exact .inl (t.isBlank_between c h)
    · exact .inr (.inr (PartialText.mem_text h))
    · exact .inl (t.isBlank_after c h)
  exact ⟨fun h => absurd (hmem h) (by decide), fun h => absurd (hmem h) (by decide)⟩

theorem words_version (t : TermText) : words (t.version.text ++ t.after) = [t.version.text] := by
  obtain ⟨c, s, hversion, -⟩ := t.version.exists_text_eq_cons
  rw [words_append (hversion ▸ List.cons_ne_nil c s)
    (fun c hc => PartialText.isBlank_of_mem_text hc)
    (fun c hc => t.isBlank_after c (List.mem_of_mem_head? hc)), words_of_blank t.isBlank_after]

/-- The operator belongs to the version whether or not white space stands between them. -/
theorem ofWords_words (t : TermText) :
    ofWords (words t.chars) = Constraint.ofTerm (t.operator.text.toList ++ t.version.text) := by
  obtain ⟨c, s, hversion, hc⟩ := t.version.exists_text_eq_cons
  have hop := t.operator.isBlank_of_mem_text
  have hmixed : (t.operator.text.toList ++ t.version.text).all Operator.isChar = false := by
    refine List.all_eq_false.2 ⟨c, ?_, Bool.eq_false_iff.1 hc⟩
    rw [hversion]
    exact List.mem_append_right _ List.mem_cons_self
  rw [chars, words_blank_append t.isBlank_before]
  by_cases hnone : t.operator.text.toList = []
  · rw [hnone, List.nil_append] at hmixed
    rw [hnone, List.nil_append, List.nil_append, words_blank_append t.isBlank_between,
      words_version, ofWords_singleton hmixed]
  · cases hbetween : t.between with
    | nil =>
      have hnonempty : t.operator.text.toList ++ t.version.text ≠ [] :=
        List.append_ne_nil_of_left_ne_nil hnone _
      have hword : ∀ c ∈ t.operator.text.toList ++ t.version.text, isBlank c = false := by
        intro c hmem
        rcases List.mem_append.1 hmem with hmem | hmem
        · exact hop c hmem
        · exact PartialText.isBlank_of_mem_text hmem
      rw [List.nil_append, ← List.append_assoc, words_append hnonempty hword
        (fun c hc => t.isBlank_after c (List.mem_of_mem_head? hc)), words_of_blank t.isBlank_after,
        ofWords_singleton hmixed]
    | cons b bs =>
      have hblank : ∀ c ∈ b :: bs, isBlank c = true := hbetween ▸ t.isBlank_between
      have hhead : ∀ c ∈ (b :: bs ++ (t.version.text ++ t.after)).head?, isBlank c = true := by
        intro c hmem
        obtain rfl := Option.some.inj hmem
        exact hblank _ List.mem_cons_self
      rw [words_append hnone hop hhead, words_blank_append hblank, words_version,
        ofWords_pair t.operator.all_isChar_text]

/-- The one alternative of the constraint has the comparators of the term. -/
theorem ofString_text_eq (t : TermText) : ofString t.text =
    (fun cs => ⟨String.ofList (trim t.chars), [cs]⟩) <$> t.operator.ofPartial t.version.value := by
  obtain ⟨hbar, hcomma⟩ := t.not_mem_chars
  rw [text, ofString, String.toList_ofList, ofChars_of_not_mem hbar hcomma, ofWords_words,
    t.version.ofTerm_append t.operator]

/-- **A constraint of one term.** It is refused for the reason that is given, and otherwise admits
exactly the releases of which the term holds. -/
theorem ofString_text (t : TermText) :
    (∀ fault, ofString t.text = .error fault ↔
      t.operator.fault? t.version.value = some fault) ∧
    (t.operator.fault? t.version.value = none →
      ∃ c, ofString t.text = .ok c ∧ ∀ v : Version, v.IsRelease →
        (c.admits v = true ↔ t.operator.Means t.version.value v)) := by
  obtain ⟨hrefused, hasked⟩ := t.operator.ofPartial_spec t.version.wellFormed
  have hfound (h : t.operator.fault? t.version.value = none) :
      ∃ c, ofString t.text = .ok c ∧ ∀ v : Version, v.IsRelease →
        (c.admits v = true ↔ t.operator.Means t.version.value v) := by
    obtain ⟨cs, hcs, hmeans⟩ := hasked h
    refine ⟨_, by rw [ofString_text_eq, hcs]; rfl, fun v hv => ?_⟩
    exact (admits_iff hv).trans (hmeans v hv)
  refine ⟨fun fault => ⟨fun herror => ?_, fun h => ?_⟩, hfound⟩
  · cases hfault : t.operator.fault? t.version.value with
    | none =>
      obtain ⟨c, hc, -⟩ := hfound hfault
      cases hc.symm.trans herror
    | some given =>
      rw [ofString_text_eq, hrefused given hfault] at herror
      exact congrArg some (Except.error.inj herror)
  · rw [ofString_text_eq, hrefused fault h]
    rfl

/-- Below the first major release a caret stays within the minor one. -/
theorem ofString_text_caret : ∃ t : TermText, t.text = "^ v0.3.x" ∧ ∃ c,
    ofString t.text = .ok c ∧ c.admits (release 0 3 7) = true ∧
      c.admits (release 0 4 0) = false := by
  let zero : Numeral := ⟨['0'], by decide, List.forall_mem_singleton.2 rfl, by decide⟩
  let three : Numeral := ⟨['3'], by decide, List.forall_mem_singleton.2 rfl, by decide⟩
  let version : PartialText :=
    ⟨true, [zero, three], [.lower], [], by decide, by decide, fun h => absurd rfl h⟩
  let t : TermText :=
    ⟨[], .caret, [' '], version, [], nofun, List.forall_mem_singleton.2 rfl, nofun⟩
  obtain ⟨c, hc, hadmits⟩ := t.ofString_text.2 (by decide)
  refine ⟨t, by decide, c, hc, ?_, Bool.eq_false_iff.2 fun h => ?_⟩
  · exact (hadmits (release 0 3 7) ⟨rfl, by decide⟩).2 ⟨by decide, by decide⟩
  · have hbegins := ((hadmits (release 0 4 0) ⟨rfl, by decide⟩).1 h).2
    exact absurd hbegins (by decide)

end TermText

end ImageDiscovery
