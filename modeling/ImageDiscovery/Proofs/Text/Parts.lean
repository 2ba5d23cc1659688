import Mathlib.Data.List.TakeWhile
import ImageDiscovery.Text.Blank
import ImageDiscovery.Text.Split

/-!
# Parts and words of a text

A text that is put together from parts without the separator is cut into these parts again, and the
words of a text are found whatever white space stands around them.

## Main results

* `Text.split_join` — the parts of a text that was joined from them.
* `Text.sep_not_mem_of_mem_split` — no part has the separator.
* `Text.split_append_cons` — the parts on both sides of a separator.
* `Text.contains_iff_isInfix` — what is looked for in a text.
* `Text.words_append`, `Text.words_blank_append` — the words of a text, one after another.
* `Text.words_append_cons` — white space ends a word.
* `Text.words_eq_nil_iff`, `Text.trim_eq_nil_iff` — the texts of white space alone.
-/

namespace ImageDiscovery.Text

/-! ### Parts -/

variable {sep : Char} {p s : List Char} {ps : List (List Char)}

theorem splitHead_of_not_mem (h : sep ∉ p) : splitHead sep p = (p, []) := by
  induction p with
  | nil => rfl
  | cons c p ih =>
    obtain ⟨hc, hp⟩ := not_or.1 (mt List.mem_cons.2 h)
    rw [splitHead, ih hp, if_neg (Ne.symm hc)]

theorem splitHead_append (h : sep ∉ p) (s : List Char) :
    splitHead sep (p ++ sep :: s) = (p, split sep s) := by
  induction p with
  | nil => rw [List.nil_append, splitHead, if_pos rfl, split]
  | cons c p ih =>
    obtain ⟨hc, hp⟩ := not_or.1 (mt List.mem_cons.2 h)
    rw [List.cons_append, splitHead, ih hp, if_neg (Ne.symm hc)]

/-- A text that is joined from parts without the separator is cut into these parts. -/
theorem split_join (hne : ps ≠ []) (h : ∀ p ∈ ps, sep ∉ p) : split sep (join sep ps) = ps := by
  induction ps with
  | nil => exact absurd rfl hne
  | cons p ps ih =>
    obtain ⟨hp, hps⟩ := List.forall_mem_cons.1 h
    cases ps with
    | nil => rw [join, split, splitHead_of_not_mem hp]
    | cons q qs => rw [join, split, splitHead_append hp, ih (List.cons_ne_nil q qs) hps]

/-- No part has the separator. -/
theorem sep_not_mem_of_mem_split (h : p ∈ split sep s) : sep ∉ p := by
  induction s generalizing p with
  | nil => simp_all
  | cons c s ih =>
    by_cases hc : c = sep
    · rw [hc, split_sep_cons, List.mem_cons] at h
      rcases h with rfl | h
      · exact List.not_mem_nil
      · exact ih h
    · rw [split_cons hc, List.mem_cons] at h
      rcases h with rfl | h
      · exact List.not_mem_cons_of_ne_of_not_mem (Ne.symm hc) (ih List.mem_cons_self)
      · exact ih (List.mem_cons_of_mem _ h)

/-- The parts on both sides of a separator are the parts of the text. -/
theorem split_append_cons (s t : List Char) :
    split sep (s ++ sep :: t) = split sep s ++ split sep t := by
  induction s with
  | nil => rw [List.nil_append, split_sep_cons, split_nil, List.singleton_append]
  | cons c s ih =>
    rw [List.cons_append]
    by_cases hc : c = sep
    · rw [hc, split_sep_cons, split_sep_cons, ih, List.cons_append]
    · rw [split, split, List.cons_append] at ih
      obtain ⟨hhead, hrest⟩ := List.cons.inj ih
      rw [split_cons hc, split_cons hc, hhead, hrest, List.cons_append]

theorem split_of_not_mem (h : sep ∉ s) : split sep s = [s] := by
  rw [split, splitHead_of_not_mem h]

/-- Texts that agree, agree up to the first separator and behind it. -/
theorem eq_of_append_cons_eq {a b t : List Char} (ha : sep ∉ a) (hb : sep ∉ b)
    (h : a ++ sep :: s = b ++ sep :: t) : a = b ∧ s = t := by
  have hcut : some (a, s) = some (b, t) :=
    (cut_eq_some_iff.2 ⟨ha, rfl⟩).symm.trans (cut_eq_some_iff.2 ⟨hb, h⟩)
  exact Prod.mk.inj (Option.some.inj hcut)

/-- A text occurs in another as it is looked for. -/
theorem contains_iff_isInfix : contains p s = true ↔ p <:+: s := by
  induction s with
  | nil => rw [contains, List.isEmpty_iff, List.infix_nil]
  | cons c s ih =>
    have hprefix : (dropPrefix? p (c :: s)).isSome = true ↔ p <+: c :: s := by
      rw [Option.isSome_iff_exists]
      exact exists_congr fun r => dropPrefix?_eq_some_iff.trans eq_comm
    rw [contains, Bool.or_eq_true, ih, hprefix, List.infix_cons_iff]

theorem mem_join {c : Char} (h : c ∈ join sep ps) : c = sep ∨ ∃ p ∈ ps, c ∈ p := by
  induction ps with
  | nil => exact absurd h List.not_mem_nil
  | cons p ps ih =>
    cases ps with
    | nil => exact .inr ⟨p, List.mem_cons_self, h⟩
    | cons q qs =>
      rw [join, List.mem_append, List.mem_cons] at h
      rcases h with hp | hc | hrest
      · exact .inr ⟨p, List.mem_cons_self, hp⟩
      · exact .inl hc
      · rcases ih hrest with hc | ⟨r, hr, hcr⟩
        · exact .inl hc
        · exact .inr ⟨r, List.mem_cons_of_mem _ hr, hcr⟩

/-- A part occurs in the text that is joined from it. -/
theorem infix_join_of_mem (h : p ∈ ps) : p <:+: join sep ps := by
  induction ps with
  | nil => cases h
  | cons q ps ih =>
    cases ps with
    | nil =>
      rw [List.mem_singleton.1 h]
      exact List.infix_rfl
    | cons r rs =>
      rw [join]
      rcases List.mem_cons.1 h with rfl | h
      · exact (List.prefix_append p _).isInfix
      · exact (ih h).trans ((List.suffix_cons sep _).trans (List.suffix_append q _)).isInfix

theorem infix_of_mem_split (h : p ∈ split sep s) : p <:+: s :=
  join_split sep s ▸ infix_join_of_mem h

/-- A text whose first part is not empty is not empty. -/
theorem exists_join_eq_cons {c : Char} : ∃ s, join sep ((c :: p) :: ps) = c :: s := by
  cases ps with
  | nil => exact ⟨p, rfl⟩
  | cons q qs => exact ⟨p ++ sep :: join sep (q :: qs), rfl⟩

/-! ### Words -/

/-- White space before a text is passed over. -/
theorem words_blank_append (h : ∀ c ∈ p, isBlank c = true) (s : List Char) :
    words (p ++ s) = words s := by
  induction p with
  | nil => rfl
  | cons c p ih =>
    obtain ⟨hc, hp⟩ := List.forall_mem_cons.1 h
    rw [words, List.cons_append, wordsFrom, if_pos hc, List.isEmpty_nil, if_pos rfl]
    exact ih hp

theorem words_of_blank (h : ∀ c ∈ p, isBlank c = true) : words p = [] := by
  rw [← List.append_nil p, words_blank_append h, words_nil]

theorem wordsFrom_append {word : List Char} (h : ∀ c ∈ p, isBlank c = false) (s : List Char) :
    wordsFrom word (p ++ s) = wordsFrom (p.reverse ++ word) s := by
  induction p generalizing word with
  | nil => rfl
  | cons c p ih =>
    obtain ⟨hc, hp⟩ := List.forall_mem_cons.1 h
    rw [List.cons_append, wordsFrom, hc, if_neg Bool.false_ne_true, ih hp, List.reverse_cons,
      List.append_assoc, List.singleton_append]

/-- A run of other characters, up to white space or to the end of the text, is a word. -/
theorem words_append (hne : p ≠ []) (h : ∀ c ∈ p, isBlank c = false)
    (hs : ∀ c ∈ s.head?, isBlank c = true) : words (p ++ s) = p :: words s := by
  have hword : p.reverse.isEmpty = false := by simpa using hne
  rw [words, wordsFrom_append h, List.append_nil]
  cases s with
  | nil => rw [wordsFrom, hword, if_neg Bool.false_ne_true, List.reverse_reverse, words_nil]
  | cons c s =>
    have hc : isBlank c = true := hs c rfl
    rw [wordsFrom, if_pos hc, hword, if_neg Bool.false_ne_true, List.reverse_reverse, words,
      wordsFrom, if_pos hc, List.isEmpty_nil, if_pos rfl]

theorem wordsFrom_append_cons {word : List Char} {b : Char} (hb : isBlank b = true)
    (p s : List Char) : wordsFrom word (p ++ b :: s) = wordsFrom word p ++ words s := by
  induction p generalizing word with
  | nil =>
    rw [List.nil_append, wordsFrom, wordsFrom, if_pos hb]
    cases word with
    | nil => rfl
    | cons c word => rfl
  | cons c p ih =>
    rw [List.cons_append, wordsFrom, wordsFrom]
    split
    · split
      · exact ih
      · rw [ih, List.cons_append]
    · exact ih

/-- The words before a white space and the words after it are the words of the text. -/
theorem words_append_cons {b : Char} (hb : isBlank b = true) (p s : List Char) :
    words (p ++ b :: s) = words p ++ words s :=
  wordsFrom_append_cons hb p s

theorem wordsFrom_ne_nil {word : List Char} (h : word ≠ []) (s : List Char) :
    wordsFrom word s ≠ [] := by
  induction s generalizing word with
  | nil => simp [wordsFrom, h]
  | cons c s ih =>
    rw [wordsFrom, List.isEmpty_eq_false_iff.2 h]
    split
    · exact List.cons_ne_nil _ _
    · exact ih (List.cons_ne_nil c word)

/-- No word is empty. -/
theorem ne_nil_of_mem_words {w : List Char} (h : w ∈ words s) : w ≠ [] := by
  have hfrom (word s : List Char) (hw : w ∈ wordsFrom word s) : w ≠ [] := by
    induction s generalizing word with
    | nil =>
      rw [wordsFrom] at hw
      split at hw
      · cases hw
      · next hne => simpa [List.mem_singleton.1 hw] using hne
    | cons c s ih =>
      rw [wordsFrom] at hw
      split at hw
      · split at hw
        · exact ih [] hw
        · next hne =>
          rcases List.mem_cons.1 hw with rfl | hw
          · simpa using hne
          · exact ih [] hw
      · exact ih (c :: word) hw
  exact hfrom [] s h

/-- A text without words is white space alone. -/
theorem words_eq_nil_iff : words s = [] ↔ ∀ c ∈ s, isBlank c = true := by
  refine ⟨fun h => ?_, words_of_blank⟩
  induction s with
  | nil => exact List.forall_mem_nil _
  | cons c s ih =>
    rw [words, wordsFrom, List.isEmpty_nil, if_pos rfl] at h
    split at h
    · next hc => exact List.forall_mem_cons.2 ⟨hc, ih h⟩
    · exact absurd h (wordsFrom_ne_nil (List.cons_ne_nil c []) s)

/-- Only of white space nothing is left. -/
theorem trim_eq_nil_iff : trim s = [] ↔ ∀ c ∈ s, isBlank c = true := by
  rw [trim, trimEnd, List.reverse_eq_nil_iff, List.dropWhile_eq_nil_iff]
  simp only [List.mem_reverse]
  refine ⟨fun h => ?_, fun h => ?_⟩
  · rw [trimStart] at h
    rw [← List.dropWhile_eq_nil_iff]
    by_contra hne
    -- The first character that is left is no white space.
    exact List.dropWhile_get_zero_not isBlank s (List.length_pos_iff.2 hne) (h _ (List.get_mem ..))
  · exact fun c hc => h c ((List.dropWhile_sublist _).subset hc)

end ImageDiscovery.Text
