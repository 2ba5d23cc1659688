import Mathlib.Data.List.DropRight
import ImageDiscovery.Text.Blank

/-!
# The ends of a text

Characters of one kind are dropped at an end of a text, up to the first character of another kind.
White space is dropped at both ends, and then there is none left to be dropped.

## Main results

* `Text.dropWhile_append_cons`, `Text.rdropWhile_append_cons` — a character that stays ends what is
  dropped.
* `Text.trim_append_cons`, `Text.trim_blank_append`, `Text.trim_append_blank` — the trimmed form of
  a text, by its parts.
* `Text.trim_trim` — a trimmed text is its own trimmed form.
-/

namespace ImageDiscovery.Text

section

variable {α : Type} {p : α → Bool} {c : α}

/-- A character that stays ends what is dropped at the beginning. -/
theorem dropWhile_append_cons (h : p c = false) (s t : List α) :
    (s ++ c :: t).dropWhile p = s.dropWhile p ++ c :: t := by
  induction s with
  | nil => simp [h]
  | cons d s ih =>
    rw [List.cons_append, List.dropWhile_cons, List.dropWhile_cons, ih]
    split <;> rfl

/-- A character that is not taken ends what is taken. -/
theorem takeWhile_append_cons (h : p c = false) (s t : List α) :
    (s ++ c :: t).takeWhile p = s.takeWhile p := by
  induction s with
  | nil => simp [h]
  | cons d s ih => rw [List.cons_append, List.takeWhile_cons, List.takeWhile_cons, ih]

/-- A character that stays ends what is dropped at the end. -/
theorem rdropWhile_append_cons (h : p c = false) (s t : List α) :
    (s ++ c :: t).rdropWhile p = s ++ c :: t.rdropWhile p := by
  have hreverse : (s ++ c :: t).reverse = t.reverse ++ c :: s.reverse := by simp
  rw [List.rdropWhile, List.rdropWhile, hreverse, dropWhile_append_cons h]
  simp

theorem rdropWhile_append_of_pos {t : List α} (h : ∀ c ∈ t, p c = true) (s : List α) :
    (s ++ t).rdropWhile p = s.rdropWhile p := by
  rw [List.rdropWhile, List.rdropWhile, List.reverse_append,
    List.dropWhile_append_of_pos fun c hc => h c (List.mem_reverse.1 hc)]

theorem rdropWhile_append_of_ne_nil {t : List α} (h : t.rdropWhile p ≠ []) (s : List α) :
    (s ++ t).rdropWhile p = s ++ t.rdropWhile p := by
  have hne : t.reverse.dropWhile p ≠ [] := fun hnil => h (by rw [List.rdropWhile, hnil]; rfl)
  rw [List.rdropWhile, List.rdropWhile, List.reverse_append, List.dropWhile_append,
    if_neg (by simpa using hne), List.reverse_append, List.reverse_reverse]

theorem rtakeWhile_append_cons (h : p c = false) (s t : List α) :
    (s ++ c :: t).rtakeWhile p = t.rtakeWhile p := by
  have hreverse : (s ++ c :: t).reverse = t.reverse ++ c :: s.reverse := by simp
  rw [List.rtakeWhile, hreverse, takeWhile_append_cons h]
  rfl

section

variable [DecidableEq α] {s : List α}

theorem takeWhile_bne_of_not_mem (h : c ∉ s) : s.takeWhile (· != c) = s :=
  List.takeWhile_eq_self_iff.2 fun _ hd => bne_iff_ne.2 fun heq => h (heq ▸ hd)

theorem rtakeWhile_bne_of_not_mem (h : c ∉ s) : s.rtakeWhile (· != c) = s :=
  List.rtakeWhile_eq_self_iff.2 fun _ hd => bne_iff_ne.2 fun heq => h (heq ▸ hd)

/-- A text is cut behind the last of its characters of a kind. -/
theorem exists_eq_append_rtakeWhile (h : c ∈ s) : ∃ t, s = t ++ c :: s.rtakeWhile (· != c) := by
  obtain ⟨u, t, hs, hu⟩ := List.eq_append_cons_of_mem (List.mem_reverse.2 h)
  have hs' : s = t.reverse ++ c :: u.reverse := by
    rw [← List.reverse_inj, hs]
    simp
  have hlast : s.rtakeWhile (· != c) = u.reverse := by
    rw [hs', rtakeWhile_append_cons (by simp),
      rtakeWhile_bne_of_not_mem fun hmem => hu (List.mem_reverse.1 hmem)]
  exact ⟨t.reverse, hlast ▸ hs'⟩

end

/-- What is left at the beginning is a character that stays. -/
theorem of_mem_head?_dropWhile {s : List α} (h : c ∈ (s.dropWhile p).head?) : p c = false := by
  have hhead := List.head?_dropWhile_not p s
  rw [Option.mem_def.1 h] at hhead
  simpa using hhead

/-- What is left at the end is a character that stays. -/
theorem of_mem_getLast?_rdropWhile {s : List α} (h : c ∈ (s.rdropWhile p).getLast?) :
    p c = false := by
  rw [List.rdropWhile, List.getLast?_reverse] at h
  exact of_mem_head?_dropWhile h

end

variable {s : List Char} {c : Char}

theorem trimEnd_eq_self (h : ∀ c ∈ s.getLast?, isBlank c = false) : trimEnd s = s := by
  rw [trimEnd, dropWhile_eq_self (by simpa using h), List.reverse_reverse]

/-- A text that ends with white space is longer than its trimmed form. -/
theorem length_trimEnd_lt (hlast : c ∈ s.getLast?) (hc : isBlank c = true) :
    (trimEnd s).length < s.length := by
  obtain ⟨t, rfl⟩ : ∃ t, s = t ++ [c] := List.getLast?_eq_some_iff.1 hlast
  have htrim : trimEnd (t ++ [c]) = trimEnd t := List.rdropWhile_concat_pos _ _ _ hc
  have hle : (trimEnd t).length ≤ t.length := (List.rdropWhile_prefix isBlank t).length_le
  rw [htrim, List.length_append, List.length_singleton]
  omega

/-- On both sides of a character that is no white space, a text is trimmed at one end. -/
theorem trim_append_cons (h : isBlank c = false) (s t : List Char) :
    trim (s ++ c :: t) = trimStart s ++ c :: trimEnd t := by
  rw [trim, trimStart, dropWhile_append_cons h]
  exact rdropWhile_append_cons h _ _

/-- White space in front of a text is dropped. -/
theorem trim_blank_append (h : ∀ c ∈ s, isBlank c = true) (t : List Char) :
    trim (s ++ t) = trim t := by
  rw [trim, trim, trimStart, trimStart, List.dropWhile_append_of_pos h]

/-- White space behind a text is dropped. -/
theorem trim_append_blank (s : List Char) {t : List Char} (h : ∀ c ∈ t, isBlank c = true) :
    trim (s ++ t) = trim s := by
  rw [trim, trim, trimStart, trimStart, List.dropWhile_append]
  split
  · next hs => rw [List.dropWhile_eq_nil_iff.2 h, List.isEmpty_iff.1 hs]
  · exact rdropWhile_append_of_pos h _

/-- A text without white space is its own trimmed form. -/
theorem trim_of_forall (h : ∀ c ∈ s, isBlank c = false) : trim s = s :=
  trim_eq_self (fun c hc => h c (List.mem_of_mem_head? hc))
    fun c hc => h c (List.mem_of_mem_getLast? hc)

theorem isBlank_of_mem_head?_trim (h : c ∈ (trim s).head?) : isBlank c = false := by
  have hprefix : trim s <+: s.dropWhile isBlank := List.rdropWhile_prefix isBlank _
  obtain ⟨t, ht⟩ := hprefix
  refine of_mem_head?_dropWhile (s := s) ?_
  rw [← ht, List.head?_append, Option.mem_def.1 h]
  rfl

theorem isBlank_of_mem_getLast?_trim (h : c ∈ (trim s).getLast?) : isBlank c = false :=
  of_mem_getLast?_rdropWhile h

/-- A trimmed text is its own trimmed form. -/
@[simp] theorem trim_trim (s : List Char) : trim (trim s) = trim s :=
  trim_eq_self (fun _ => isBlank_of_mem_head?_trim) fun _ => isBlank_of_mem_getLast?_trim

end ImageDiscovery.Text
