/-!
# Cutting a text at separators

A text is cut at its first separator, or at all of them. Nothing is lost by a cut: the parts with
the separator between them are the text again.

## Main definitions

* `Text.cut` — the parts before and after the first occurrence of a character.
* `Text.split` — the parts between all occurrences of a character.
* `Text.dropPrefix?` — what follows a given beginning.
* `Text.contains` — whether one text occurs within another.

## Main results

* `Text.cut_eq_some_iff` — a cut is at the first separator and loses nothing.
* `Text.join_split` — the parts, joined by the separator, are the text.
-/

namespace ImageDiscovery.Text

/-- The parts before and after the first `sep`, or `none` where there is no `sep`. -/
def cut (sep : Char) : List Char → Option (List Char × List Char)
  | [] => none
  | c :: s => if c = sep then some ([], s) else (cut sep s).map fun p => (c :: p.1, p.2)

theorem cut_eq_none_iff {sep : Char} {s : List Char} : cut sep s = none ↔ sep ∉ s := by
  induction s with
  | nil => simp [cut]
  | cons c s ih =>
    by_cases h : c = sep
    · simp [cut, h]
    · simp [cut, h, ih, Ne.symm h]

/-- A cut is at the first separator and loses nothing. -/
theorem cut_eq_some_iff {sep : Char} {s a b : List Char} :
    cut sep s = some (a, b) ↔ sep ∉ a ∧ s = a ++ sep :: b := by
  induction s generalizing a with
  | nil => simp [cut]
  | cons c s ih =>
    by_cases h : c = sep
    · cases a with
      | nil => simp [cut, h]
      | cons x a =>
        simp only [cut, h, if_true, Option.some.injEq, Prod.mk.injEq, List.cons_append,
          List.cons.injEq, List.mem_cons, not_or]
        grind
    · cases a with
      | nil =>
        simp only [cut, h, if_false, List.nil_append, List.cons.injEq, false_and, and_false]
        cases cut sep s <;> simp
      | cons x a =>
        have := @ih a
        simp only [cut, h, if_false, List.cons_append, List.cons.injEq, List.mem_cons, not_or]
        cases hc : cut sep s with
        | none => rw [hc] at this; grind
        | some p => obtain ⟨p, q⟩ := p; rw [hc] at this; grind

/-- The first part of a text cut at every `sep`, and the parts after it. -/
def splitHead (sep : Char) : List Char → List Char × List (List Char)
  | [] => ([], [])
  | c :: s =>
    let r := splitHead sep s
    if c = sep then ([], r.1 :: r.2) else (c :: r.1, r.2)

/-- The parts between all occurrences of `sep`; a text without `sep` is its one part. -/
def split (sep : Char) (s : List Char) : List (List Char) :=
  (splitHead sep s).1 :: (splitHead sep s).2

/-- The parts with `sep` between them. -/
def join (sep : Char) : List (List Char) → List Char
  | [] => []
  | [p] => p
  | p :: q :: ps => p ++ sep :: join sep (q :: ps)

@[simp] theorem split_nil (sep : Char) : split sep [] = [[]] := rfl

@[simp] theorem split_sep_cons (sep : Char) (s : List Char) :
    split sep (sep :: s) = [] :: split sep s := by
  simp [split, splitHead]

theorem split_cons {sep c : Char} (h : c ≠ sep) (s : List Char) :
    split sep (c :: s) = (c :: (splitHead sep s).1) :: (splitHead sep s).2 := by
  simp [split, splitHead, h]

/-- The parts, joined by the separator, are the text. -/
theorem join_split (sep : Char) (s : List Char) : join sep (split sep s) = s := by
  induction s with
  | nil => rfl
  | cons c s ih =>
    by_cases h : c = sep
    · subst h; rw [split_sep_cons]; simpa [split, join] using ih
    · rw [split_cons h]
      rw [split] at ih
      cases hr : (splitHead sep s).2 with
      | nil => simpa [hr, join] using ih
      | cons q ps => simpa [hr, join] using ih

/-- What follows the beginning `p` of a text, or `none` where the text does not begin so. -/
def dropPrefix? : List Char → List Char → Option (List Char)
  | [], s => some s
  | _ :: _, [] => none
  | c :: p, d :: s => if c = d then dropPrefix? p s else none

theorem dropPrefix?_eq_some_iff {p s r : List Char} : dropPrefix? p s = some r ↔ s = p ++ r := by
  induction p generalizing s with
  | nil => simp [dropPrefix?]
  | cons c p ih =>
    cases s with
    | nil => simp [dropPrefix?]
    | cons d s =>
      by_cases h : c = d
      · simp [dropPrefix?, h, ih]
      · simp [dropPrefix?, h, Ne.symm h]

/-- Whether `p` occurs within the text. -/
def contains (p : List Char) : List Char → Bool
  | [] => p.isEmpty
  | c :: s => (dropPrefix? p (c :: s)).isSome || contains p s

end ImageDiscovery.Text
