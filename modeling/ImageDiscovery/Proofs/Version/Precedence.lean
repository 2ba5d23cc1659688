import ImageDiscovery.Proofs.Text.Bytes
import ImageDiscovery.Proofs.Version.Release

/-!
# Precedence of versions

A version comes before another one if its numbers are smaller, the most significant of them deciding
first. Where the numbers are the same, a pre-release comes before the release, and two pre-releases
go by their identifiers: by the first two that differ, or by their number if one list begins the
other. A number comes before a larger number and before every word, and words go by their bytes.

The comparison of versions decides this relation, and it is a linear order in which only a version
and itself are equal.

## Main definitions

* `Identifier.Precedes` — when an identifier comes before another one.
* `Version.Precedes` — when a version comes before another one.

## Main results

* `Identifier.compareList_eq_lt_iff` — lists of identifiers are ordered as a dictionary is.
* `Version.compare_eq_lt_iff` — the comparison decides precedence.
* `Version.compare_decides_linear_order` — precedence is a linear order, and the comparison is its.
-/

namespace ImageDiscovery

open Text

namespace Identifier

/-- Numbers go by value and come before words, and words go by their bytes. -/
inductive Precedes : Identifier → Identifier → Prop
  | numeric {m n : Nat} (h : m < n) : Precedes (numeric m) (numeric n)
  | numeric_word (n : Nat) (t : String) : Precedes (numeric n) (word t)
  | word {s t : String} (h : Utf8.bytes s < Utf8.bytes t) : Precedes (word s) (word t)

theorem compare_eq_lt_iff {i j : Identifier} : compare i j = .lt ↔ i.Precedes j := by
  constructor
  · intro h
    cases i with
    | numeric m =>
      cases j with
      | numeric n => exact .numeric (Nat.compare_eq_lt.1 h)
      | word t => exact .numeric_word m t
    | word s =>
      cases j with
      | numeric n => cases h
      | word t => exact .word (Utf8.lt_iff_bytes_lt.1 (Batteries.compareOfLessAndEq_eq_lt.1 h))
  · intro h
    cases h with
    | numeric h => exact Nat.compare_eq_lt.2 h
    | numeric_word n t => rfl
    | word h => exact Batteries.compareOfLessAndEq_eq_lt.2 (Utf8.lt_iff_bytes_lt.2 h)

theorem compare_eq_eq_iff {i j : Identifier} : compare i j = .eq ↔ i = j :=
  Std.LawfulEqOrd.compare_eq_iff_eq (a := i) (b := j)

/-- Lists of identifiers are ordered as a dictionary is, a proper beginning first. -/
theorem compareList_eq_lt_iff {is js : List Identifier} :
    compareList is js = .lt ↔ List.Lex Precedes is js := by
  induction is generalizing js with
  | nil =>
    cases js with
    | nil => exact iff_of_false Ordering.noConfusion nofun
    | cons j js => exact iff_of_true rfl .nil
  | cons i is ih =>
    cases js with
    | nil => exact iff_of_false Ordering.noConfusion nofun
    | cons j js =>
      rw [compareList, Ordering.then_eq_lt, compare_eq_lt_iff, compare_eq_eq_iff, ih,
        List.cons_lex_cons_iff]

end Identifier

namespace Version

variable {v w : Version}

/-- Smaller numbers come first; where they are the same, a pre-release comes before the release, and
two pre-releases go by their identifiers. -/
inductive Precedes (v w : Version) : Prop
  | numbers (h : v.numbers < w.numbers)
  | prerelease (h : v.numbers = w.numbers) (hv : v.pre ≠ []) (hw : w.pre = [])
  | identifiers (h : v.numbers = w.numbers) (hv : v.pre ≠ []) (hw : w.pre ≠ [])
      (hpre : List.Lex Identifier.Precedes v.pre w.pre)

theorem compareCore_eq_lt_iff : compareCore v w = .lt ↔ v.numbers < w.numbers := by
  simp only [compareCore, Ordering.then_eq_lt, Nat.compare_eq_lt, Nat.compare_eq_eq, numbers,
    List.cons_lt_cons_iff, List.not_lt_nil, and_false, or_false]

theorem compareCore_eq_eq_iff : compareCore v w = .eq ↔ v.numbers = w.numbers := by
  simp only [compareCore, Ordering.then_eq_eq, Nat.compare_eq_eq, numbers, List.cons.injEq,
    and_true]

/-- Of the pre-release parts, a non-empty one comes before the empty one. -/
theorem comparePre_eq_lt_iff {is js : List Identifier} : comparePre is js = .lt ↔
    is ≠ [] ∧ (js = [] ∨ js ≠ [] ∧ List.Lex Identifier.Precedes is js) := by
  cases is with
  | nil =>
    refine iff_of_false ?_ fun h => h.1 rfl
    cases js with
    | nil => exact Ordering.noConfusion
    | cons j js => exact Ordering.noConfusion
  | cons i is =>
    cases js with
    | nil => exact iff_of_true rfl ⟨nofun, .inl rfl⟩
    | cons j js => simp [comparePre, Identifier.compareList_eq_lt_iff]

/-- The comparison decides precedence. -/
theorem compare_eq_lt_iff : compare v w = .lt ↔ v.Precedes w := by
  change (compareCore v w).then (comparePre v.pre w.pre) = .lt ↔ _
  rw [Ordering.then_eq_lt, compareCore_eq_lt_iff, compareCore_eq_eq_iff, comparePre_eq_lt_iff]
  constructor
  · rintro (hlt | ⟨heq, hv, hw | ⟨hw, hlex⟩⟩)
    · exact .numbers hlt
    · exact .prerelease heq hv hw
    · exact .identifiers heq hv hw hlex
  · rintro (hlt | ⟨heq, hv, hw⟩ | ⟨heq, hv, hw, hlex⟩)
    · exact .inl hlt
    · exact .inr ⟨heq, hv, .inl hw⟩
    · exact .inr ⟨heq, hv, .inr ⟨hw, hlex⟩⟩

/-- **Precedence is a linear order, and the comparison is its.** It finds a version equal to itself
alone, turns around with its arguments, compares any two versions, is transitive, is the partial
comparison, and puts a version before another one exactly if it precedes it. -/
theorem compare_decides_linear_order (a b c : Version) :
    compare a a = .eq ∧
    compare b a = (compare a b).swap ∧
    ((compare a b).isLE ∨ (compare b a).isLE) ∧
    ((compare a b).isLE → (compare b c).isLE → (compare a c).isLE) ∧
    (compare a b = .lt → compare b c = .lt → compare a c = .lt) ∧
    (compare a b = .eq ↔ a = b) ∧
    a.partialCompare b = some (compare a b) ∧
    (a < b ↔ a.Precedes b) := by
  have hswap : compare b a = (compare a b).swap := Std.OrientedCmp.eq_swap
  refine ⟨Std.ReflCmp.compare_self, hswap, ?_, Std.TransCmp.isLE_trans, Std.TransCmp.lt_trans,
    Std.LawfulEqCmp.compare_eq_iff_eq, rfl, compare_eq_lt_iff⟩
  rw [hswap, Ordering.isLE_swap]
  cases compare a b <;> decide

example : Precedes ⟨1, 0, 0, [.word "rc", .numeric 2]⟩ ⟨1, 0, 0, [.word "rc", .numeric 10]⟩ :=
  compare_eq_lt_iff.1 (by decide)

end Version

end ImageDiscovery
