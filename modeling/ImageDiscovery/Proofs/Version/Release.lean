import ImageDiscovery.Proofs.Version.Order
import ImageDiscovery.Version.Constraint

/-!
# Releases and the numbers they begin with

A release has three numbers and no pre-release identifiers, so that releases are ordered by their
numbers alone. The releases that begin with given numbers follow one another without a gap: the
first of them has zeros for the numbers that are missing, and they end where the last of the given
numbers is one larger. That end exists unless the number is the largest one.

## Main definitions

* `Version.numbers`, `Version.IsRelease` — the numbers of a version, and the releases.
* `Version.padded`, `Version.IsEnd` — the first release that begins with given numbers, and the end
  of all that do.
* `Constraint.above` — the first release after all those that begin with given numbers.

## Main results

* `Version.lt_iff_of_pre` — no release comes before a pre-release with the same numbers.
* `Constraint.exists_above`, `Constraint.above_of_getLast?` — there is such an end unless the last
  number is the largest one.
-/

namespace ImageDiscovery

open Text

namespace Version

variable {v w : Version} {ns ms : List Nat}

/-- The three numbers, the most significant first. -/
def numbers (v : Version) : List Nat := [v.major, v.minor, v.patch]

/-- A version without pre-release identifiers whose numbers are machine words. -/
structure IsRelease (v : Version) : Prop where
  pre : v.pre = []
  le_wordMax : ∀ n ∈ v.numbers, n ≤ wordMax

/-- No release comes before a pre-release with the same numbers. -/
theorem lt_iff_of_pre (hv : v.pre = []) : v < w ↔
    v.major < w.major ∨ v.major = w.major ∧
      (v.minor < w.minor ∨ v.minor = w.minor ∧ v.patch < w.patch) := by
  have hpre : comparePre v.pre w.pre ≠ .lt := by
    rw [hv]
    cases w.pre with
    | nil => exact Ordering.noConfusion
    | cons i is => exact Ordering.noConfusion
  change (compareCore v w).then (comparePre v.pre w.pre) = .lt ↔ _
  rw [Ordering.then_eq_lt, compareCore, Ordering.then_eq_lt, Ordering.then_eq_lt,
    Nat.compare_eq_lt, Nat.compare_eq_eq, Nat.compare_eq_lt, Nat.compare_eq_eq, Nat.compare_eq_lt]
  exact or_iff_left fun h => hpre h.2

/-- The first release that begins with the given numbers, of which there are at most three. -/
def padded (ns : List Nat) : Version := release (ns[0]?.getD 0) (ns[1]?.getD 0) (ns[2]?.getD 0)

@[simp] theorem pre_padded : (padded ns).pre = [] := rfl

theorem prefix_numbers_padded (h : ns.length ≤ 3) : ns <+: (padded ns).numbers := by
  match ns, h with
  | [], _ => exact List.nil_prefix
  | [a], _ => exact ⟨[0, 0], rfl⟩
  | [a, b], _ => exact ⟨[0], rfl⟩
  | [a, b, c], _ => exact List.prefix_rfl

theorem isRelease_padded (h : ∀ n ∈ ns, n ≤ wordMax) : (padded ns).IsRelease where
  pre := rfl
  le_wordMax n hn := by
    have hget (i : Nat) : ns[i]?.getD 0 ≤ wordMax := by
      cases hi : ns[i]? with
      | none => exact Nat.zero_le _
      | some m => exact h m (List.mem_of_getElem? hi)
    simp only [numbers, padded, release, List.mem_cons, List.not_mem_nil, or_false] at hn
    rcases hn with rfl | rfl | rfl
    · exact hget 0
    · exact hget 1
    · exact hget 2

theorem singleton_prefix_numbers {a : Nat} : [a] <+: v.numbers ↔ a = v.major := by
  rw [numbers, List.cons_prefix_cons]
  exact and_iff_left List.nil_prefix

theorem pair_prefix_numbers {a b : Nat} : [a, b] <+: v.numbers ↔ a = v.major ∧ b = v.minor := by
  rw [numbers, List.cons_prefix_cons, List.cons_prefix_cons]
  exact and_congr_right' (and_iff_left List.nil_prefix)

theorem triple_prefix_numbers {a b c : Nat} :
    [a, b, c] <+: v.numbers ↔ a = v.major ∧ b = v.minor ∧ c = v.patch := by
  rw [numbers, List.cons_prefix_cons, List.cons_prefix_cons, List.cons_prefix_cons]
  exact and_congr_right' (and_congr_right' (and_iff_left List.nil_prefix))

/-- No release that begins with the numbers is before the one with zeros. -/
theorem not_lt_padded (hv : v.pre = []) (hlen : ns.length ≤ 3) (h : ns <+: v.numbers) :
    ¬ v < padded ns := by
  rw [lt_iff_of_pre hv]
  match ns, hlen with
  | [], _ =>
    change ¬ (v.major < 0 ∨ v.major = 0 ∧ (v.minor < 0 ∨ v.minor = 0 ∧ v.patch < 0))
    omega
  | [a], _ =>
    have ha := singleton_prefix_numbers.1 h
    change ¬ (v.major < a ∨ v.major = a ∧ (v.minor < 0 ∨ v.minor = 0 ∧ v.patch < 0))
    omega
  | [a, b], _ =>
    have hab := pair_prefix_numbers.1 h
    change ¬ (v.major < a ∨ v.major = a ∧ (v.minor < b ∨ v.minor = b ∧ v.patch < 0))
    omega
  | [a, b, c], _ =>
    have habc := triple_prefix_numbers.1 h
    change ¬ (v.major < a ∨ v.major = a ∧ (v.minor < b ∨ v.minor = b ∧ v.patch < c))
    omega

/-- The fewer numbers are given, the earlier the first release is. -/
theorem padded_le_padded (hlen : ns.length ≤ 3) (h : ms <+: ns) : padded ms ≤ padded ns :=
  Std.not_lt.1 (not_lt_padded pre_padded (Nat.le_trans h.length_le hlen)
    (h.trans (prefix_numbers_padded hlen)))

/-- The releases before the version are those that begin with the numbers, and those before all of
them. -/
def IsEnd (u : Version) (ns : List Nat) : Prop :=
  ∀ v : Version, v.pre = [] → (v < u ↔ v < padded ns ∨ ns <+: v.numbers)

end Version

namespace Constraint

open Version

/-- The first release after all those that begin with the given numbers, of which there are one to
three. -/
def above : List Nat → Except Fault Version
  | [major] => do return .release (← next major) 0 0
  | [major, minor] => do return .release major (← next minor) 0
  | [major, minor, patch] => do return .release major minor (← next patch)
  | _ => .error .overflow

variable {v : Version} {ns : List Nat}

theorem next_of_ne {n : Nat} (h : n ≤ wordMax) (hne : n ≠ wordMax) : next n = .ok (n + 1) :=
  if_pos (Nat.lt_of_le_of_ne h hne)

theorem next_wordMax : next wordMax = .error .overflow := if_neg (Nat.lt_irrefl wordMax)

/-- The last number is the largest one, and there is no number after it. -/
theorem above_of_getLast? (h : ns.getLast? = some wordMax) : above ns = .error .overflow := by
  match ns, h with
  | [a], h =>
    obtain rfl : a = wordMax := Option.some.inj h
    rw [above, next_wordMax]
    rfl
  | [a, b], h =>
    obtain rfl : b = wordMax := Option.some.inj h
    rw [above, next_wordMax]
    rfl
  | [a, b, c], h =>
    obtain rfl : c = wordMax := Option.some.inj h
    rw [above, next_wordMax]
    rfl
  | _ :: _ :: _ :: _ :: _, _ => rfl

/-- The releases that begin with the numbers have an end, if the last number is not the largest
one. -/
theorem exists_above (hne : ns ≠ []) (hlen : ns.length ≤ 3) (hmax : ∀ n ∈ ns, n ≤ wordMax)
    (hlast : ns.getLast? ≠ some wordMax) : ∃ u, above ns = .ok u ∧ u.IsEnd ns := by
  match ns, hne, hlen with
  | [a], _, _ =>
    have ha : next a = .ok (a + 1) :=
      next_of_ne (hmax a (List.mem_of_getLast? rfl)) fun h => hlast (congrArg some h)
    refine ⟨release (a + 1) 0 0, by rw [above, ha]; rfl, fun v hv => ?_⟩
    rw [lt_iff_of_pre hv, lt_iff_of_pre hv, singleton_prefix_numbers]
    simp only [release, padded, List.getElem?_cons_zero, List.getElem?_cons_succ,
      List.getElem?_nil, Option.getD_some, Option.getD_none]
    omega
  | [a, b], _, _ =>
    have hb : next b = .ok (b + 1) :=
      next_of_ne (hmax b (List.mem_of_getLast? rfl)) fun h => hlast (congrArg some h)
    refine ⟨release a (b + 1) 0, by rw [above, hb]; rfl, fun v hv => ?_⟩
    rw [lt_iff_of_pre hv, lt_iff_of_pre hv, pair_prefix_numbers]
    simp only [release, padded, List.getElem?_cons_zero, List.getElem?_cons_succ,
      List.getElem?_nil, Option.getD_some, Option.getD_none]
    omega
  | [a, b, c], _, _ =>
    have hc : next c = .ok (c + 1) :=
      next_of_ne (hmax c (List.mem_of_getLast? rfl)) fun h => hlast (congrArg some h)
    refine ⟨release a b (c + 1), by rw [above, hc]; rfl, fun v hv => ?_⟩
    rw [lt_iff_of_pre hv, lt_iff_of_pre hv, triple_prefix_numbers]
    simp only [release, padded, List.getElem?_cons_zero, List.getElem?_cons_succ,
      Option.getD_some]
    omega

end Constraint

end ImageDiscovery
