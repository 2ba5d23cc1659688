import Mathlib.Data.List.Basic
import ImageDiscovery.Proofs.Version.Release

/-!
# What an operator says about releases

An operator with a partial version is refused in three cases only: it compares with a version and
no number is given; a version is excluded of which not all numbers are given; or the releases of a
range begin with numbers of which the last is the largest one, so that the end of the range cannot
be written. In all other cases the comparators say of a release how it stands to the numbers that
are given. A range is a pair of comparators, from the least version with the numbers to the end of
the releases that begin with them, or with some of them.

## Main definitions

* `Constraint.Operator.fault?` — why an operator with a version is refused.
* `Constraint.Operator.Means` — what an operator with a version says about a release.
* `Constraint.Operator.ofPartial` — the comparators that an operator asks for.

## Main results

* `Constraint.Operator.says_comparators`, `Constraint.Operator.says_ofWildcard` — the comparators of
  an operator that is not refused say what it means.
* `Constraint.Operator.comparators_of_fault?`, `Constraint.Operator.ofWildcard_of_fault?` — the
  operators that are refused.
-/

namespace ImageDiscovery

open Text Version

namespace Constraint

/-! ### Partial versions -/

namespace Partial

variable {p : Partial} {v : Version}

/-- The numbers are machine words, at most three, and all three of them where there are identifiers
of a pre-release. -/
structure WellFormed (p : Partial) : Prop where
  le_wordMax : ∀ n ∈ p.numbers, n ≤ wordMax
  length_le : p.numbers.length ≤ 3
  full_of_pre : p.pre ≠ [] → p.numbers.length = 3

theorem WellFormed.pre_of_not_full (hp : p.WellFormed) (h : p.numbers.length ≠ 3) : p.pre = [] :=
  by_contra fun hpre => h (hp.full_of_pre hpre)

/-- A release is before the least version with the numbers if it is before the first release. -/
theorem lt_lower_iff (hv : v.pre = []) : v < p.lower ↔ v < padded p.numbers := by
  rw [lt_iff_of_pre hv, lt_iff_of_pre hv]
  rfl

theorem lower_eq_padded (hpre : p.pre = []) : p.lower = padded p.numbers := by
  rw [lower, hpre]
  rfl

/-- A release is a full version if it has its numbers and the version is a release too. -/
theorem eq_lower_iff (hv : v.pre = []) (hfull : p.numbers.length = 3) :
    v = p.lower ↔ p.pre = [] ∧ p.numbers <+: v.numbers := by
  obtain ⟨a, b, c, habc⟩ := List.length_eq_three.1 hfull
  obtain ⟨major, minor, patch, pre⟩ := v
  obtain rfl : pre = [] := hv
  rw [habc, triple_prefix_numbers, lower, habc, Version.mk.injEq]
  simp only [List.getElem?_cons_zero, List.getElem?_cons_succ, Option.getD_some]
  constructor
  · rintro ⟨rfl, rfl, rfl, hpre⟩
    exact ⟨hpre.symm, rfl, rfl, rfl⟩
  · rintro ⟨hpre, rfl, rfl, rfl⟩
    exact ⟨rfl, rfl, rfl, hpre.symm⟩

theorem upper_of_full (hfull : p.numbers.length = 3) : p.upper = .ok none := by
  obtain ⟨a, b, c, habc⟩ := List.length_eq_three.1 hfull
  rw [upper, habc]

/-- A partial version ends where the releases with its numbers end. -/
theorem upper_of_partial (hne : p.numbers ≠ []) (hlt : p.numbers.length < 3) :
    p.upper = some <$> above p.numbers := by
  unfold upper
  match p.numbers, hne, hlt with
  | [a], _, _ => exact (map_bind some (next a) fun n => pure (release n 0 0)).symm
  | [a, b], _, _ => exact (map_bind some (next b) fun n => pure (release a n 0)).symm

end Partial

/-! ### Comparators -/

/-- The relation between versions that a comparator asks for. -/
def relates : Relation → Version → Version → Prop
  | .eq, v, w => v = w
  | .ne, v, w => v ≠ w
  | .gt, v, w => w < v
  | .ge, v, w => w ≤ v
  | .lt, v, w => v < w
  | .le, v, w => v ≤ w

theorem holds_iff {c : Comparator} {v : Version} :
    c.holds v = true ↔ relates c.relation v c.version := by
  obtain ⟨relation, w⟩ := c
  have hlt : v < w ↔ compare v w = .lt := Std.compare_eq_lt.symm
  have hgt : w < v ↔ compare v w = .gt := Std.compare_eq_gt.symm
  have heq : v = w ↔ compare v w = .eq := Std.LawfulEqOrd.compare_eq_iff_eq.symm
  have hle : v ≤ w ↔ ¬ w < v := Std.not_lt.symm
  have hge : w ≤ v ↔ ¬ v < w := Std.not_lt.symm
  unfold Comparator.holds
  cases relation with
  | eq => rw [relates, heq, Relation.holds, beq_iff_eq]
  | ne => rw [relates, Ne, heq, Relation.holds, bne_iff_ne]
  | gt => rw [relates, hgt, Relation.holds, beq_iff_eq]
  | ge => rw [relates, hge, hlt, Relation.holds, bne_iff_ne]
  | lt => rw [relates, hlt, Relation.holds, beq_iff_eq]
  | le => rw [relates, hle, hgt, Relation.holds, bne_iff_ne]

/-! ### Operators -/

namespace Operator

/-- The numbers up to the first that is not zero. -/
def leading : List Nat → List Nat
  | [] => []
  | 0 :: ns => 0 :: leading ns
  | n :: _ => [n]

theorem leading_prefix_self (ns : List Nat) : leading ns <+: ns := by
  induction ns with
  | nil => exact List.prefix_rfl
  | cons n ns ih =>
    cases n with
    | zero => exact List.cons_prefix_cons.2 ⟨rfl, ih⟩
    | succ n => exact List.cons_prefix_cons.2 ⟨rfl, List.nil_prefix⟩

theorem leading_ne_nil {ns : List Nat} (h : ns ≠ []) : leading ns ≠ [] := by
  cases ns with
  | nil => exact absurd rfl h
  | cons n ns => cases n <;> exact List.cons_ne_nil _ _

/-- The numbers with which the releases of a range begin, where the operator asks for its end. -/
def ended (op : Operator) (ns : List Nat) : List Nat :=
  match op with
  | bare | eq | gt | le => if ns.length < 3 then ns else []
  | tilde => ns.take 2
  | caret => leading ns
  | ne | ge | lt => []

/-- The operator compares with a version, so that a number has to be given. -/
def compares : Operator → Bool
  | ne | gt | lt | le => true
  | bare | eq | ge | tilde | caret => false

/-- Why a term is refused: there is nothing to compare with, or not enough to exclude, or the end of
the range would be above the largest number. -/
def fault? (op : Operator) (p : Partial) : Option Fault :=
  if op.compares ∧ p.numbers = [] then some (.needsVersion op.text)
  else if op = .ne ∧ p.numbers.length < 3 then some .needsFullVersion
  else if (op.ended p.numbers).getLast? = some wordMax then some .overflow
  else none

theorem full_and_last_of_fault? {op : Operator} {p : Partial} (hne : p.numbers ≠ [])
    (h : op.fault? p = none) : (op = .ne → 3 ≤ p.numbers.length) ∧
      (op.ended p.numbers).getLast? ≠ some wordMax := by
  rw [fault?, if_neg fun hnil => hne hnil.2] at h
  split at h
  · cases h
  · next hfull =>
    split at h
    · cases h
    · next hlast => exact ⟨fun hop => Nat.not_lt.1 fun hlt => hfull ⟨hop, hlt⟩, hlast⟩

/-- What a term says about a release. -/
def Means (op : Operator) (p : Partial) (v : Version) : Prop :=
  match op with
  | bare | eq => p.pre = [] ∧ p.numbers <+: v.numbers
  | ne => v ≠ p.lower
  | gt => if p.isFull then p.lower < v
    else ∀ w : Version, w.IsRelease → p.numbers <+: w.numbers → w < v
  | ge => p.lower ≤ v
  | lt => v < p.lower
  | le => v ≤ p.lower ∨ p.pre = [] ∧ p.numbers <+: v.numbers
  | tilde => p.lower ≤ v ∧ p.numbers.take 2 <+: v.numbers
  | caret => p.lower ≤ v ∧ leading p.numbers <+: v.numbers

theorem tildeUpper_eq {p : Partial} (hne : p.numbers ≠ []) :
    tildeUpper p = above (p.numbers.take 2) := by
  unfold tildeUpper
  match p.numbers, hne with
  | [a], _ => rfl
  | a :: b :: ns, _ => rfl

theorem caretUpper_eq {p : Partial} (hne : p.numbers ≠ []) (hlen : p.numbers.length ≤ 3) :
    caretUpper p = above (leading p.numbers) := by
  unfold caretUpper
  match p.numbers, hne, hlen with
  | [0], _, _ => rfl
  | [0, 0], _, _ => rfl
  | [0, b + 1], _, _ => rfl
  | [0, 0, 0], _, _ => rfl
  | [0, 0, c + 1], _, _ => rfl
  | [0, b + 1, c], _, _ => rfl
  | (a + 1) :: ns, _, _ => rfl

/-! ### Terms with numbers -/

/-- Comparators are found, and together they say of releases what is said. -/
def Says (found : Except Fault (List Comparator)) (means : Version → Prop) : Prop :=
  ∃ cs, found = .ok cs ∧ ∀ v : Version, v.IsRelease →
    ((∀ c ∈ cs, c.holds v = true) ↔ means v)

theorem Says.congr {found : Except Fault (List Comparator)} {means means' : Version → Prop}
    (h : Says found means) (hm : ∀ v : Version, v.IsRelease → (means v ↔ means' v)) :
    Says found means' := by
  obtain ⟨cs, hcs, hmeans⟩ := h
  exact ⟨cs, hcs, fun v hv => (hmeans v hv).trans (hm v hv)⟩

section

variable {p : Partial} {u w : Version} {ms : List Nat}

theorem says_one {relation : Relation} {means : Version → Prop}
    (h : ∀ v : Version, v.IsRelease → (relates relation v w ↔ means v)) :
    Says (.ok [⟨relation, w⟩]) means := by
  refine ⟨_, rfl, fun v hv => ?_⟩
  rw [List.forall_mem_singleton, holds_iff]
  exact h v hv

/-- A range from the least version with the numbers to the end of those that begin with some of
them. -/
theorem says_range (hp : p.WellFormed) (hms : ms <+: p.numbers) (hu : u.IsEnd ms) :
    Says (.ok [⟨.ge, p.lower⟩, ⟨.lt, u⟩]) fun v => p.lower ≤ v ∧ ms <+: v.numbers := by
  refine ⟨_, rfl, fun v hv => ?_⟩
  rw [List.forall_mem_cons, List.forall_mem_singleton, holds_iff, holds_iff]
  change p.lower ≤ v ∧ v < u ↔ _
  refine and_congr_right fun hle => ?_
  rw [hu v hv.pre]
  refine or_iff_right fun hlt => ?_
  have hbefore : v < padded p.numbers :=
    Std.lt_of_lt_of_le hlt (padded_le_padded hp.length_le hms)
  exact Std.not_lt.2 hle ((Partial.lt_lower_iff hv.pre).2 hbefore)

/-- The releases that begin with some of the numbers have an end. -/
theorem exists_end (hp : p.WellFormed) (hne : ms ≠ []) (hms : ms <+: p.numbers)
    (hlast : ms.getLast? ≠ some wordMax) : ∃ u, above ms = .ok u ∧ u.IsEnd ms :=
  exists_above hne (Nat.le_trans hms.length_le hp.length_le)
    (fun n hn => hp.le_wordMax n (hms.subset hn)) hlast

theorem lower_le_of_begins {v : Version} (hp : p.WellFormed) (hv : v.pre = [])
    (h : p.numbers <+: v.numbers) : p.lower ≤ v :=
  Std.not_lt.1 fun hlt => not_lt_padded hv hp.length_le h ((Partial.lt_lower_iff hv).1 hlt)

/-- The least version with fewer than three numbers is a release that begins with them. -/
theorem begins_of_eq_lower {v : Version} (hp : p.WellFormed) (hlt : p.numbers.length < 3)
    (h : v = p.lower) : p.numbers <+: v.numbers := by
  rw [h, Partial.lower_eq_padded (hp.pre_of_not_full (Nat.ne_of_lt hlt))]
  exact prefix_numbers_padded hp.length_le

/-- A full version has no end, and a partial one has the end of the releases with its numbers. -/
theorem upper_cases (hp : p.WellFormed) (hne : p.numbers ≠ [])
    (hlast : p.numbers.length < 3 → p.numbers.getLast? ≠ some wordMax) :
    (p.numbers.length = 3 ∧ p.upper = .ok none) ∨
      (p.numbers.length < 3 ∧ p.pre = [] ∧ ∃ u, p.upper = .ok (some u) ∧ u.IsEnd p.numbers) := by
  by_cases hfull : p.numbers.length = 3
  · exact .inl ⟨hfull, Partial.upper_of_full hfull⟩
  · have hlt : p.numbers.length < 3 := Nat.lt_of_le_of_ne hp.length_le hfull
    obtain ⟨u, habove, hu⟩ := exists_end hp hne List.prefix_rfl (hlast hlt)
    refine .inr ⟨hlt, hp.pre_of_not_full hfull, u, ?_, hu⟩
    rw [Partial.upper_of_partial hne hlt, habove]
    rfl

/-- A version that stands alone stands for the releases that begin with its numbers. -/
theorem says_bare (hp : p.WellFormed) (hne : p.numbers ≠ [])
    (hlast : p.numbers.length < 3 → p.numbers.getLast? ≠ some wordMax) :
    Says (comparators .bare p) fun v => p.pre = [] ∧ p.numbers <+: v.numbers := by
  rcases upper_cases hp hne hlast with ⟨hfull, hupper⟩ | ⟨-, hpre, u, hupper, hu⟩
  · rw [comparators, hupper]
    exact says_one fun v hv => Partial.eq_lower_iff hv.pre hfull
  · rw [comparators, hupper]
    refine (says_range hp List.prefix_rfl hu).congr fun v hv => ?_
    rw [and_iff_right_of_imp (lower_le_of_begins hp hv.pre), and_iff_right hpre]

/-- What is above a version of which not all numbers are given is above all releases that begin
with them. -/
theorem says_gt (hp : p.WellFormed) (hne : p.numbers ≠ [])
    (hlast : p.numbers.length < 3 → p.numbers.getLast? ≠ some wordMax) :
    Says (comparators .gt p) (Means .gt p) := by
  rcases upper_cases hp hne hlast with ⟨hfull, hupper⟩ | ⟨hlt, -, u, hupper, hu⟩
  · rw [comparators, hupper]
    refine says_one fun v hv => ?_
    rw [Means, Partial.isFull, hfull]
    exact Iff.rfl
  · rw [comparators, hupper]
    refine says_one fun v hv => ?_
    rw [Means, Partial.isFull, if_neg (by simpa using Nat.ne_of_lt hlt)]
    change u ≤ v ↔ _
    constructor
    · intro hle w hw hbegins
      exact Std.lt_of_lt_of_le ((hu w hw.pre).2 (.inr hbegins)) hle
    · intro hall
      refine Std.not_lt.1 fun hbefore => ?_
      rcases (hu v hv.pre).1 hbefore with hbefore | hbegins
      · have hafter := hall (padded p.numbers) (isRelease_padded hp.le_wordMax)
          (prefix_numbers_padded hp.length_le)
        exact Std.lt_irrefl (Std.lt_trans hbefore hafter)
      · exact Std.lt_irrefl (hall v hv hbegins)

/-- What is up to a version of which not all numbers are given includes the releases that begin with
them. -/
theorem says_le (hp : p.WellFormed) (hne : p.numbers ≠ [])
    (hlast : p.numbers.length < 3 → p.numbers.getLast? ≠ some wordMax) :
    Says (comparators .le p) (Means .le p) := by
  rcases upper_cases hp hne hlast with ⟨hfull, hupper⟩ | ⟨hlt, hpre, u, hupper, hu⟩
  · rw [comparators, hupper]
    refine says_one fun v hv => ?_
    change v ≤ p.lower ↔ v ≤ p.lower ∨ p.pre = [] ∧ p.numbers <+: v.numbers
    rw [or_iff_left_of_imp]
    intro h
    exact Std.le_of_eq ((Partial.eq_lower_iff hv.pre hfull).2 h)
  · rw [comparators, hupper]
    refine says_one fun v hv => ?_
    change v < u ↔ v ≤ p.lower ∨ p.pre = [] ∧ p.numbers <+: v.numbers
    rw [hu v hv.pre, ← Partial.lt_lower_iff hv.pre, Std.le_iff_lt_or_eq, and_iff_right hpre,
      or_assoc]
    refine or_congr_right (or_iff_right_of_imp fun heq => ?_).symm
    exact begins_of_eq_lower hp hlt heq

/-- A term that is not refused says what its operator means. -/
theorem says_comparators (hp : p.WellFormed) (hne : p.numbers ≠ []) {op : Operator}
    (h : op.fault? p = none) : Says (op.comparators p) (op.Means p) := by
  obtain ⟨hfull, hlast⟩ := full_and_last_of_fault? hne h
  have hpartial : op.ended p.numbers = (if p.numbers.length < 3 then p.numbers else []) →
      p.numbers.length < 3 → p.numbers.getLast? ≠ some wordMax := by
    intro hended hlt
    rwa [hended, if_pos hlt] at hlast
  cases op with
  | bare => exact says_bare hp hne (hpartial rfl)
  | eq => exact says_bare hp hne (hpartial rfl)
  | ne =>
    rw [comparators, Partial.isFull, Nat.le_antisymm hp.length_le (hfull rfl)]
    exact says_one fun v hv => Iff.rfl
  | gt => exact says_gt hp hne (hpartial rfl)
  | ge => exact says_one fun v hv => Iff.rfl
  | lt => exact says_one fun v hv => Iff.rfl
  | le => exact says_le hp hne (hpartial rfl)
  | tilde =>
    have hne' : p.numbers.take 2 ≠ [] := by simpa using hne
    have htake : p.numbers.take 2 <+: p.numbers := List.take_prefix ..
    obtain ⟨u, habove, hu⟩ := exists_end hp hne' htake hlast
    rw [comparators, tildeUpper_eq hne, habove]
    exact says_range hp htake hu
  | caret =>
    obtain ⟨u, habove, hu⟩ := exists_end hp (leading_ne_nil hne) (leading_prefix_self _) hlast
    rw [comparators, caretUpper_eq hne hp.length_le, habove]
    exact says_range hp (leading_prefix_self _) hu

/-- Where every number is a wildcard, a term that is not refused admits all releases. -/
theorem says_ofWildcard (hp : p.WellFormed) (hnil : p.numbers = []) {op : Operator}
    (h : op.fault? p = none) : Says op.ofWildcard (op.Means p) := by
  have hpre : p.pre = [] := hp.pre_of_not_full (by rw [hnil]; decide)
  have hbegins (v : Version) : p.numbers <+: v.numbers := hnil ▸ List.nil_prefix
  have htake : p.numbers.take 2 <+: p.numbers := List.take_prefix ..
  have hlower {v : Version} (hv : v.IsRelease) : p.lower ≤ v :=
    lower_le_of_begins hp hv.pre (hbegins v)
  have hall {means : Version → Prop} (hmeans : ∀ v : Version, v.IsRelease → means v) :
      Says (.ok []) means :=
    ⟨[], rfl, fun v hv => iff_of_true (fun c hc => absurd hc List.not_mem_nil) (hmeans v hv)⟩
  cases op with
  | bare => exact hall fun v hv => ⟨hpre, hbegins v⟩
  | eq => exact hall fun v hv => ⟨hpre, hbegins v⟩
  | ge => exact hall fun v hv => hlower hv
  | tilde => exact hall fun v hv => ⟨hlower hv, htake.trans (hbegins v)⟩
  | caret => exact hall fun v hv => ⟨hlower hv, (leading_prefix_self _).trans (hbegins v)⟩
  | ne => exact absurd h (by simp [fault?, compares, hnil])
  | gt => exact absurd h (by simp [fault?, compares, hnil])
  | lt => exact absurd h (by simp [fault?, compares, hnil])
  | le => exact absurd h (by simp [fault?, compares, hnil])

end

/-! ### Terms that are refused -/

section

variable {op : Operator} {p : Partial} {fault : Fault}

theorem ofWildcard_of_fault? (hnil : p.numbers = []) (h : op.fault? p = some fault) :
    op.ofWildcard = .error fault := by
  cases op with
  | ne | gt | lt | le =>
    rw [fault?, if_pos ⟨rfl, hnil⟩] at h
    exact congrArg Except.error (Option.some.inj h)
  | bare | eq | ge | tilde | caret =>
    exact absurd h (by simp [fault?, ended, leading, compares, hnil])

/-- The end of a range with the largest number is not found. -/
theorem comparators_of_getLast? (hne : p.numbers ≠ []) (hlen : p.numbers.length ≤ 3)
    (h : (op.ended p.numbers).getLast? = some wordMax) :
    op.comparators p = .error .overflow := by
  have hupper (hlast : (if p.numbers.length < 3 then p.numbers else []).getLast? = some wordMax) :
      p.upper = .error .overflow := by
    split at hlast
    · next hlt =>
      rw [Partial.upper_of_partial hne hlt, above_of_getLast? hlast]
      rfl
    · cases hlast
  cases op with
  | bare | eq | gt | le =>
    rw [comparators, hupper h]
    rfl
  | tilde =>
    have habove : above (p.numbers.take 2) = .error .overflow := above_of_getLast? h
    rw [comparators, tildeUpper_eq hne, habove]
    rfl
  | caret =>
    have habove : above (leading p.numbers) = .error .overflow := above_of_getLast? h
    rw [comparators, caretUpper_eq hne hlen, habove]
    rfl
  | ne | ge | lt => cases h

theorem comparators_of_fault? (hne : p.numbers ≠ []) (hlen : p.numbers.length ≤ 3)
    (h : op.fault? p = some fault) : op.comparators p = .error fault := by
  rw [fault?, if_neg fun hnil => hne hnil.2] at h
  split at h
  · next hop =>
    obtain ⟨rfl, hlt⟩ := hop
    obtain rfl := Option.some.inj h
    rw [comparators, Partial.isFull, if_neg (by simpa using Nat.ne_of_lt hlt)]
  · split at h
    · next hlast =>
      obtain rfl := Option.some.inj h
      exact comparators_of_getLast? hne hlen hlast
    · cases h

end

/-- The comparators that an operator asks for. -/
def ofPartial (op : Operator) (p : Partial) : Except Fault (List Comparator) :=
  if p.numbers.isEmpty then op.ofWildcard else op.comparators p

/-- A term is refused for the reason that is given, and otherwise says what its operator means. -/
theorem ofPartial_spec (op : Operator) {p : Partial} (hp : p.WellFormed) :
    (∀ fault, op.fault? p = some fault → op.ofPartial p = .error fault) ∧
      (op.fault? p = none → Says (op.ofPartial p) (op.Means p)) := by
  by_cases hnil : p.numbers = []
  · rw [ofPartial, hnil, List.isEmpty_nil, if_pos rfl]
    exact ⟨fun fault h => ofWildcard_of_fault? hnil h, fun h => says_ofWildcard hp hnil h⟩
  · rw [ofPartial, List.isEmpty_eq_false_iff.2 hnil, if_neg Bool.false_ne_true]
    exact ⟨fun fault h => comparators_of_fault? hnil hp.length_le h,
      fun h => says_comparators hp hnil h⟩

end Operator

end Constraint

end ImageDiscovery
