import ImageDiscovery.Version.Basic

/-!
# The order of versions is lawful

Precedence compares the three numbers in turn, then whether there are pre-release identifiers, and
then these one by one. Each of the comparisons is transitive and finds two values equal only if they
are the same, and both properties pass to their combination.

## Main results

* `Identifier.compareList_eq_compareLex` — identifiers are compared one by one.
* `Version.comparePre_eq` — pre-releases come before releases, and then the identifiers count.
* `Version.instTransOrd`, `Version.instLawfulEqOrd`, `Version.instIsLinearOrder` — precedence is a
  linear order.
-/

namespace ImageDiscovery

namespace Identifier

instance : Ord Identifier := ⟨Identifier.compare⟩

instance : Std.OrientedOrd Identifier where
  eq_swap {a b} := by
    cases a with
    | numeric m =>
      cases b with
      | numeric n => exact Std.OrientedOrd.eq_swap (a := m) (b := n)
      | word t => rfl
    | word s =>
      cases b with
      | numeric n => rfl
      | word t => exact Std.OrientedOrd.eq_swap (a := s) (b := t)

instance : Std.TransOrd Identifier where
  isLE_trans {a b c} hab hbc := by
    cases a with
    | numeric m =>
      cases b with
      | numeric n =>
        cases c with
        | numeric k => exact Std.TransOrd.isLE_trans (a := m) (b := n) (c := k) hab hbc
        | word u => rfl
      | word t =>
        cases c with
        | numeric k => cases hbc
        | word u => rfl
    | word s =>
      cases b with
      | numeric n => cases hab
      | word t =>
        cases c with
        | numeric k => cases hbc
        | word u => exact Std.TransOrd.isLE_trans (a := s) (b := t) (c := u) hab hbc

instance : Std.LawfulEqOrd Identifier where
  compare_self {a} := by
    cases a with
    | numeric m => exact Std.ReflOrd.compare_self (a := m)
    | word s => exact Std.ReflOrd.compare_self (a := s)
  eq_of_compare {a b} h := by
    cases a with
    | numeric m =>
      cases b with
      | numeric n => rw [Std.LawfulEqOrd.eq_of_compare (a := m) (b := n) h]
      | word t => cases h
    | word s =>
      cases b with
      | numeric n => cases h
      | word t => rw [Std.LawfulEqOrd.eq_of_compare (a := s) (b := t) h]

/-- Identifiers are compared one by one. -/
theorem compareList_eq_compareLex (as bs : List Identifier) :
    compareList as bs = List.compareLex Ord.compare as bs := by
  induction as generalizing bs with
  | nil =>
    cases bs with
    | nil => rw [compareList, List.compareLex_nil_nil]
    | cons b bs => rw [compareList, List.compareLex_nil_cons]
  | cons a as ih =>
    cases bs with
    | nil => rw [compareList, List.compareLex_cons_nil]
    | cons b bs =>
      rw [compareList, List.compareLex_cons_cons, ih]
      rfl

end Identifier

namespace Version

/-- Pre-releases come first, and then the identifiers count. -/
theorem comparePre_eq : comparePre = compareLex (compareOn List.isEmpty)
    (List.compareLex (compare : Identifier → Identifier → Ordering)) := by
  funext as bs
  cases as with
  | nil => cases bs <;> rfl
  | cons a as =>
    cases bs with
    | nil => rfl
    | cons b bs => exact Identifier.compareList_eq_compareLex ..

instance : Std.TransCmp comparePre :=
  comparePre_eq ▸ inferInstance

instance : Std.LawfulEqCmp comparePre where
  compare_self := by
    rw [comparePre_eq]
    exact Std.ReflCmp.compare_self
  eq_of_compare h := by
    rw [comparePre_eq] at h
    exact Std.LawfulEqCmp.eq_of_compare (Ordering.then_eq_eq.1 h).2

instance : Std.TransCmp fun v w : Version => comparePre v.pre w.pre where
  eq_swap {v w} := @Std.OrientedCmp.eq_swap _ comparePre _ v.pre w.pre
  isLE_trans {v w z} := @Std.TransCmp.isLE_trans _ comparePre _ v.pre w.pre z.pre

/-- Precedence is transitive and total. -/
instance instTransOrd : Std.TransOrd Version :=
  inferInstanceAs (Std.TransCmp (compareLex (compareLex (compareOn major)
    (compareLex (compareOn minor) (compareOn patch))) fun v w => comparePre v.pre w.pre))

/-- Versions of the same precedence are the same. -/
instance instLawfulEqOrd : Std.LawfulEqOrd Version where
  compare_self {v} := Std.ReflOrd.compare_self (a := v)
  eq_of_compare {v w} h := by
    obtain ⟨hcore, hpre⟩ := Ordering.then_eq_eq.1 h
    obtain ⟨hmajor, hrest⟩ := Ordering.then_eq_eq.1 hcore
    obtain ⟨hminor, hpatch⟩ := Ordering.then_eq_eq.1 hrest
    cases v
    cases w
    rw [Version.mk.injEq]
    exact ⟨Std.LawfulEqOrd.eq_of_compare hmajor, Std.LawfulEqOrd.eq_of_compare hminor,
      Std.LawfulEqOrd.eq_of_compare hpatch, Std.LawfulEqCmp.eq_of_compare hpre⟩

instance : LT Version := ltOfOrd

instance : LE Version := leOfOrd

instance : Std.LawfulOrderOrd Version where
  isLE_compare _ _ := Iff.rfl
  isGE_compare v w := by
    rw [Std.OrientedOrd.eq_swap (a := v) (b := w), Ordering.isGE_swap]
    rfl

instance : Std.LawfulOrderLT Version where
  lt_iff v w := by
    rw [← Std.isLE_compare (a := v) (b := w), ← Std.isLE_compare (a := w) (b := v),
      Std.OrientedOrd.eq_swap (a := w) (b := v), Ordering.isLE_swap]
    change compare v w = .lt ↔ _
    cases compare v w <;> decide

instance instIsLinearOrder : Std.IsLinearOrder Version := Std.IsLinearOrder.of_ord

end Version

end ImageDiscovery
