import Mathlib.Data.List.Dedup
import Mathlib.Data.List.Nodup
import Mathlib.Data.List.Sort

/-!
# Beginnings of sorted lists

For a comparison that is a linear order, a list with given members has one sorted form only. How
often an element occurs at the beginning of a sorted list is a matter of counting: it fills the
places after those of the elements before it.

## Main results

* `eq_mergeSort_of_sorted` — a sorted list is the sorted form of each of its rearrangements.
* `mergeSort_eq_insertionSort` — the sorted form by insertion.
* `count_take_of_sorted` — how often an element occurs at the beginning of a sorted list.
* `nodup_take_of_sorted_iff` — when the beginning of a sorted list does not repeat an element.
* `eraseReps_mergeSort` — sorting and erasing repetitions is sorting the members.
-/

namespace ImageDiscovery

variable {α : Type} {cmp : α → α → Ordering}

variable (cmp) in
theorem ne_of_compare_ne [Std.ReflCmp cmp] {a b : α} (h : cmp a b ≠ .eq) : a ≠ b := by
  rintro rfl
  exact h Std.ReflCmp.compare_self

/-! ### The sorted form -/

section

variable [Std.TransCmp cmp] {l l' : List α}

variable (cmp) in
theorem isLE_or_isLE (a b : α) : (cmp a b).isLE = true ∨ (cmp b a).isLE = true := by
  cases h : cmp a b with
  | lt => exact .inl rfl
  | eq => exact .inl rfl
  | gt => exact .inr (by rw [Std.OrientedCmp.lt_of_gt h]; rfl)

variable (cmp) in
theorem pairwise_mergeSort_isLE (l : List α) :
    (l.mergeSort fun a b => (cmp a b).isLE).Pairwise fun a b => (cmp a b).isLE = true := by
  refine List.pairwise_mergeSort (fun a b c => Std.TransCmp.isLE_trans) (fun a b => ?_) l
  rw [Bool.or_eq_true]
  exact isLE_or_isLE cmp a b

variable [Std.LawfulEqCmp cmp]

/-- A sorted list is the sorted form of each of its rearrangements. -/
theorem eq_mergeSort_of_sorted (hl : l.Pairwise fun a b => (cmp a b).isLE = true)
    (h : l.Perm l') : l = l'.mergeSort fun a b => (cmp a b).isLE := by
  refine List.Perm.eq_of_pairwise (fun a b _ _ hab hba => ?_) hl (pairwise_mergeSort_isLE cmp l')
    (h.trans (List.mergeSort_perm ..).symm)
  exact Std.LawfulEqCmp.eq_of_compare (Std.OrientedCmp.isLE_antisymm hab hba)

variable (cmp) in
/-- Insertion leads to the same sorted form. It recurs on the list alone, and so it is what the
sorted form of a given list is computed by in a proof. -/
theorem mergeSort_eq_insertionSort (l : List α) :
    (l.mergeSort fun a b => (cmp a b).isLE) =
      l.insertionSort fun a b => (cmp a b).isLE = true := by
  have htotal : Std.Total fun a b => (cmp a b).isLE = true := ⟨isLE_or_isLE cmp⟩
  have htrans : IsTrans α fun a b => (cmp a b).isLE = true :=
    ⟨fun _ _ _ => Std.TransCmp.isLE_trans⟩
  exact (eq_mergeSort_of_sorted (l.pairwise_insertionSort _) (l.perm_insertionSort _)).symm

variable (cmp) in
/-- What is selected from a sorted list is sorted. -/
theorem filter_mergeSort (f : α → Bool) (l : List α) :
    (l.mergeSort fun a b => (cmp a b).isLE).filter f =
      (l.filter f).mergeSort fun a b => (cmp a b).isLE :=
  eq_mergeSort_of_sorted ((pairwise_mergeSort_isLE cmp l).filter f)
    ((List.mergeSort_perm ..).filter f)

/-! ### Counting -/

variable [DecidableEq α]

/-- At the beginning of a sorted list, an element fills the places after those of the elements
before it, as often as it occurs. -/
theorem count_take_of_sorted (hl : l.Pairwise fun a b => (cmp a b).isLE = true) (k : Nat) (t : α) :
    (l.take k).count t = min (l.count t) (k - (l.filter fun a => cmp a t == .lt).length) := by
  induction l generalizing k with
  | nil => rw [List.take_nil, List.count_nil, Nat.zero_min]
  | cons a l ih =>
    obtain ⟨ha, hl⟩ := List.pairwise_cons.1 hl
    cases k with
    | zero => rw [List.take_zero, List.count_nil, Nat.zero_sub, Nat.min_zero]
    | succ k =>
      rw [List.take_succ_cons, List.count_cons, List.count_cons, ih hl, List.filter_cons]
      cases hat : cmp a t with
      | lt =>
        have hne : a ≠ t := ne_of_compare_ne cmp (by rw [hat]; decide)
        rw [beq_eq_false_iff_ne.2 hne, if_neg Bool.false_ne_true, if_pos BEq.rfl, List.length_cons]
        omega
      | eq =>
        -- No element after `a` comes before it.
        obtain rfl := Std.LawfulEqCmp.eq_of_compare hat
        have hnone : l.filter (fun b => cmp b a == .lt) = [] :=
          List.filter_eq_nil_iff.2 fun b hb hlt => by
            have hgt := Std.OrientedCmp.gt_of_lt (beq_iff_eq.1 hlt)
            have hle := ha b hb
            rw [hgt] at hle
            cases hle
        rw [if_pos BEq.rfl, if_neg (by decide), hnone, List.length_nil]
        omega
      | gt =>
        -- Neither `a` nor an element after it is `t`.
        have hne : a ≠ t := ne_of_compare_ne cmp (by rw [hat]; decide)
        have hcount : l.count t = 0 := List.count_eq_zero.2 fun ht => by
          have hle := ha t ht
          rw [hat] at hle
          cases hle
        rw [hcount, beq_eq_false_iff_ne.2 hne, if_neg Bool.false_ne_true, Nat.zero_min,
          Nat.zero_add, Nat.zero_min]

/-- When the beginning of a sorted list does not repeat an element: where one occurs several times,
the elements before it leave one place at most. -/
theorem nodup_take_of_sorted_iff (hl : l.Pairwise fun a b => (cmp a b).isLE = true) (k : Nat) :
    (l.take k).Nodup ↔
      ∀ t, 2 ≤ l.count t → k ≤ (l.filter fun a => cmp a t == .lt).length + 1 := by
  rw [List.nodup_iff_count]
  refine forall_congr' fun t => ?_
  rw [count_take_of_sorted hl]
  omega

end

/-! ### Repetitions -/

section

variable [DecidableEq α]

private theorem eraseRepsBy_loop_eq (a : α) (as bs : List α) :
    List.eraseRepsBy.loop (· == ·) a as bs =
      bs.reverse ++ List.eraseRepsBy.loop (· == ·) a as [] := by
  induction as generalizing a bs with
  | nil => simp only [List.eraseRepsBy.loop, List.reverse_cons, List.reverse_nil, List.nil_append]
  | cons c cs ih =>
    unfold List.eraseRepsBy.loop
    split
    · exact ih a bs
    · rw [ih c (a :: bs), ih c [a], List.reverse_cons, List.append_assoc, List.reverse_singleton]

theorem eraseReps_cons_cons (a b : α) (as : List α) :
    (a :: b :: as).eraseReps = if a = b then (a :: as).eraseReps else a :: (b :: as).eraseReps := by
  have hloop : (a :: b :: as).eraseReps = match a == b with
      | true => List.eraseRepsBy.loop (· == ·) a as []
      | false => List.eraseRepsBy.loop (· == ·) b as [a] := rfl
  by_cases h : a = b
  · rw [hloop, beq_iff_eq.2 h, if_pos h]
    rfl
  · rw [hloop, beq_eq_false_iff_ne.2 h, if_neg h]
    exact eraseRepsBy_loop_eq b as [a]

theorem mem_eraseReps {a : α} {as : List α} : a ∈ as.eraseReps ↔ a ∈ as := by
  cases as with
  | nil => rfl
  | cons b bs =>
    induction bs generalizing b with
    | nil => rfl
    | cons c cs ih =>
      rw [eraseReps_cons_cons]
      split
      · next h => rw [ih, h, List.mem_cons, List.mem_cons, List.mem_cons, or_self_left]
      · rw [List.mem_cons, ih, ← List.mem_cons]

/-- Without repetitions, a sorted list ascends strictly. -/
theorem pairwise_eraseReps [Std.TransCmp cmp] [Std.LawfulEqCmp cmp] {as : List α}
    (h : as.Pairwise fun a b => (cmp a b).isLE = true) :
    as.eraseReps.Pairwise fun a b => cmp a b = .lt := by
  cases as with
  | nil => exact .nil
  | cons b bs =>
    induction bs generalizing b with
    | nil => exact List.pairwise_singleton ..
    | cons c cs ih =>
      obtain ⟨hb, hcs⟩ := List.pairwise_cons.1 h
      rw [eraseReps_cons_cons]
      split
      · next heq => exact ih b (heq ▸ hcs)
      · next hne =>
        refine List.pairwise_cons.2 ⟨fun d hd => ?_, ih c hcs⟩
        -- Before an equal element further on, there would be one in between.
        have hbc : cmp b c = .lt :=
          (Ordering.isLE_iff_eq_lt_or_eq_eq.1 (hb c List.mem_cons_self)).resolve_right
            fun heq => hne (Std.LawfulEqCmp.eq_of_compare heq)
        rcases List.mem_cons.1 (mem_eraseReps.1 hd) with rfl | hd
        · exact hbc
        · exact Std.TransCmp.lt_of_lt_of_isLE hbc ((List.pairwise_cons.1 hcs).1 d hd)

variable (cmp) in
/-- Sorting and erasing repetitions is sorting the members. -/
theorem eraseReps_mergeSort [Std.TransCmp cmp] [Std.LawfulEqCmp cmp] (as : List α) :
    (as.mergeSort fun a b => (cmp a b).isLE).eraseReps =
      as.dedup.mergeSort fun a b => (cmp a b).isLE := by
  have hlt := pairwise_eraseReps (pairwise_mergeSort_isLE cmp as)
  refine eq_mergeSort_of_sorted (hlt.imp fun hab => by rw [hab]; rfl) ?_
  have hnodup : (as.mergeSort fun a b => (cmp a b).isLE).eraseReps.Nodup :=
    hlt.imp fun hab => ne_of_compare_ne cmp (by rw [hab]; decide)
  refine (List.perm_ext_iff_of_nodup hnodup as.nodup_dedup).2 fun a => ?_
  rw [mem_eraseReps, List.mem_mergeSort, List.mem_dedup]

end

end ImageDiscovery
