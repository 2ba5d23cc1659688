import ImageDiscovery.Proofs.Text.Digits
import ImageDiscovery.Proofs.Version.Precedence
import ImageDiscovery.Proofs.Version.Tag

/-!
# Identifiers that are numbers

Two versions with the same numbers and the same identifiers up to some place are ordered by the
identifiers in this place. Where both of these are numbers without leading zeros, the smaller one
comes first if it fits a machine word: a larger one is then a larger number, or a word, which comes
after all numbers. Where neither fits, both are words and are ordered as texts are; then the smaller
one comes first if it is not larger than what as many of the first digits of the other one write. So
numbers of the same length are in order, but `100000000000000000000` comes before
`99999999999999999999`.

## Main definitions

* `Version.identifierTexts` — the texts of the identifiers of a tag.

## Main results

* `Version.compare_of_take_eq` — the first identifiers that differ decide.
* `IdentifierText.compare_of_isDecimal` — the order of two identifiers that are numbers.
* `Version.compare_numbers_iff` — the order of two tags with numbers in the same place.
-/

namespace ImageDiscovery

open Text Version

/-! ### Identifiers -/

namespace IdentifierText

variable {i j : IdentifierText}

/-- A number is read as such if it fits a machine word, and otherwise as a word. -/
theorem value_of_isDecimal (hi : IsDecimal i.chars) : i.value =
    if valueOfDigits i.chars ≤ wordMax then .numeric (valueOfDigits i.chars)
    else .word (String.ofList i.chars) := by
  rw [value, List.all_eq_true.2 hi.isDigit, Bool.true_and]
  simp only [decide_eq_true_eq]

/-- Of two numbers the smaller one comes first, unless neither fits a machine word and the smaller
one is larger than what as many of the first digits of the other one write. -/
theorem compare_of_isDecimal (hi : IsDecimal i.chars) (hj : IsDecimal j.chars)
    (h : valueOfDigits i.chars < valueOfDigits j.chars) :
    (Identifier.compare i.value j.value = .lt ↔ valueOfDigits i.chars ≤ wordMax ∨
      valueOfDigits i.chars ≤ valueOfDigits (j.chars.take i.chars.length)) ∧
    Identifier.compare i.value j.value ≠ .eq := by
  rw [value_of_isDecimal hi, value_of_isDecimal hj]
  by_cases hfits : valueOfDigits i.chars ≤ wordMax
  · have hlt : Identifier.compare (.numeric (valueOfDigits i.chars))
        (if valueOfDigits j.chars ≤ wordMax then .numeric (valueOfDigits j.chars)
          else .word (String.ofList j.chars)) = .lt := by
      split
      · exact Nat.compare_eq_lt.2 h
      · rfl
    rw [if_pos hfits, hlt]
    exact ⟨iff_of_true rfl (.inl hfits), by decide⟩
  · have hword : ¬ valueOfDigits j.chars ≤ wordMax := fun hle =>
      hfits (Nat.le_trans (Nat.le_of_lt h) hle)
    rw [if_neg hfits, if_neg hword, or_iff_right hfits, ← hi.lt_iff hj h]
    refine ⟨?_, fun heq => ?_⟩
    · refine Batteries.compareOfLessAndEq_eq_lt.trans ?_
      rw [String.lt_iff, String.toList_ofList, String.toList_ofList]
    · have hchars := Identifier.word.inj (Identifier.compare_eq_eq_iff.1 heq)
      rw [String.ofList_inj.1 hchars] at h
      exact Nat.lt_irrefl _ h

end IdentifierText

/-! ### Lists of identifiers -/

/-- The first identifiers that differ decide. -/
theorem Identifier.compareList_of_take_eq {is js : List Identifier} {n : Nat} {i j : Identifier}
    (h : is.take n = js.take n) (hi : is[n]? = some i) (hj : js[n]? = some j)
    (hne : compare i j ≠ .eq) : compareList is js = compare i j := by
  induction n generalizing is js with
  | zero =>
    obtain ⟨is, rfl⟩ := List.head?_eq_some_iff.1 (List.head?_eq_getElem? ▸ hi)
    obtain ⟨js, rfl⟩ := List.head?_eq_some_iff.1 (List.head?_eq_getElem? ▸ hj)
    rw [compareList]
    cases hij : compare i j with
    | eq => exact absurd hij hne
    | lt => rfl
    | gt => rfl
  | succ n ih =>
    cases is with
    | nil => cases hi
    | cons a is =>
      cases js with
      | nil => cases hj
      | cons b js =>
        rw [List.take_succ_cons, List.take_succ_cons, List.cons.injEq] at h
        obtain ⟨rfl, h⟩ := h
        rw [compareList, compare_eq_eq_iff.2 rfl, Ordering.eq_then]
        exact ih h hi hj

namespace Version

variable {v w : Version}

/-- Where the numbers are the same, the first identifiers that differ decide. -/
theorem compare_of_take_eq (hnumbers : v.numbers = w.numbers) {n : Nat} {i j : Identifier}
    (h : v.pre.take n = w.pre.take n) (hi : v.pre[n]? = some i) (hj : w.pre[n]? = some j)
    (hne : Identifier.compare i j ≠ .eq) : compare v w = Identifier.compare i j := by
  have hpre : comparePre v.pre w.pre = Identifier.compareList v.pre w.pre := by
    cases hv : v.pre with
    | nil => rw [hv] at hi; cases hi
    | cons a is =>
      cases hw : w.pre with
      | nil => rw [hw] at hj; cases hj
      | cons b js => rfl
  change (compareCore v w).then (comparePre v.pre w.pre) = _
  rw [compareCore_eq_eq_iff.2 hnumbers, Ordering.eq_then, hpre]
  exact Identifier.compareList_of_take_eq h hi hj hne

/-! ### Tags -/

/-- The texts of the identifiers of a tag: what stands between dots after the first hyphen and
before the build part. -/
def identifierTexts (s : List Char) : List (List Char) :=
  (coreAndPre (withoutBuild (withoutMark s))).2.elim [] (split '.')

/-- The identifiers of a tag are read from their texts. -/
theorem identifierTexts_chars (t : TagText) : identifierTexts t.chars = t.pre.map (·.chars) := by
  rw [identifierTexts, t.coreAndPre_chars]
  simp only [TagText.preText]
  cases hpre : t.pre with
  | nil => rfl
  | cons i is =>
    exact split_join (List.cons_ne_nil _ _) (List.forall_mem_map.2 fun j _ => j.dot_not_mem)

/-- **When tags with numbers are in order.** Two tags are read that have the same numbers and the
same identifiers up to some place, and in this place two different numbers without leading zeros.
The one with the smaller number comes first if this number fits a machine word, or if it is not
larger than what as many of the first digits of the other one write; and otherwise it comes last. -/
theorem compare_numbers_iff {s t : String} {strict strict' : Bool}
    (hv : ofTag? strict s = some v) (hw : ofTag? strict' t = some w)
    (hnumbers : v.numbers = w.numbers) {n : Nat} (hbefore : v.pre.take n = w.pre.take n)
    {p q : List Char} (hp : (identifierTexts s.toList)[n]? = some p)
    (hq : (identifierTexts t.toList)[n]? = some q) (hpd : IsDecimal p) (hqd : IsDecimal q)
    (h : valueOfDigits p < valueOfDigits q) :
    (compare v w = .lt ↔
      valueOfDigits p ≤ wordMax ∨ valueOfDigits p ≤ valueOfDigits (q.take p.length)) ∧
    compare v w ≠ .eq := by
  obtain ⟨a, ha, rfl, -⟩ := exists_tagText hv
  obtain ⟨b, hb, rfl, -⟩ := exists_tagText hw
  rw [← ha, identifierTexts_chars, List.getElem?_map] at hp
  rw [← hb, identifierTexts_chars, List.getElem?_map] at hq
  obtain ⟨i, hi, rfl⟩ := Option.map_eq_some_iff.1 hp
  obtain ⟨j, hj, rfl⟩ := Option.map_eq_some_iff.1 hq
  obtain ⟨horder, hne⟩ := IdentifierText.compare_of_isDecimal hpd hqd h
  have hcompare : compare a.value b.value = Identifier.compare i.value j.value := by
    refine compare_of_take_eq hnumbers hbefore ?_ ?_ hne
    · exact (List.getElem?_map ..).trans (congrArg (Option.map _) hi)
    · exact (List.getElem?_map ..).trans (congrArg (Option.map _) hj)
  rw [hcompare]
  exact ⟨horder, hne⟩

/-- Times of builds that do not fit a machine word are in order, since they have the same length. -/
theorem compare_numbers_iff_times :
    let p := "20260105123456789012".toList
    let q := "20260105123456789013".toList
    ∃ v w : Version, ofTag? true "v1.0.0-rc.20260105123456789012" = some v ∧
      ofTag? false "1.0.0-rc.20260105123456789013" = some w ∧ v.numbers = w.numbers ∧
      v.pre.take 1 = w.pre.take 1 ∧ IsDecimal p ∧ IsDecimal q ∧ wordMax < valueOfDigits p ∧
      valueOfDigits p < valueOfDigits q ∧ compare v w = .lt := by
  intro p q
  have hv : ofTag? true "v1.0.0-rc.20260105123456789012" =
      some ⟨1, 0, 0, [.word "rc", .word "20260105123456789012"]⟩ := by decide +kernel
  have hw : ofTag? false "1.0.0-rc.20260105123456789013" =
      some ⟨1, 0, 0, [.word "rc", .word "20260105123456789013"]⟩ := by decide +kernel
  have hp : IsDecimal p := by decide
  have hq : IsDecimal q := by decide
  have hlt : valueOfDigits p < valueOfDigits q := by decide
  obtain ⟨horder, -⟩ :=
    compare_numbers_iff hv hw rfl (n := 1) rfl (by decide +kernel) (by decide +kernel) hp hq hlt
  exact ⟨_, _, hv, hw, rfl, rfl, hp, hq, by decide, hlt, horder.2 (.inr (by decide))⟩

/-- A number of twenty-one digits comes before the number of twenty digits below it. -/
theorem exists_numbers_reversed :
    let p := "99999999999999999999".toList
    let q := "100000000000000000000".toList
    ∃ v w : Version, ofTag? true "1.0.0-99999999999999999999" = some v ∧
      ofTag? true "1.0.0-100000000000000000000" = some w ∧ v.numbers = w.numbers ∧
      v.pre.take 0 = w.pre.take 0 ∧
      (identifierTexts "1.0.0-99999999999999999999".toList)[0]? = some p ∧
      (identifierTexts "1.0.0-100000000000000000000".toList)[0]? = some q ∧
      IsDecimal p ∧ IsDecimal q ∧ valueOfDigits p < valueOfDigits q ∧ compare v w = .gt := by
  intro p q
  exact ⟨⟨1, 0, 0, [.word "99999999999999999999"]⟩, ⟨1, 0, 0, [.word "100000000000000000000"]⟩,
    by decide +kernel, by decide +kernel, rfl, rfl, by decide +kernel, by decide +kernel,
    by decide, by decide, by decide, by decide⟩

end Version

end ImageDiscovery
