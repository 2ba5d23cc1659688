import Mathlib.Algebra.Group.Nat.Defs
import Mathlib.Data.List.Lex
import ImageDiscovery.Text.Decimal

/-!
# The order of numbers and of their digits

Of two runs of digits with the same length, the one that writes the smaller number comes first as a
text. Where no zeros lead, the smaller number has no more digits than the larger one; as a text it
comes first unless it is larger than the number that as many of the first digits of the other write.

## Main definitions

* `Text.IsDecimal` — a number without leading zeros.

## Main results

* `Text.lt_iff_valueOfDigits_lt` — the order of runs of digits with the same length.
* `Text.IsDecimal.lt_iff` — when the smaller one of two numbers comes first as a text.
-/

namespace ImageDiscovery.Text

variable {s t u r : List Char} {c : Char}

/-! ### The value of digits -/

theorem valueOfDigits_cons (c : Char) (s : List Char) :
    valueOfDigits (c :: s) = digitValue c * 10 ^ s.length + valueOfDigits s := by
  have heq (s : List Char) (n : Nat) : s.foldl (fun n c => 10 * n + digitValue c) n =
      Nat.ofDigitChars 10 s n := Nat.ofDigitChars_eq_foldl.symm
  rw [valueOfDigits, valueOfDigits, heq, heq, Nat.ofDigitChars_cons,
    Nat.ofDigitChars_eq_ofDigitChars_zero, Nat.mul_zero, Nat.zero_add, Nat.mul_comm]
  rfl

theorem digitValue_le (h : isDigit c = true) : digitValue c ≤ 9 := by
  simp only [isDigit, Bool.and_eq_true, decide_eq_true_eq] at h
  rw [digitValue]
  omega

theorem digitValue_lt_iff {d : Char} (hc : isDigit c = true) (hd : isDigit d = true) :
    digitValue c < digitValue d ↔ c < d := by
  simp only [isDigit, Bool.and_eq_true, decide_eq_true_eq] at hc hd
  rw [digitValue, digitValue, Char.lt_def, UInt32.lt_iff_toNat_lt]
  change _ ↔ c.toNat < d.toNat
  omega

theorem digitValue_eq_iff {d : Char} (hc : isDigit c = true) (hd : isDigit d = true) :
    digitValue c = digitValue d ↔ c = d := by
  simp only [isDigit, Bool.and_eq_true, decide_eq_true_eq] at hc hd
  rw [digitValue, digitValue, ← Char.toNat_inj]
  omega

/-- A run of digits writes a number that needs no more digits. -/
theorem valueOfDigits_lt (h : ∀ c ∈ s, isDigit c = true) : valueOfDigits s < 10 ^ s.length := by
  induction s with
  | nil => decide
  | cons c s ih =>
    obtain ⟨hc, hs⟩ := List.forall_mem_cons.1 h
    have hmul := Nat.mul_le_mul_right (10 ^ s.length) (digitValue_le hc)
    have hlt := ih hs
    rw [valueOfDigits_cons, List.length_cons, Nat.pow_succ]
    omega

/-- The leading part of a number decides, and then the rest below its unit. -/
theorem mul_add_lt_mul_add_iff {x y m n k : Nat} (hm : m < k) (hn : n < k) :
    x * k + m < y * k + n ↔ x < y ∨ x = y ∧ m < n := by
  have hlead {x y m : Nat} (n : Nat) (hm : m < k) (h : x < y) : x * k + m < y * k + n := by
    have hmul := Nat.mul_le_mul_right k (Nat.succ_le_of_lt h)
    rw [Nat.succ_mul] at hmul
    omega
  rcases Nat.lt_trichotomy x y with hlt | rfl | hgt
  · exact iff_of_true (hlead n hm hlt) (.inl hlt)
  · simp
  · refine iff_of_false (Nat.lt_asymm (hlead m hn hgt)) ?_
    rintro (hlt | ⟨rfl, -⟩)
    · exact Nat.lt_asymm hlt hgt
    · exact Nat.lt_irrefl _ hgt

/-- Runs of digits with the same length are ordered by their numbers. -/
theorem lt_iff_valueOfDigits_lt (hs : ∀ c ∈ s, isDigit c = true) (ht : ∀ c ∈ t, isDigit c = true)
    (hlen : s.length = t.length) : s < t ↔ valueOfDigits s < valueOfDigits t := by
  induction s generalizing t with
  | nil =>
    obtain rfl := List.eq_nil_of_length_eq_zero hlen.symm
    exact iff_of_false (List.lt_irrefl []) (Nat.lt_irrefl _)
  | cons c s ih =>
    cases t with
    | nil => cases hlen
    | cons d t =>
      obtain ⟨hc, hs⟩ := List.forall_mem_cons.1 hs
      obtain ⟨hd, ht⟩ := List.forall_mem_cons.1 ht
      have hlen := Nat.succ.inj hlen
      rw [List.cons_lt_cons_iff, ih hs ht hlen, valueOfDigits_cons, valueOfDigits_cons, hlen,
        mul_add_lt_mul_add_iff (hlen ▸ valueOfDigits_lt hs) (valueOfDigits_lt ht),
        digitValue_lt_iff hc hd, digitValue_eq_iff hc hd]

/-- Different runs of digits with the same length write different numbers. -/
theorem eq_of_valueOfDigits_eq (hs : ∀ c ∈ s, isDigit c = true) (ht : ∀ c ∈ t, isDigit c = true)
    (hlen : s.length = t.length) (h : valueOfDigits s = valueOfDigits t) : s = t := by
  have hst : ¬ s < t := fun hlt => Nat.ne_of_lt ((lt_iff_valueOfDigits_lt hs ht hlen).1 hlt) h
  have hts : ¬ t < s := fun hlt =>
    Nat.ne_of_lt ((lt_iff_valueOfDigits_lt ht hs hlen.symm).1 hlt) h.symm
  exact List.le_antisymm (List.not_lt.1 hts) (List.not_lt.1 hst)

/-! ### Numbers without leading zeros -/

/-- A number is written in digits, and begins with a zero only if it is zero. -/
structure IsDecimal (s : List Char) : Prop where
  ne_nil : s ≠ []
  isDigit : ∀ c ∈ s, isDigit c = true
  eq_of_head? : s.head? = some '0' → s = ['0']

namespace IsDecimal

instance : DecidablePred IsDecimal := fun s =>
  decidable_of_iff (s ≠ [] ∧ s.all Text.isDigit = true ∧ (s.head? = some '0' → s = ['0']))
    ⟨fun ⟨hne, hall, hhead⟩ => ⟨hne, List.all_eq_true.1 hall, hhead⟩,
      fun ⟨hne, hdigit, hhead⟩ => ⟨hne, List.all_eq_true.2 hdigit, hhead⟩⟩

/-- A number of several digits is as large as its length says. -/
theorem pow_le (hs : IsDecimal s) (hlen : 1 < s.length) :
    10 ^ (s.length - 1) ≤ valueOfDigits s := by
  obtain ⟨c, r, rfl⟩ := List.exists_cons_of_ne_nil hs.ne_nil
  have hpos : 0 < digitValue c := by
    refine Nat.pos_of_ne_zero fun hzero => ?_
    have hc := hs.isDigit c List.mem_cons_self
    simp only [Text.isDigit, Bool.and_eq_true, decide_eq_true_eq] at hc
    have hcode : c.toNat = '0'.toNat := Nat.le_antisymm (Nat.le_of_sub_eq_zero hzero) hc.1
    obtain rfl : c = '0' := Char.toNat_inj.1 hcode
    rw [hs.eq_of_head? rfl] at hlen
    exact absurd hlen (by decide)
  rw [valueOfDigits_cons, List.length_cons, Nat.add_sub_cancel]
  exact Nat.le_add_right_of_le (Nat.le_mul_of_pos_left _ hpos)

/-- The smaller number has no more digits. -/
theorem length_le (hs : IsDecimal s) (ht : IsDecimal t) (h : valueOfDigits s < valueOfDigits t) :
    s.length ≤ t.length := by
  by_contra hlt
  have hpos := List.length_pos_iff.2 ht.ne_nil
  have hpow : 10 ^ t.length ≤ 10 ^ (s.length - 1) := Nat.pow_le_pow_right (by decide) (by omega)
  have hmin := hs.pow_le (by omega)
  have hmax := valueOfDigits_lt ht.isDigit
  omega

end IsDecimal

theorem lt_append_iff (hlen : s.length = u.length) : s < u ++ r ↔ s < u ∨ s = u ∧ r ≠ [] := by
  induction s generalizing u with
  | nil =>
    obtain rfl := List.eq_nil_of_length_eq_zero hlen.symm
    cases r with
    | nil => simp
    | cons c r => simp
  | cons c s ih =>
    cases u with
    | nil => cases hlen
    | cons d u =>
      rw [List.cons_append, List.cons_lt_cons_iff, List.cons_lt_cons_iff, ih (Nat.succ.inj hlen),
        List.cons.injEq]
      tauto

/-- Of two numbers the smaller one comes first as a text, unless it is larger than what as many of
the first digits of the other one write. -/
theorem IsDecimal.lt_iff (hs : IsDecimal s) (ht : IsDecimal t)
    (h : valueOfDigits s < valueOfDigits t) :
    s < t ↔ valueOfDigits s ≤ valueOfDigits (t.take s.length) := by
  have hlen : s.length = (t.take s.length).length :=
    (List.length_take_of_le (hs.length_le ht h)).symm
  have htake : ∀ c ∈ t.take s.length, Text.isDigit c = true :=
    fun c hc => ht.isDigit c (List.mem_of_mem_take hc)
  have happend := lt_append_iff (r := t.drop s.length) hlen
  rw [List.take_append_drop, lt_iff_valueOfDigits_lt hs.isDigit htake hlen] at happend
  rw [happend, Nat.le_iff_lt_or_eq]
  refine or_congr_right ⟨fun heq => congrArg valueOfDigits heq.1, fun heq => ?_⟩
  have hbegin := eq_of_valueOfDigits_eq hs.isDigit htake hlen heq
  refine ⟨hbegin, fun hnil => ?_⟩
  have hall := List.take_append_drop s.length t
  rw [hnil, List.append_nil, ← hbegin] at hall
  exact absurd h (hall ▸ Nat.lt_irrefl _)

end ImageDiscovery.Text
