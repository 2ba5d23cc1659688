import ImageDiscovery.Unicode.Letters

/-!
# Upper case within ASCII

A character that is found in a table lies in one of its ranges. So a property is settled for the
characters of ASCII by the ranges that begin there.

## Main results

* `Unicode.RangeTable.exists_of_contains` — what is found in a table lies in one of its ranges.
* `Unicode.isUppercase_of_ascii` — of the ASCII characters only the capital letters are upper case.
-/

namespace ImageDiscovery.Unicode

namespace RangeTable

variable {t : RangeTable} {n fuel lo hi : Nat} {c : Char}

theorem exists_of_containsBetween (h : t.containsBetween n fuel lo hi = true) :
    ∃ r ∈ t.toList, r.1 ≤ n ∧ n ≤ r.2 := by
  induction fuel generalizing lo hi with
  | zero => cases h
  | succ fuel ih =>
    rw [containsBetween] at h
    split at h
    · cases h
    dsimp only at h
    split at h
    · cases h
    · next first last hmid =>
      split at h
      · exact ih h
      split at h
      · exact ih h
      · exact ⟨(first, last), Array.mem_toList_iff.2 (Array.mem_of_getElem? hmid),
          Nat.not_lt.1 ‹_›, Nat.not_lt.1 ‹_›⟩

/-- What is found in a table lies in one of its ranges. -/
theorem exists_of_contains (h : t.contains c = true) :
    ∃ r ∈ t.toList, r.1 ≤ c.toNat ∧ c.toNat ≤ r.2 :=
  exists_of_containsBetween h

end RangeTable

/-- The range is the one of the capital letters of ASCII, or begins beyond ASCII. -/
def KeepsAscii (r : Nat × Nat) : Prop := r = (0x41, 0x5A) ∨ 0x80 ≤ r.1

instance : DecidablePred KeepsAscii := fun _ => inferInstanceAs (Decidable (_ ∨ _))

theorem keepsAscii_of_mem_upperLetter {r : Nat × Nat} (h : r ∈ upperLetter.toList) :
    KeepsAscii r := by
  have hfirst : ∀ r ∈ upperLetterFirst.toList, KeepsAscii r := by decide +kernel
  have hsecond : ∀ r ∈ upperLetterSecond.toList, KeepsAscii r := by decide +kernel
  have hthird : ∀ r ∈ upperLetterThird.toList, KeepsAscii r := by decide +kernel
  have hfourth : ∀ r ∈ upperLetterFourth.toList, KeepsAscii r := by decide +kernel
  have hfifth : ∀ r ∈ upperLetterFifth.toList, KeepsAscii r := by decide +kernel
  simp only [upperLetter, Array.toList_append, List.mem_append] at h
  rcases h with (((h | h) | h) | h) | h
  · exact hfirst r h
  · exact hsecond r h
  · exact hthird r h
  · exact hfourth r h
  · exact hfifth r h

/-- Of the characters of ASCII only the capital letters are upper case. -/
theorem isUppercase_of_ascii {c : Char} (h : isUppercase c = true) (hc : c.toNat < 0x80) :
    0x41 ≤ c.toNat ∧ c.toNat ≤ 0x5A := by
  obtain ⟨r, hr, hfirst, hlast⟩ : ∃ r, KeepsAscii r ∧ r.1 ≤ c.toNat ∧ c.toNat ≤ r.2 := by
    rcases Bool.or_eq_true_iff.1 h with h | h
    · obtain ⟨r, hr, hrange⟩ := RangeTable.exists_of_contains h
      exact ⟨r, keepsAscii_of_mem_upperLetter hr, hrange⟩
    · obtain ⟨r, hr, hrange⟩ := RangeTable.exists_of_contains h
      have hsymbol : ∀ r ∈ uppercaseSymbol.toList, KeepsAscii r := by decide +kernel
      exact ⟨r, hsymbol r hr, hrange⟩
  rcases hr with rfl | hr
  · exact ⟨hfirst, hlast⟩
  · omega

end ImageDiscovery.Unicode
