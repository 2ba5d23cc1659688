/-!
# Decimal numbers of bounded size

Numbers are written in ASCII digits and are read only up to a given limit; a number above it is no
number for the reader. The numbers of versions, documents and options fit an unsigned machine word.

## Main definitions

* `Text.isDigit`, `Text.valueOfDigits` — the digits and the number that they write.
* `Text.natUpTo?` — the number of a non-empty run of digits, where it is within the limit.
* `Text.wordMax` — the largest unsigned number of 64 bits.
-/

namespace ImageDiscovery.Text

/-- The largest unsigned number of 64 bits. -/
def wordMax : Nat := 18446744073709551615

/-- The ASCII digits. -/
def isDigit (c : Char) : Bool := 0x30 ≤ c.toNat && c.toNat ≤ 0x39

/-- The ASCII letters. -/
def isLetter (c : Char) : Bool :=
  (0x41 ≤ c.toNat && c.toNat ≤ 0x5A) || (0x61 ≤ c.toNat && c.toNat ≤ 0x7A)

/-- The ASCII letters and digits. -/
def isLetterOrDigit (c : Char) : Bool := isLetter c || isDigit c

/-- The value of one digit. -/
def digitValue (c : Char) : Nat := c.toNat - 0x30

/-- The number that a run of digits writes, the most significant digit first. -/
def valueOfDigits (s : List Char) : Nat := s.foldl (fun n c => 10 * n + digitValue c) 0

/-- The number that a non-empty run of ASCII digits writes, where it is at most `limit`. -/
def natUpTo? (limit : Nat) (s : List Char) : Option Nat :=
  if s.isEmpty || !s.all isDigit then none
  else if valueOfDigits s ≤ limit then some (valueOfDigits s) else none

theorem natUpTo?_eq_some_iff {limit n : Nat} {s : List Char} :
    natUpTo? limit s = some n ↔
      s ≠ [] ∧ (∀ c ∈ s, isDigit c = true) ∧ valueOfDigits s = n ∧ n ≤ limit := by
  unfold natUpTo?
  rcases Bool.eq_false_or_eq_true (s.isEmpty || !s.all isDigit) with h | h
  · rw [if_pos h]
    simp only [reduceCtorEq, false_iff]
    rintro ⟨h₁, h₂, _⟩
    simp [h₁, List.all_eq_true.2 h₂] at h
  · rw [if_neg (by simp [h])]
    simp only [Bool.or_eq_false_iff, Bool.not_eq_eq_eq_not, Bool.not_false, List.all_eq_true,
      List.isEmpty_eq_false_iff] at h
    split <;> grind

/-- The ASCII lower-case form of a letter; other characters stand for themselves. -/
def lowerChar (c : Char) : Char :=
  if 0x41 ≤ c.toNat && c.toNat ≤ 0x5A then Char.ofNat (c.toNat + 32) else c

/-- The text with its ASCII letters in lower case. -/
def lower (s : List Char) : List Char := s.map lowerChar

/-- Equality up to the case of ASCII letters. -/
def eqIgnoringCase (a b : List Char) : Bool := lower a == lower b

end ImageDiscovery.Text
