/-!
# Tables of characters

A set of characters is given by ranges of code points in ascending order, and a character is looked
up by halving.

## Main definitions

* `Unicode.RangeTable` — a set of characters.
* `Unicode.RangeTable.contains` — membership.
-/

namespace ImageDiscovery.Unicode

/-- Ranges of code points, both ends included, in ascending order. -/
abbrev RangeTable := Array (Nat × Nat)

namespace RangeTable

/-- Membership of a code point in the ranges from `lo` to before `hi`; `fuel` bounds the
halvings. -/
def containsBetween (t : RangeTable) (n : Nat) (fuel lo hi : Nat) : Bool :=
  match fuel with
  | 0 => false
  | fuel + 1 =>
    if hi ≤ lo then false
    else
      let mid := (lo + hi) / 2
      match t[mid]? with
      | none => false
      | some (first, last) =>
        if n < first then containsBetween t n fuel lo mid
        else if last < n then containsBetween t n fuel (mid + 1) hi
        else true

/-- The character lies in one of the ranges. -/
def contains (t : RangeTable) (c : Char) : Bool :=
  containsBetween t c.toNat (t.size + 1) 0 t.size

end RangeTable

end ImageDiscovery.Unicode
