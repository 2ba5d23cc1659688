import ImageDiscovery.Text.Split
import ImageDiscovery.Text.Decimal

/-!
# Decimal literals

A number with a fraction or an exponent is kept by its literal. As a whole it is readable if it is
not beyond the largest floating-point number of 64 bits.

## Main definitions

* `Document.Decimal.isFinite` — the number is not beyond the largest one.
-/

namespace ImageDiscovery.Document.Decimal

open Text

/-- The digits of a literal without its point, and the power of ten that the last of them counts. -/
def parts (s : List Char) : List Char × Int :=
  let unsigned := s.filter (· != '-')
  let (mantissa, exponent) := match cut 'e' s with
    | some (m, e) => (m.filter (· != '-'), e)
    | none => (unsigned, [])
  let power : Int := match exponent with
    | '-' :: ds => -(valueOfDigits ds : Int)
    | '+' :: ds => valueOfDigits ds
    | ds => valueOfDigits ds
  match cut '.' mantissa with
  | some (whole, fraction) => (whole ++ fraction, power - fraction.length)
  | none => (mantissa, power)

/-- The first number that rounds to none of 64 bits any more. -/
def bound : Nat := (1 <<< 1024) - (1 <<< 970)

/-- The number of the literal is not beyond the largest one of 64 bits. The number of its digits
before the point decides, unless there are as many as the largest one has. -/
def isFinite (literal : String) : Bool :=
  let (digits, power) := parts literal.toList
  let significant := digits.dropWhile (· == '0')
  if significant.isEmpty then true
  else
    let magnitude : Int := significant.length + power
    if magnitude < 309 then true
    else if 309 < magnitude then false
    else
      let whole := (significant ++ List.replicate power.toNat '0').take 309
      valueOfDigits whole < bound

end ImageDiscovery.Document.Decimal
