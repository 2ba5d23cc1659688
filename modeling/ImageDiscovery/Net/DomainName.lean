import ImageDiscovery.Text.Split
import ImageDiscovery.Text.Decimal
import ImageDiscovery.Unicode.CaseFold

/-!
# Domain names

A domain name is written in ASCII: letters in lower case, and a label with other characters as
`xn--` with its Punycode form. Before that the name is folded: letters to lower case, full-width
forms to ASCII, and the ideographic stops to a dot.

Punycode writes the basic characters of a label first, and then for each other character, in
ascending order, how far the decoder has to advance to insert it, as a number of variable base.

## Main definitions

* `Net.Punycode.encode` — the Punycode form of a label.
* `Net.domainToAscii` — the ASCII form of a domain name.
-/

namespace ImageDiscovery.Net

open Text

namespace Punycode

/-- The number of digits, `a` to `z` and `0` to `9`. -/
def base : Nat := 36

/-- The digit of a value. -/
def digit (n : Nat) : Char := if n < 26 then Char.ofNat (0x61 + n) else Char.ofNat (0x30 + n - 26)

/-- The threshold of a digit at a position under a bias. -/
def threshold (k bias : Nat) : Nat :=
  if k ≤ bias + 1 then 1 else if bias + 26 ≤ k then 26 else k - bias

/-- The digits of a distance, from the position `k` on; `fuel` bounds their number. -/
def distanceDigits (fuel q k bias : Nat) : List Char :=
  match fuel with
  | 0 => []
  | fuel + 1 =>
    let t := threshold k bias
    if q < t then [digit q]
    else
      digit (t + (q - t) % (base - t)) ::
        distanceDigits fuel ((q - t) / (base - t)) (k + base) bias

/-- The part of the bias that comes from repeated division. -/
def adaptLoop (fuel delta k : Nat) : Nat :=
  match fuel with
  | 0 => k + 36 * delta / (delta + 38)
  | fuel + 1 =>
    if 455 < delta then adaptLoop fuel (delta / 35) (k + 36)
    else k + 36 * delta / (delta + 38)

/-- The bias after a distance. -/
def adapt (delta points : Nat) (first : Bool) : Nat :=
  let delta := if first then delta / 700 else delta / 2
  adaptLoop delta (delta + delta / points) 0

/-- The state of the encoder. -/
structure State where
  delta : Nat
  bias : Nat
  written : Nat
  output : List Char

/-- The encoder at the characters of the label for the next code point `n`. -/
def encodePass (basic n : Nat) : List Nat → State → State
  | [], st => st
  | c :: cs, st =>
    if c < n then encodePass basic n cs { st with delta := st.delta + 1 }
    else if c = n then
      encodePass basic n cs
        { delta := 0
          bias := adapt st.delta (st.written + 1) (st.written == basic)
          written := st.written + 1
          output := st.output ++ distanceDigits (st.delta + 1) st.delta base st.bias }
    else encodePass basic n cs st

/-- The encoder from the code point `n` on, over the code points of the label in ascending order. -/
def encodeFrom (label : List Nat) (basic : Nat) : List Nat → Nat → State → State
  | [], _, st => st
  | m :: ms, n, st =>
    let st := encodePass basic m label { st with delta := st.delta + (m - n) * (st.written + 1) }
    encodeFrom label basic ms (m + 1) { st with delta := st.delta + 1 }

/-- The Punycode form of a label. -/
def encode (label : List Char) : List Char :=
  let points := label.map Char.toNat
  let basic := label.filter (·.toNat < 128)
  let others := ((points.filter (128 ≤ ·)).mergeSort).eraseDups
  let start := if basic.isEmpty then [] else basic ++ ['-']
  (encodeFrom points basic.length others 128 ⟨0, 72, basic.length, start⟩).output

end Punycode

/-- The character that a domain name has in place of the given one, if any. -/
def foldDomainChar (c : Char) : List Char :=
  let n := c.toNat
  if n = 0xAD || n = 0x200B || n = 0x2060 || n = 0xFEFF then []
  else if n = 0x3002 || n = 0xFF0E || n = 0xFF61 then ['.']
  else if 0xFF01 ≤ n && n ≤ 0xFF5E then [lowerChar (Char.ofNat (n - 0xFEE0))]
  else if n < 128 then [lowerChar c]
  else [Unicode.foldChar c]

/-- The ASCII form of a label. -/
def labelToAscii (label : List Char) : List Char :=
  if label.all (·.toNat < 128) then label else "xn--".toList ++ Punycode.encode label

/-- The ASCII form of a domain name. -/
def domainToAscii (name : List Char) : List Char :=
  join '.' ((split '.' (name.flatMap foldDomainChar)).map labelToAscii)

end ImageDiscovery.Net
