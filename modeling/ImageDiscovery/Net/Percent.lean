import ImageDiscovery.Text.Decimal

/-!
# Percent encoding

Bytes that may not stand in a part of a URL are written as `%` and two hexadecimal digits. Which
characters may stand depends on the part; those outside ASCII are always written byte by byte of
their UTF-8 form. Query pairs of a form have a set of their own, and write a space as `+`.

## Main definitions

* `Net.EncodeSet` and its members — the characters that a part of a URL encodes.
* `Net.percentEncode`, `Net.percentDecode` — a text with the characters of a set encoded, and the
  bytes of an encoded text.
* `Net.formEncode` — a text as it stands in a pair of a form.
-/

namespace ImageDiscovery.Net

open Text

/-- The ASCII characters that a part of a URL encodes. -/
abbrev EncodeSet := Char → Bool

/-- Control characters, and everything beyond ASCII. -/
def controlSet : EncodeSet := fun c => c.toNat ≤ 0x1F || 0x7E < c.toNat

/-- What a fragment encodes. -/
def fragmentSet : EncodeSet := fun c => controlSet c || [' ', '"', '<', '>', '\x60'].contains c

/-- What a query encodes. -/
def querySet : EncodeSet := fun c => controlSet c || [' ', '"', '#', '<', '>'].contains c

/-- What a query encodes in a URL of a special scheme. -/
def specialQuerySet : EncodeSet := fun c => querySet c || c == '\x27'

/-- What a path encodes. -/
def pathSet : EncodeSet := fun c => fragmentSet c || ['#', '?', '\x7b', '\x7d'].contains c

/-- What a user name or a password encodes. -/
def userSet : EncodeSet := fun c =>
  pathSet c || ['/', ':', ';', '=', '@', '[', '\\', ']', '^', '|'].contains c

/-- The digits `0` to `F`. -/
def upperHexDigit (n : Nat) : Char :=
  if n < 10 then Char.ofNat (0x30 + n) else Char.ofNat (0x37 + n)

/-- A byte as `%` and two digits. -/
def encodeByte (b : UInt8) : List Char :=
  ['%', upperHexDigit (b.toNat / 16), upperHexDigit (b.toNat % 16)]

/-- A character as it stands in a part of a URL. -/
def encodeChar (set : EncodeSet) (c : Char) : List Char :=
  if set c then (String.utf8EncodeChar c).flatMap encodeByte else [c]

/-- The text with the characters of the set encoded. -/
def percentEncode (set : EncodeSet) (s : List Char) : List Char := s.flatMap (encodeChar set)

/-- The value of a hexadecimal digit. -/
def hexValue? (c : Char) : Option Nat :=
  if isDigit c then some (c.toNat - 0x30)
  else if 0x61 ≤ c.toNat && c.toNat ≤ 0x66 then some (c.toNat - 0x61 + 10)
  else if 0x41 ≤ c.toNat && c.toNat ≤ 0x46 then some (c.toNat - 0x41 + 10)
  else none

/-- The bytes of a text in which bytes may be encoded. A `%` without two digits is itself. -/
def percentDecode : List Char → List UInt8
  | [] => []
  | '%' :: a :: b :: s =>
    match hexValue? a, hexValue? b with
    | some x, some y => UInt8.ofNat (16 * x + y) :: percentDecode s
    | _, _ => '%'.toNat.toUInt8 :: percentDecode (a :: b :: s)
  | c :: s => String.utf8EncodeChar c ++ percentDecode s

/-- A character as it stands in a pair of a form. -/
def formEncodeChar (c : Char) : List Char :=
  if c == ' ' then ['+']
  else if isLetterOrDigit c || ['*', '-', '.', '_'].contains c then [c]
  else (String.utf8EncodeChar c).flatMap encodeByte

/-- A text as it stands in a pair of a form. -/
def formEncode (s : List Char) : List Char := s.flatMap formEncodeChar

end ImageDiscovery.Net
