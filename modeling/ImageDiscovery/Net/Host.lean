import ImageDiscovery.Net.DomainName
import ImageDiscovery.Net.Percent
import ImageDiscovery.Text.Utf8

/-!
# Hosts of URLs

The host of a URL is a domain name, an address of 32 or 128 bits, or, where the scheme is not a
special one, any text. A domain name whose last label is a number has to be an address.

## Main definitions

* `Net.Host` — a host.
* `Net.Host.text` — a host as it stands in a URL.
* `Net.Host.ofChars?` — the host that a text writes.
-/

namespace ImageDiscovery.Net

open Text

/-- The host of a URL. -/
inductive Host where
  /-- A domain name in its ASCII form. -/
  | domain (name : String)
  /-- An address of 32 bits. -/
  | ipv4 (address : Nat)
  /-- An address of eight pieces of 16 bits. -/
  | ipv6 (pieces : List Nat)
  /-- A name that only the scheme understands. -/
  | named (text : String)
  deriving DecidableEq, Repr

namespace Host

/-! ### Writing -/

/-- The decimal digits of a number. -/
def decimal (n : Nat) : List Char := Nat.toDigits 10 n

/-- An address of 32 bits as four numbers. -/
def ipv4Text (a : Nat) : List Char :=
  join '.' [decimal (a / 256 / 256 / 256), decimal (a / 256 / 256 % 256), decimal (a / 256 % 256),
    decimal (a % 256)]

/-- The number of zero pieces at the beginning. -/
def zerosAhead : List Nat → Nat
  | 0 :: ps => zerosAhead ps + 1
  | _ => 0

/-- The position and length of the first longest run of at least two zero pieces, among the runs
that begin at position `i` or later; `best` is the one found before. -/
def longestZeros (i : Nat) (best : Nat × Nat) : List Nat → Nat × Nat
  | [] => best
  | p :: ps =>
    let n := zerosAhead (p :: ps)
    longestZeros (i + 1) (if best.2 < n && 1 < n then (i, n) else best) ps

/-- A piece in hexadecimal digits. -/
def piece (n : Nat) : List Char := Nat.toDigits 16 n

/-- An address of 128 bits, its longest run of zero pieces left out. -/
def ipv6Text (ps : List Nat) : List Char :=
  match longestZeros 0 (0, 0) ps with
  | (_, 0) => join ':' (ps.map piece)
  | (i, n) =>
    join ':' ((ps.take i).map piece) ++ [':', ':'] ++ join ':' ((ps.drop (i + n)).map piece)

/-- A host as it stands in a URL. -/
def text : Host → String
  | domain name => name
  | ipv4 a => String.ofList (ipv4Text a)
  | ipv6 ps => String.ofList ('[' :: ipv6Text ps ++ [']'])
  | named t => t

/-! ### Addresses of 32 bits -/

/-- A number of an address, in base ten, or in base sixteen or eight after `0x` or `0`. -/
def ipv4Number? (s : List Char) : Option Nat :=
  let number (base : Nat) (ds : List Char) : Option Nat :=
    ds.foldl (fun n? c => do
      let n ← n?
      let d ← hexValue? c
      if d < base then some (base * n + d) else none) (some 0)
  match s with
  | [] => none
  | '0' :: 'x' :: ds => number 16 ds
  | '0' :: 'X' :: ds => number 16 ds
  | '0' :: c :: ds => number 8 (c :: ds)
  | ds => number 10 ds

/-- The labels of a domain name, without the empty one after a dot at the end. -/
def labels (s : List Char) : List (List Char) :=
  match (split '.' s).reverse with
  | [] :: p :: ps => (p :: ps).reverse
  | ps => ps.reverse

/-- The last label is a number. -/
def endsInNumber (s : List Char) : Bool :=
  match (labels s).getLast? with
  | none => false
  | some [] => false
  | some l => l.all isDigit ||
    (match l with
      | '0' :: 'x' :: ds => ds.all fun c => (hexValue? c).isSome
      | '0' :: 'X' :: ds => ds.all fun c => (hexValue? c).isSome
      | _ => false)

/-- The address whose last number fills the bytes that the numbers before it leave. -/
def ipv4OfNumbers? (ns : List Nat) : Option Nat :=
  match ns with
  | [a] => if a < 256 * 256 * 256 * 256 then some a else none
  | [a, b] =>
    if a < 256 ∧ b < 256 * 256 * 256 then some (a * (256 * 256 * 256) + b) else none
  | [a, b, c] =>
    if a < 256 ∧ b < 256 ∧ c < 256 * 256 then some ((a * 256 + b) * (256 * 256) + c) else none
  | [a, b, c, d] =>
    if a < 256 ∧ b < 256 ∧ c < 256 ∧ d < 256 then
      some (((a * 256 + b) * 256 + c) * 256 + d)
    else none
  | _ => none

/-- The address that a text writes. -/
def ipv4OfChars? (s : List Char) : Option Nat := do ipv4OfNumbers? (← (labels s).mapM ipv4Number?)

/-! ### Addresses of 128 bits -/

/-- A piece of one to four hexadecimal digits. -/
def piece? (s : List Char) : Option Nat :=
  if s.isEmpty || 4 < s.length then none
  else s.foldl (fun n? c => do return 16 * (← n?) + (← hexValue? c)) (some 0)

/-- Pieces between colons; the last two may be written as an address of 32 bits in four decimal
numbers without superfluous zeros. -/
def pieces? : List (List Char) → Option (List Nat)
  | [] => some []
  | [p] =>
    if p.contains '.' then do
      let ns ← (split '.' p).mapM fun d =>
        if 1 < d.length && d.head? == some '0' then none else natUpTo? 255 d
      match ns with
      | [a, b, c, d] => some [a * 256 + b, c * 256 + d]
      | _ => none
    else (piece? p).map ([·])
  | p :: q :: ps => do return (← piece? p) :: (← pieces? (q :: ps))

/-- Pieces between colons; an empty text has none. -/
def piecesOfChars? (s : List Char) : Option (List Nat) :=
  if s.isEmpty then some [] else pieces? (split ':' s)

/-- The parts before and after the first `::`. -/
def cutDouble : List Char → Option (List Char × List Char)
  | [] => none
  | ':' :: ':' :: s => some ([], s)
  | c :: s => (cutDouble s).map fun p => (c :: p.1, p.2)

/-- The address that a text writes. -/
def ipv6OfChars? (s : List Char) : Option (List Nat) :=
  match cutDouble s with
  | none => do
    let ps ← piecesOfChars? s
    if ps.length = 8 then some ps else none
  | some (a, b) => do
    if a.contains '.' then none
    let ps ← piecesOfChars? a
    let qs ← piecesOfChars? b
    if ps.length + qs.length ≤ 7 then
      some (ps ++ List.replicate (8 - ps.length - qs.length) 0 ++ qs)
    else none

/-! ### Reading -/

/-- A character that no host has. -/
def isForbidden (c : Char) : Bool :=
  c.toNat == 0 || ['\t', '\n', '\r', ' ', '#', '/', ':', '<', '>', '?', '@', '[', '\\', ']', '^',
    '|'].contains c

/-- A character that no domain name has. -/
def isForbiddenInDomain (c : Char) : Bool :=
  isForbidden c || c.toNat ≤ 0x1F || c == '%' || c.toNat == 0x7F

/-- The host that a text writes in a URL whose scheme is special. -/
def domainOfChars? (s : List Char) : Option Host :=
  let name := domainToAscii (Utf8.decodeLenient (percentDecode s))
  if name.isEmpty || name.any isForbiddenInDomain then none
  else if endsInNumber name then (ipv4OfChars? name).map ipv4
  else some (domain (String.ofList name))

/-- The host that a text writes. -/
def ofChars? (special : Bool) (s : List Char) : Option Host :=
  match s with
  | '[' :: t =>
    match t.reverse with
    | ']' :: r => (ipv6OfChars? r.reverse).map ipv6
    | _ => none
  | s =>
    if special then domainOfChars? s
    else if s.any isForbidden then none
    else some (named (String.ofList (percentEncode controlSet s)))

end Host

end ImageDiscovery.Net
