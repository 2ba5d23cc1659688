/-!
# SHA-256

The digest of a byte list with the algorithm SHA-256: the bytes are padded to blocks of sixteen
words of 32 bits, and each block changes a state of eight words in sixty-four rounds.

## Main definitions

* `Digest.sha256` — the digest as a list of eight words.
* `Digest.sha256Text` — the digest in hexadecimal digits.
-/

namespace ImageDiscovery.Digest

/-- The constants of the rounds. -/
def roundConstants : List UInt32 := [
  0x428a2f98, 0x71374491, 0xb5c0fbcf, 0xe9b5dba5, 0x3956c25b, 0x59f111f1, 0x923f82a4, 0xab1c5ed5,
  0xd807aa98, 0x12835b01, 0x243185be, 0x550c7dc3, 0x72be5d74, 0x80deb1fe, 0x9bdc06a7, 0xc19bf174,
  0xe49b69c1, 0xefbe4786, 0x0fc19dc6, 0x240ca1cc, 0x2de92c6f, 0x4a7484aa, 0x5cb0a9dc, 0x76f988da,
  0x983e5152, 0xa831c66d, 0xb00327c8, 0xbf597fc7, 0xc6e00bf3, 0xd5a79147, 0x06ca6351, 0x14292967,
  0x27b70a85, 0x2e1b2138, 0x4d2c6dfc, 0x53380d13, 0x650a7354, 0x766a0abb, 0x81c2c92e, 0x92722c85,
  0xa2bfe8a1, 0xa81a664b, 0xc24b8b70, 0xc76c51a3, 0xd192e819, 0xd6990624, 0xf40e3585, 0x106aa070,
  0x19a4c116, 0x1e376c08, 0x2748774c, 0x34b0bcb5, 0x391c0cb3, 0x4ed8aa4a, 0x5b9cca4f, 0x682e6ff3,
  0x748f82ee, 0x78a5636f, 0x84c87814, 0x8cc70208, 0x90befffa, 0xa4506ceb, 0xbef9a3f7, 0xc67178f2]

/-- The words of the state, by the names that the algorithm gives them. -/
structure State where
  a : UInt32
  b : UInt32
  c : UInt32
  d : UInt32
  e : UInt32
  f : UInt32
  g : UInt32
  h : UInt32

/-- The state before the first block. -/
def State.initial : State :=
  ⟨0x6a09e667, 0xbb67ae85, 0x3c6ef372, 0xa54ff53a, 0x510e527f, 0x9b05688c, 0x1f83d9ab, 0x5be0cd19⟩

/-- The words of a state in order. -/
def State.words (s : State) : List UInt32 := [s.a, s.b, s.c, s.d, s.e, s.f, s.g, s.h]

/-- A word rotated to the right. -/
def rotate (x n : UInt32) : UInt32 := (x >>> n) ||| (x <<< (32 - n))

/-- The bytes with a one bit, zeros, and the number of bits as eight bytes after them, so that they
fill blocks of sixty-four bytes. -/
def pad (bytes : List UInt8) : List UInt8 :=
  let n := bytes.length
  let zeros : List UInt8 := List.replicate ((119 - n % 64) % 64) 0
  let length : List UInt8 := (List.range 8).map fun i => UInt8.ofNat ((8 * n) >>> (8 * (7 - i)))
  bytes ++ [0x80] ++ zeros ++ length

/-- The words of four bytes each. -/
def wordsOfBytes : List UInt8 → List UInt32
  | a :: b :: c :: d :: rest =>
    (a.toUInt32 <<< 24 ||| b.toUInt32 <<< 16 ||| c.toUInt32 <<< 8 ||| d.toUInt32) ::
      wordsOfBytes rest
  | _ => []

/-- The word that follows the last sixteen words, the latest first. -/
def nextWord (latest : List UInt32) : UInt32 :=
  let w (i : Nat) : UInt32 := latest.getD i 0
  let x := w 14
  let y := w 1
  w 15 + (rotate x 7 ^^^ rotate x 18 ^^^ (x >>> 3)) + w 6 +
    (rotate y 17 ^^^ rotate y 19 ^^^ (y >>> 10))

/-- The words of the rounds of a block, the latest first, where `n` of them are still to come. -/
def schedule (n : Nat) (latest : List UInt32) : List UInt32 :=
  match n with
  | 0 => latest
  | n + 1 => schedule n (nextWord latest :: latest)

/-- One round, with its constant and its word. -/
def round (s : State) (k w : UInt32) : State :=
  let t₁ := s.h + (rotate s.e 6 ^^^ rotate s.e 11 ^^^ rotate s.e 25) +
    ((s.e &&& s.f) ^^^ (~~~s.e &&& s.g)) + k + w
  let t₂ := (rotate s.a 2 ^^^ rotate s.a 13 ^^^ rotate s.a 22) +
    ((s.a &&& s.b) ^^^ (s.a &&& s.c) ^^^ (s.b &&& s.c))
  ⟨t₁ + t₂, s.a, s.b, s.c, s.d + t₁, s.e, s.f, s.g⟩

/-- The state after a block of sixteen words. -/
def block (s : State) (ws : List UInt32) : State :=
  let all := (schedule 48 ws.reverse).reverse
  let t := (roundConstants.zip all).foldl (fun s p => round s p.1 p.2) s
  ⟨s.a + t.a, s.b + t.b, s.c + t.c, s.d + t.d, s.e + t.e, s.f + t.f, s.g + t.g, s.h + t.h⟩

/-- The state after blocks of sixteen words; `fuel` bounds their number. -/
def blocks (fuel : Nat) (s : State) (ws : List UInt32) : State :=
  match fuel with
  | 0 => s
  | fuel + 1 => if ws.isEmpty then s else blocks fuel (block s (ws.take 16)) (ws.drop 16)

/-- The digest of a byte list. -/
def sha256 (bytes : List UInt8) : List UInt32 :=
  let ws := wordsOfBytes (pad bytes)
  (blocks (ws.length + 1) .initial ws).words

/-- A word in eight hexadecimal digits. -/
def wordText (w : UInt32) : List Char :=
  let ds := Nat.toDigits 16 w.toNat
  List.replicate (8 - ds.length) '0' ++ ds

/-- The digest of a byte list in hexadecimal digits, after the name of the algorithm. -/
def sha256Text (bytes : List UInt8) : String :=
  "sha256:" ++ String.ofList ((sha256 bytes).flatMap wordText)

end ImageDiscovery.Digest
