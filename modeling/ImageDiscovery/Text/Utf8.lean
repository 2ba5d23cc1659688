/-!
# Text from bytes

Bytes are read as UTF-8. The lenient reading puts the replacement character `U+FFFD` in place of
each longest beginning of a character that is not completed; the strict reading refuses it.

## Main definitions

* `Text.Utf8.Step` — the beginning of a byte list as a character, or as bytes that are none.
* `Text.Utf8.decodeLenient`, `Text.Utf8.decode?` — the text of a byte list.
-/

namespace ImageDiscovery.Text.Utf8

/-- A byte that continues a character. -/
def isTail (b : Nat) : Bool := 0x80 ≤ b && b ≤ 0xBF

/-- The second byte may follow the first byte of a character. -/
def isSecond (a b : Nat) : Bool :=
  if a == 0xE0 then 0xA0 ≤ b && b ≤ 0xBF
  else if a == 0xED then 0x80 ≤ b && b ≤ 0x9F
  else if a == 0xF0 then 0x90 ≤ b && b ≤ 0xBF
  else if a == 0xF4 then 0x80 ≤ b && b ≤ 0x8F
  else isTail b

/-- The number of bytes of a character with the given first byte. -/
def width? (a : Nat) : Option Nat :=
  if a ≤ 0x7F then some 1
  else if 0xC2 ≤ a && a ≤ 0xDF then some 2
  else if 0xE0 ≤ a && a ≤ 0xEF then some 3
  else if 0xF0 ≤ a && a ≤ 0xF4 then some 4
  else none

/-- The beginning of a byte list with the given first byte: its character, or `none` where the
bytes are no character, and how many bytes after the first one it takes. -/
def step (a : Nat) (s : List Nat) : Option Char × Nat :=
  match width? a with
  | some 1 => (some (Char.ofNat a), 0)
  | some 2 =>
    match s with
    | b :: _ =>
      if isTail b then (some (Char.ofNat ((a - 0xC0) * 64 + (b - 0x80))), 1) else (none, 0)
    | [] => (none, 0)
  | some 3 =>
    match s with
    | b :: c :: _ =>
      if !isSecond a b then (none, 0)
      else if !isTail c then (none, 1)
      else (some (Char.ofNat ((a - 0xE0) * 4096 + (b - 0x80) * 64 + (c - 0x80))), 2)
    | [b] => (none, if isSecond a b then 1 else 0)
    | [] => (none, 0)
  | some 4 =>
    match s with
    | b :: c :: d :: _ =>
      if !isSecond a b then (none, 0)
      else if !isTail c then (none, 1)
      else if !isTail d then (none, 2)
      else (some (Char.ofNat
        ((a - 0xF0) * 262144 + (b - 0x80) * 4096 + (c - 0x80) * 64 + (d - 0x80))), 3)
    | [b, c] => (none, if !isSecond a b then 0 else if isTail c then 2 else 1)
    | [b] => (none, if isSecond a b then 1 else 0)
    | [] => (none, 0)
  | _ => (none, 0)

/-- The characters of a byte list, `none` for each run of bytes that is no character. -/
def characters : List Nat → List (Option Char)
  | [] => []
  | a :: s => (step a s).1 :: characters (s.drop (step a s).2)
termination_by s => s.length
decreasing_by
  rw [List.length_drop, List.length_cons]
  exact Nat.lt_succ_of_le (Nat.sub_le _ _)

/-- The text of the bytes, with the replacement character for what is no character. -/
def decodeLenient (bytes : List UInt8) : List Char :=
  (characters (bytes.map (·.toNat))).map fun c => c.getD '\uFFFD'

/-- The text of the bytes, if all of them are characters. -/
def decode? (bytes : List UInt8) : Option (List Char) :=
  (characters (bytes.map (·.toNat))).mapM id

end ImageDiscovery.Text.Utf8
