import Mathlib.Algebra.Group.Nat.Defs
import Mathlib.Data.List.Lex
import Mathlib.Tactic.SplitIfs

/-!
# The order of texts and the order of their bytes

Texts are ordered by their characters, and characters by their code points. A character is written
as one to four bytes, a larger code point with a larger first byte or, where the first bytes are the
same, with larger bytes after it. So the order of texts is the order of their bytes.

## Main definitions

* `Text.Utf8.bytes` — the bytes of a text.
* `Text.Utf8.following`, `Text.Utf8.first`, `Text.Utf8.tailBytes` — how the bytes of a character are
  made up.

## Main results

* `Text.Utf8.encodeChar_append_lt` — of two characters the larger one has the larger bytes.
* `Text.Utf8.lt_iff_bytes_lt` — texts are ordered by their bytes.
-/

namespace ImageDiscovery.Text.Utf8

/-- The bytes of a text. -/
def bytes (s : String) : List UInt8 := s.toByteArray.data.toList

/-- The bytes of a text are those of its characters, one after another. -/
theorem bytes_eq (s : String) : bytes s = s.toList.flatMap String.utf8EncodeChar := by
  conv_lhs =>
    rw [bytes, ← String.ofList_toList (s := s), String.toByteArray_ofList, List.utf8Encode]
  exact List.toList_data_toByteArray

/-! ### The bytes of one character -/

/-- The number of bytes that follow the first one of a character with a code point. -/
def following (n : Nat) : Nat :=
  if n ≤ 127 then 0 else if n ≤ 2047 then 1 else if n ≤ 65535 then 2 else 3

/-- The first byte, where `k` bytes follow it. -/
def first (k n : Nat) : Nat := n / 64 ^ k + [0, 192, 224, 240].getD k 0

/-- The last `k` bytes, each for six bits of the code point. -/
def tailBytes : Nat → Nat → List UInt8
  | 0, _ => []
  | k + 1, n => tailBytes k (n / 64) ++ [UInt8.ofNat (n % 64 + 128)]

theorem code_lt (c : Char) : c.val.toNat < 0x110000 := by
  rcases c.valid with h | h
  · exact Nat.lt_trans h (by decide)
  · exact h.2

/-- A character is written as its first byte and the bytes after it. -/
theorem encodeChar_eq (c : Char) : String.utf8EncodeChar c =
    UInt8.ofNat (first (following c.val.toNat) c.val.toNat) ::
      tailBytes (following c.val.toNat) c.val.toNat := by
  have hmax := code_lt c
  unfold String.utf8EncodeChar following
  generalize c.val.toNat = n at hmax ⊢
  dsimp only
  split
  · simp [first, tailBytes]
  · split
    · have h : n / 64 % 32 = n / 64 := by omega
      simp [first, tailBytes, h]
    · split
      · have h : n / 4096 % 16 = n / 4096 := by omega
        simp [first, tailBytes, h]
      · have h : n / 262144 % 8 = n / 262144 := by omega
        simp [first, tailBytes, h, Nat.div_div_eq_div_mul]

theorem first_lt {n : Nat} (h : n < 0x110000) : first (following n) n < 256 := by
  unfold following first
  split_ifs <;> simp <;> omega

theorem ofNat_lt_ofNat {a b : Nat} (h : a < b) (hb : b < 256) : UInt8.ofNat a < UInt8.ofNat b := by
  rw [UInt8.lt_iff_toNat_lt, UInt8.toNat_ofNat', UInt8.toNat_ofNat']
  omega

/-- Where the bits before them are the same, the last bytes decide. -/
theorem tailBytes_append_lt {k m n : Nat} (h : m < n) (htop : m / 64 ^ k = n / 64 ^ k)
    (s t : List UInt8) : tailBytes k m ++ s < tailBytes k n ++ t := by
  induction k generalizing m n s t with
  | zero =>
    rw [Nat.pow_zero, Nat.div_one, Nat.div_one] at htop
    exact absurd htop (Nat.ne_of_lt h)
  | succ k ih =>
    rw [tailBytes, tailBytes, List.append_assoc, List.append_assoc]
    rcases Nat.lt_or_eq_of_le (Nat.div_le_div_right (c := 64) (Nat.le_of_lt h)) with hlt | heq
    · refine ih hlt ?_ _ _
      rwa [Nat.div_div_eq_div_mul, Nat.div_div_eq_div_mul, ← Nat.pow_succ']
    · have hlast : UInt8.ofNat (m % 64 + 128) < UInt8.ofNat (n % 64 + 128) :=
        ofNat_lt_ofNat (by omega) (by omega)
      rw [heq]
      exact List.Lex.append_left _ (List.Lex.rel hlast) _

/-- Of two characters the larger one has the larger bytes, whatever follows them. -/
theorem encodeChar_append_lt {c d : Char} (h : c < d) (s t : List UInt8) :
    String.utf8EncodeChar c ++ s < String.utf8EncodeChar d ++ t := by
  have hmax := code_lt d
  have hlt : c.val.toNat < d.val.toNat := h
  rw [encodeChar_eq, encodeChar_eq]
  generalize c.val.toNat = m at hlt ⊢
  generalize d.val.toNat = n at hlt hmax ⊢
  have hfirst : first (following m) m < first (following n) n ∨
      following m = following n ∧ m / 64 ^ following m = n / 64 ^ following m := by
    unfold following first
    split_ifs <;> simp <;> omega
  rcases hfirst with hfirst | ⟨hk, hdiv⟩
  · exact List.Lex.rel (ofNat_lt_ofNat hfirst (first_lt hmax))
  · have heq : first (following m) m = first (following m) n := by rw [first, first, hdiv]
    rw [← hk, heq]
    exact List.Lex.cons (tailBytes_append_lt hlt hdiv s t)

/-! ### The bytes of a text -/

theorem flatMap_encodeChar_lt {s t : List Char} (h : s < t) :
    s.flatMap String.utf8EncodeChar < t.flatMap String.utf8EncodeChar := by
  induction h with
  | @nil d t =>
    rw [List.flatMap_nil, List.flatMap_cons, encodeChar_eq]
    exact List.Lex.nil
  | @rel c s d t hcd =>
    rw [List.flatMap_cons, List.flatMap_cons]
    exact encodeChar_append_lt hcd _ _
  | cons _ ih =>
    rw [List.flatMap_cons, List.flatMap_cons]
    exact List.Lex.append_left _ ih _

/-- **Texts are ordered by their bytes.** -/
theorem lt_iff_bytes_lt {s t : String} : s < t ↔ bytes s < bytes t := by
  rw [bytes_eq, bytes_eq]
  refine ⟨flatMap_encodeChar_lt, fun h => ?_⟩
  by_contra hnot
  rcases List.le_iff_lt_or_eq.1 (List.not_lt.1 hnot) with hlt | heq
  · exact List.lt_asymm h (flatMap_encodeChar_lt hlt)
  · exact List.lt_irrefl _ (heq ▸ h)

end ImageDiscovery.Text.Utf8
