import ImageDiscovery.Text.Base64

/-!
# Base64 by its table

Each character of a text in Base64 writes six bits, and stands in a table of sixty-four at their
value. Three bytes are four times six bits; one byte or two at the end are filled up with zero bits,
and equals signs stand for the characters that are then missing.

## Main definitions

* `Text.base64Table`, `Text.IsSextet` — the table, and the character of six bits.
* `Text.IsBase64` — characters that write bytes.

## Main results

* `Text.isSextet_iff` — the character of six bits is the one that is computed.
* `Text.isBase64_iff` — bytes are written as they are by the program.
-/

namespace ImageDiscovery.Text

/-- The characters of six bits, by their values. -/
def base64Table : List Char :=
  "ABCDEFGHIJKLMNOPQRSTUVWXYZabcdefghijklmnopqrstuvwxyz0123456789+/".toList

/-- The character writes six bits. -/
def IsSextet (n : Nat) (c : Char) : Prop := base64Table[n]? = some c

/-- The characters write bytes, three by three. -/
inductive IsBase64 : List UInt8 → List Char → Prop
  | nil : IsBase64 [] []
  | one {a : UInt8} {p q : Char} (hp : IsSextet (a.toNat / 4) p)
      (hq : IsSextet (a.toNat % 4 * 16) q) : IsBase64 [a] [p, q, '=', '=']
  | two {a b : UInt8} {p q r : Char} (hp : IsSextet (a.toNat / 4) p)
      (hq : IsSextet (a.toNat % 4 * 16 + b.toNat / 16) q) (hr : IsSextet (b.toNat % 16 * 4) r) :
    IsBase64 [a, b] [p, q, r, '=']
  | three {a b c : UInt8} {p q r s : Char} {bytes : List UInt8} {chars : List Char}
      (hp : IsSextet (a.toNat / 4) p) (hq : IsSextet (a.toNat % 4 * 16 + b.toNat / 16) q)
      (hr : IsSextet (b.toNat % 16 * 4 + c.toNat / 64) r) (hs : IsSextet (c.toNat % 64) s)
      (rest : IsBase64 bytes chars) :
    IsBase64 (a :: b :: c :: bytes) (p :: q :: r :: s :: chars)

theorem base64Table_getElem? : ∀ n < 64, base64Table[n]? = some (base64Char n) := by
  decide +kernel

theorem isSextet_iff {n : Nat} {c : Char} (h : n < 64) : IsSextet n c ↔ c = base64Char n := by
  rw [IsSextet, base64Table_getElem? n h, Option.some.injEq, eq_comm]

/-! ### Groups of bytes -/

section

variable (a b c : UInt8)

theorem base64_one : base64 [a] =
    [base64Char (a.toNat / 4), base64Char (a.toNat % 4 * 16), '=', '='] := by
  have hp : a.toNat * 65536 / 262144 = a.toNat / 4 := by omega
  have hq : a.toNat * 65536 / 4096 % 64 = a.toNat % 4 * 16 := by omega
  rw [base64, hp, hq]

theorem base64_two : base64 [a, b] = [base64Char (a.toNat / 4),
    base64Char (a.toNat % 4 * 16 + b.toNat / 16), base64Char (b.toNat % 16 * 4), '='] := by
  have hb := b.toNat_lt
  have hp : (a.toNat * 65536 + b.toNat * 256) / 262144 = a.toNat / 4 := by omega
  have hq : (a.toNat * 65536 + b.toNat * 256) / 4096 % 64 = a.toNat % 4 * 16 + b.toNat / 16 := by
    omega
  have hr : (a.toNat * 65536 + b.toNat * 256) / 64 % 64 = b.toNat % 16 * 4 := by omega
  rw [base64, hp, hq, hr]

theorem base64_three (bytes : List UInt8) : base64 (a :: b :: c :: bytes) =
    base64Char (a.toNat / 4) :: base64Char (a.toNat % 4 * 16 + b.toNat / 16) ::
      base64Char (b.toNat % 16 * 4 + c.toNat / 64) :: base64Char (c.toNat % 64) ::
        base64 bytes := by
  have hb := b.toNat_lt
  have hc := c.toNat_lt
  have hp : (a.toNat * 65536 + b.toNat * 256 + c.toNat) / 262144 = a.toNat / 4 := by omega
  have hq : (a.toNat * 65536 + b.toNat * 256 + c.toNat) / 4096 % 64 =
      a.toNat % 4 * 16 + b.toNat / 16 := by omega
  have hr : (a.toNat * 65536 + b.toNat * 256 + c.toNat) / 64 % 64 =
      b.toNat % 16 * 4 + c.toNat / 64 := by omega
  have hs : (a.toNat * 65536 + b.toNat * 256 + c.toNat) % 64 = c.toNat % 64 := by omega
  rw [base64, hp, hq, hr, hs]

end

/-- **Base64 by its table.** Characters write bytes if and only if they are the ones that the
program writes. -/
theorem isBase64_iff {bytes : List UInt8} {chars : List Char} :
    IsBase64 bytes chars ↔ chars = base64 bytes := by
  constructor
  · intro h
    induction h with
    | nil => rfl
    | @one a _ _ hp hq =>
      have ha := a.toNat_lt
      rw [base64_one, (isSextet_iff (by omega)).1 hp, (isSextet_iff (by omega)).1 hq]
    | @two a b _ _ _ hp hq hr =>
      have ha := a.toNat_lt
      have hb := b.toNat_lt
      rw [base64_two, (isSextet_iff (by omega)).1 hp, (isSextet_iff (by omega)).1 hq,
        (isSextet_iff (by omega)).1 hr]
    | @three a b c _ _ _ _ _ _ hp hq hr hs _ ih =>
      have ha := a.toNat_lt
      have hb := b.toNat_lt
      have hc := c.toNat_lt
      rw [base64_three, (isSextet_iff (by omega)).1 hp, (isSextet_iff (by omega)).1 hq,
        (isSextet_iff (by omega)).1 hr, (isSextet_iff (by omega)).1 hs, ih]
  · have hsextet {n : Nat} (h : n < 64) : IsSextet n (base64Char n) := (isSextet_iff h).2 rfl
    rintro rfl
    induction bytes using base64.induct with
    | case1 => exact .nil
    | case2 a =>
      have ha := a.toNat_lt
      rw [base64_one]
      exact .one (hsextet (by omega)) (hsextet (by omega))
    | case3 a b =>
      have ha := a.toNat_lt
      have hb := b.toNat_lt
      rw [base64_two]
      exact .two (hsextet (by omega)) (hsextet (by omega)) (hsextet (by omega))
    | case4 a b c bytes ih =>
      have ha := a.toNat_lt
      have hb := b.toNat_lt
      have hc := c.toNat_lt
      rw [base64_three]
      exact .three (hsextet (by omega)) (hsextet (by omega)) (hsextet (by omega))
        (hsextet (by omega)) ih

end ImageDiscovery.Text
