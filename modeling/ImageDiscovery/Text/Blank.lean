/-!
# White space

The characters that separate words and are dropped at the ends of a text: those with the Unicode
property `White_Space`. Texts are lists of characters here, so that every operation is a recursion
on the text itself.

## Main definitions

* `Text.isBlank` — the property `White_Space`.
* `Text.trimStart`, `Text.trimEnd`, `Text.trim` — a text without the white space at its ends.
* `Text.words` — the maximal runs of characters that are not white space.

## Main results

* `Text.trim_eq_self` — a text with no white space at either end is its own trimmed form.
-/

namespace ImageDiscovery.Text

/-- The Unicode property `White_Space`. -/
def isBlank (c : Char) : Bool :=
  (0x09 ≤ c.toNat && c.toNat ≤ 0x0D) || c.toNat == 0x20 || c.toNat == 0x85 || c.toNat == 0xA0 ||
  c.toNat == 0x1680 || (0x2000 ≤ c.toNat && c.toNat ≤ 0x200A) || c.toNat == 0x2028 ||
  c.toNat == 0x2029 || c.toNat == 0x202F || c.toNat == 0x205F || c.toNat == 0x3000

/-- The text without its leading white space. -/
def trimStart (s : List Char) : List Char := s.dropWhile isBlank

/-- The text without its trailing white space. -/
def trimEnd (s : List Char) : List Char := (s.reverse.dropWhile isBlank).reverse

/-- The text without the white space at its ends. -/
def trim (s : List Char) : List Char := trimEnd (trimStart s)

/-- The words of a text that continues a word whose characters so far are `word`, the latest
first. -/
def wordsFrom (word : List Char) : List Char → List (List Char)
  | [] => if word.isEmpty then [] else [word.reverse]
  | c :: s =>
    if isBlank c then
      if word.isEmpty then wordsFrom [] s else word.reverse :: wordsFrom [] s
    else wordsFrom (c :: word) s

/-- The maximal runs of characters that are not white space, in order. -/
def words (s : List Char) : List (List Char) := wordsFrom [] s

@[simp] theorem words_nil : words [] = [] := rfl

theorem dropWhile_eq_self {p : Char → Bool} {s : List Char} (h : ∀ c ∈ s.head?, p c = false) :
    s.dropWhile p = s := by
  cases s with
  | nil => rfl
  | cons c s => simp [h c (by simp)]

/-- A text with no white space at either end is its own trimmed form. -/
theorem trim_eq_self {s : List Char} (hs : ∀ c ∈ s.head?, isBlank c = false)
    (he : ∀ c ∈ s.getLast?, isBlank c = false) : trim s = s := by
  rw [trim, trimStart, dropWhile_eq_self hs, trimEnd, dropWhile_eq_self (by simpa using he),
    List.reverse_reverse]

end ImageDiscovery.Text
