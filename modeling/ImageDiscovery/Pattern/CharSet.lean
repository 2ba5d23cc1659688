import ImageDiscovery.Text.Blank
import ImageDiscovery.Text.Decimal
import ImageDiscovery.Unicode.CaseFold
import ImageDiscovery.Unicode.Letters
import ImageDiscovery.Unicode.Marks
import ImageDiscovery.Unicode.Scripts

/-!
# Sets of characters in patterns

A pattern describes sets of characters by ranges, named sets, and set operations. Membership is
decided on the description, so that a set of any size is small.

## Main definitions

* `Pattern.NamedSet` — the sets that have a name.
* `Pattern.CharSet` — the description of a set.
* `Pattern.CharSet.contains` — membership.
* `Pattern.CharSet.weight` — how much room the set takes in an automaton over bytes.
-/

namespace ImageDiscovery.Pattern

open Text Unicode

/-- The sets of characters that have a name. -/
inductive NamedSet where
  | any | ascii | digit | word | blank
  | letter | upperLetter | lowerLetter | uppercase | number | decimalNumber | letterNumber
  | mark | punctuation | symbol | separator
  | han | latin | greek | cyrillic | hiragana | katakana | hangul
  deriving DecidableEq, Repr

namespace NamedSet

/-- The characters of words: letters, marks, decimal numbers, connectors and joiners, and the
letter-like numbers and symbols. -/
def isWord (c : Char) : Bool :=
  Unicode.letter.contains c || Unicode.mark.contains c || Unicode.decimalNumber.contains c ||
  Unicode.letterNumber.contains c || Unicode.connector.contains c ||
  c.toNat == 0x200C || c.toNat == 0x200D ||
  (0x24B6 ≤ c.toNat && c.toNat ≤ 0x24E9) || (0x1F130 ≤ c.toNat && c.toNat ≤ 0x1F149) ||
  (0x1F150 ≤ c.toNat && c.toNat ≤ 0x1F169) || (0x1F170 ≤ c.toNat && c.toNat ≤ 0x1F189)

/-- Membership in a named set. -/
def contains (s : NamedSet) (c : Char) : Bool :=
  match s with
  | any => true
  | ascii => c.toNat < 128
  | digit | decimalNumber => Unicode.decimalNumber.contains c
  | word => isWord c
  | blank => isBlank c
  | letter => Unicode.letter.contains c
  | upperLetter => Unicode.upperLetter.contains c
  | lowerLetter => Unicode.lowerLetter.contains c
  | uppercase => isUppercase c
  | number => Unicode.number.contains c
  | letterNumber => Unicode.letterNumber.contains c
  | mark => Unicode.mark.contains c
  | punctuation => Unicode.punctuation.contains c
  | symbol => Unicode.symbol.contains c
  | separator => Unicode.separator.contains c
  | han => Unicode.scriptHan.contains c
  | latin => Unicode.scriptLatin.contains c
  | greek => Unicode.scriptGreek.contains c
  | cyrillic => Unicode.scriptCyrillic.contains c
  | hiragana => Unicode.scriptHiragana.contains c
  | katakana => Unicode.scriptKatakana.contains c
  | hangul => Unicode.scriptHangul.contains c

/-- The number of ranges of a named set. -/
def rangeCount : NamedSet → Nat
  | any | ascii => 1
  | digit | decimalNumber => Unicode.decimalNumber.size
  | word => Unicode.letter.size + Unicode.decimalNumber.size
  | blank => 10
  | letter => Unicode.letter.size
  | upperLetter | uppercase => Unicode.upperLetter.size
  | lowerLetter => Unicode.lowerLetter.size
  | number => Unicode.number.size
  | letterNumber => Unicode.letterNumber.size
  | mark => Unicode.mark.size
  | punctuation => Unicode.punctuation.size
  | symbol => Unicode.symbol.size
  | separator => Unicode.separator.size
  | han => Unicode.scriptHan.size
  | latin => Unicode.scriptLatin.size
  | greek => Unicode.scriptGreek.size
  | cyrillic => Unicode.scriptCyrillic.size
  | hiragana => Unicode.scriptHiragana.size
  | katakana => Unicode.scriptKatakana.size
  | hangul => Unicode.scriptHangul.size

/-- The names of properties, without case, spaces, hyphens and underscores. -/
def byName : List (String × NamedSet) := [
  ("any", any), ("ascii", ascii), ("nd", decimalNumber), ("decimalnumber", decimalNumber),
  ("digit", decimalNumber), ("l", letter), ("letter", letter), ("lu", upperLetter),
  ("uppercaseletter", upperLetter), ("ll", lowerLetter), ("lowercaseletter", lowerLetter),
  ("uppercase", uppercase), ("upper", uppercase), ("n", number), ("number", number),
  ("nl", letterNumber), ("letternumber", letterNumber), ("m", mark), ("mark", mark),
  ("combiningmark", mark), ("p", punctuation), ("punctuation", punctuation), ("punct", punctuation),
  ("s", symbol), ("symbol", symbol), ("z", separator), ("separator", separator),
  ("whitespace", blank), ("wspace", blank), ("space", blank),
  ("han", han), ("hani", han), ("latin", latin), ("latn", latin), ("greek", greek), ("grek", greek),
  ("cyrillic", cyrillic), ("cyrl", cyrillic), ("hiragana", hiragana), ("hira", hiragana),
  ("katakana", katakana), ("kana", katakana), ("hangul", hangul), ("hang", hangul)]

end NamedSet

/-- The description of a set of characters. -/
inductive CharSet where
  /-- No character. -/
  | empty
  /-- The characters between two ones. -/
  | range (first last : Char)
  /-- A set that has a name. -/
  | named (set : NamedSet)
  /-- All other characters. -/
  | complement (set : CharSet)
  /-- The characters of either set. -/
  | union (left right : CharSet)
  /-- The characters of both sets. -/
  | intersection (left right : CharSet)
  /-- The characters with a case variant in the set. -/
  | folded (set : CharSet)
  deriving DecidableEq, Repr

namespace CharSet

/-- One character. -/
def single (c : Char) : CharSet := range c c

/-- The characters of the first set that are not in the second. -/
def difference (a b : CharSet) : CharSet := intersection a (complement b)

/-- The characters of exactly one of the sets. -/
def symmetricDifference (a b : CharSet) : CharSet := union (difference a b) (difference b a)

/-- Membership in a set. -/
def contains (s : CharSet) (c : Char) : Bool :=
  match s with
  | empty => false
  | range first last => first ≤ c && c ≤ last
  | named set => set.contains c
  | complement set => !set.contains c
  | union left right => left.contains c || right.contains c
  | intersection left right => left.contains c && right.contains c
  | folded set => (variants c).any set.contains

/-- All characters of the set are certainly ASCII. -/
def isAscii : CharSet → Bool
  | empty => true
  | range _ last => last.toNat < 128
  | named .ascii => true
  | named _ => false
  | complement _ => false
  | union left right => left.isAscii && right.isAscii
  | intersection left right => left.isAscii || right.isAscii
  | folded set => set.isAscii

/-- An upper bound of the number of ranges of the set. -/
def rangeCount : CharSet → Nat
  | empty => 0
  | range _ _ => 1
  | named set => set.rangeCount
  | complement set => set.rangeCount + 1
  | union left right => left.rangeCount + right.rangeCount
  | intersection left right => left.rangeCount + right.rangeCount
  | folded set => 2 * set.rangeCount

/-- The room that the set takes in an automaton over bytes, read from either end of a text: a state
with a transition for each range of ASCII characters; for characters of several bytes, states for
the bytes that the ranges have in common and two for each of them. -/
def weight (s : CharSet) : Nat :=
  match s with
  | range first last =>
    if first = last then 32 * (String.utf8EncodeChar first).length
    else if s.isAscii then 72 else 250
  | s => if s.isAscii then 64 + 8 * s.rangeCount else 900 + 62 * s.rangeCount

end CharSet

end ImageDiscovery.Pattern
