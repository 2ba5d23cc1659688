import ImageDiscovery.Document.Json.Writer
import ImageDiscovery.Document.Yaml.Mark
import ImageDiscovery.Document.Yaml.Scalar

/-!
# Writing YAML

Document values are written as blocks of lines. What belongs to a key stands two columns further to
the right; only the items of a sequence stand at the column of their key. Empty sequences and
mappings are pairs of brackets.

A text is written plainly if it can only be read as this text. Otherwise it stands between single
quotes, a text of several lines is written line by line, and one with characters that cannot be seen
stands between double quotes.

## Main definitions

* `Document.Yaml.Style`, `Document.Yaml.style` — how a text is written.
* `Document.Yaml.lines` — the lines of a value.
* `Document.Yaml.write` — a value as a document.
-/

namespace ImageDiscovery.Document.Yaml

open Text

/-! ### Texts -/

/-- How a text is written. -/
inductive Style where
  | plain
  /-- Between single quotes. -/
  | single
  /-- Between double quotes. -/
  | double
  /-- Line by line. -/
  | literal
  deriving DecidableEq, Repr

/-- The words that some readers take for truth values. -/
def isTruthWord (s : List Char) : Bool :=
  ["y", "yes", "n", "no", "on", "off", "true", "false", "null"].any (·.toList == lower s)

/-- The text could be read as something else than a text. -/
def isAmbiguous (s : String) : Bool :=
  !Plain.isText s || isTruthWord s.toList || Plain.isZeroPadded s.toList

/-- The character has to be escaped. -/
def isSpecial (c : Char) : Bool :=
  !(c == '\n' || (0x20 ≤ c.toNat && c.toNat ≤ 0x7E) || (0xA0 ≤ c.toNat && c.toNat ≤ 0xFFFD)) ||
  c.toNat == 0xFEFF || c.toNat == 0x2028 || c.toNat == 0x2029

/-- The rest of a text after `before` has a mark that only quotes can hide: a colon before white
space, or a number sign after it. -/
def hidesMark (before : Char) : List Char → Bool
  | [] => false
  | c :: s =>
    (c == ':' && s.head?.all isSpace) || (c == '#' && isSpace before) || hidesMark c s

/-- The text begins with a mark that only quotes can hide. -/
def startsWithMark : List Char → Bool
  | [] => false
  | c :: s =>
    [',', '[', ']', '{', '}', '#', '&', '*', '!', '|', '>', '\'', '"', '%', '@',
      '\x60'].contains c ||
    (['-', '?', ':'].contains c && s.head?.all isSpace)

/-- The text is no plain scalar. -/
def needsQuotes (s : List Char) : Bool :=
  startsWithMark s || hidesMark ' ' s || (dropPrefix? ['-', '-', '-'] s).isSome ||
  (dropPrefix? ['.', '.', '.'] s).isSome || s.head? == some ' ' || s.getLast? == some ' '

/-- A space stands before a line end. -/
def spaceBeforeBreak : List Char → Bool
  | ' ' :: '\n' :: _ => true
  | _ :: s => spaceBeforeBreak s
  | [] => false

/-- How a text is written. -/
def style (text : String) : Style :=
  let s := text.toList
  if s.any isSpecial then .double
  else if s.contains '\n' then
    if spaceBeforeBreak s || s.getLast? == some ' ' then .double else .literal
  else if isAmbiguous text || needsQuotes s then .single
  else .plain

/-- A number in base sixteen with the given number of digits. -/
def hex (width n : Nat) : List Char :=
  let ds := (Nat.toDigits 16 n).map Char.toUpper
  List.replicate (width - ds.length) '0' ++ ds

/-- How a character stands between double quotes. -/
def escape (c : Char) : List Char :=
  let short := [('\x00', '0'), ('\x07', 'a'), ('\x08', 'b'), ('\t', 't'), ('\n', 'n'),
    ('\x0b', 'v'), ('\x0c', 'f'), ('\r', 'r'), ('\x1b', 'e'), ('"', '"'), ('\\', '\\'),
    ('\u0085', 'N'), ('\u2028', 'L'), ('\u2029', 'P')]
  match short.lookup c with
  | some e => ['\\', e]
  | none =>
    if !isSpecial c then [c]
    else if c.toNat ≤ 0xFF then ['\\', 'x'] ++ hex 2 c.toNat
    else if c.toNat ≤ 0xFFFF then ['\\', 'u'] ++ hex 4 c.toNat
    else ['\\', 'U'] ++ hex 8 c.toNat

/-- How a character stands between single quotes. -/
def doubled (c : Char) : List Char := if c = '\'' then ['\'', '\''] else [c]

/-- What is said about the line ends after a text that is written line by line. -/
def chomping (s : List Char) : List Char :=
  match s.reverse with
  | '\n' :: '\n' :: _ => ['+']
  | ['\n'] => ['+']
  | '\n' :: _ => []
  | _ => ['-']

/-- The first line of a text that is written line by line. Its indentation is told where the text
begins with white space. -/
def literalMark (s : List Char) : List Char :=
  ['|'] ++ (if s.head?.any isSpace then ['2'] else []) ++ chomping s

/-- The lines of a text, without the last line end. -/
def literalLines (s : List Char) : List (List Char) :=
  let ls := split '\n' s
  if ls.getLast? == some [] then ls.dropLast else ls

/-- The lines of a text. -/
def textLines (text : String) : List String :=
  let s := text.toList
  match style text with
  | .plain => [text]
  | .single => [String.ofList (['\''] ++ s.flatMap doubled ++ ['\''])]
  | .double => [String.ofList (['"'] ++ s.flatMap escape ++ ['"'])]
  | .literal => String.ofList (literalMark s) :: (literalLines s).map String.ofList

/-! ### Values -/

/-- The line two columns further to the right; an empty line stays empty. -/
def indent (line : String) : String := if line.isEmpty then line else "  " ++ line

/-- Lines after a mark of two columns. -/
def hang (mark : String) : List String → List String
  | [] => [mark]
  | l :: ls => (mark ++ l) :: ls.map indent

/-- The key can stand on one line with its colon. -/
def isSimpleKey (key : String) : Bool := key.utf8ByteSize ≤ 128 && !key.toList.contains '\n'

/-- Where the lines of a value stand. -/
inductive Placement where
  /-- The first one after the key. -/
  | after
  /-- Below the key, at its column. -/
  | below
  /-- Below the key, two columns further to the right. -/
  | nested
  deriving DecidableEq, Repr

/-- A key with the lines of its value. A key that is not simple has a mark of its own. -/
def entryLines (key : String) (placement : Placement) (value : List String) : List String :=
  if isSimpleKey key then
    let k := String.join (textLines key)
    match placement with
    | .after => hang (k ++ ": ") value
    | .below => (k ++ ":") :: value
    | .nested => (k ++ ":") :: value.map indent
  else hang "? " (textLines key) ++ hang ": " value

mutual

/-- The lines of a value. -/
def lines : Node → List String
  | .text s => textLines s
  | .array [] => ["[]"]
  | .sequence [] => ["[]"]
  | .mapping [] => ["\x7b\x7d"]
  | .array items => itemsLines items
  | .sequence items => itemsLines items
  | .mapping entries => entriesLines entries
  | n => [Json.scalar n]

/-- The lines of items. -/
def itemsLines : List Node → List String
  | [] => []
  | n :: ns => hang "- " (lines n) ++ itemsLines ns

/-- The lines of entries. -/
def entriesLines : List (String × Node) → List String
  | [] => []
  | (key, n) :: es =>
    (match n with
      | .mapping (e :: es) => entryLines key .nested (entriesLines (e :: es))
      | .array (i :: is) => entryLines key .below (itemsLines (i :: is))
      | .sequence (i :: is) => entryLines key .below (itemsLines (i :: is))
      | n => entryLines key .after (lines n)) ++ entriesLines es

end

/-- A value as a document. -/
def write (n : Node) : String := String.join ((lines n).map (· ++ "\n"))

end ImageDiscovery.Document.Yaml
