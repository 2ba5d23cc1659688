import ImageDiscovery.Text.Split

/-!
# Text with columns

The layout of a document is told by columns, so its characters are read together with the columns
at which they stand. A list of marks is a place in a document: the characters that are left there.

Between two tokens there may be blanks, line ends and comments. A token is fresh if nothing stands
before it on its line but blanks and the marks of items. Only fresh tokens may begin block
structures, and no tabs may stand before them.

## Main definitions

* `Document.Yaml.Mark` — a character with its column.
* `Document.Yaml.marks` — the characters of a text with their columns.
* `Document.Yaml.skip` — the place of the next token.
* `Document.Yaml.body` — the lines of the one document that a text holds.
-/

namespace ImageDiscovery.Document.Yaml

open Text

/-- A character with the column at which it stands, the first one being zero. -/
structure Mark where
  char : Char
  column : Nat
  deriving DecidableEq, Repr

/-- The characters of a text that begins at a column. -/
def marksFrom (column : Nat) : List Char → List Mark
  | [] => []
  | c :: s => ⟨c, column⟩ :: marksFrom (if c = '\n' then 0 else column + 1) s

/-- The characters of a text with their columns. -/
def marks (s : List Char) : List Mark := marksFrom 0 s

/-- A space or a tab. -/
def isGap (c : Char) : Bool := c == ' ' || c == '\t'

/-- A space, a tab or a line end. -/
def isSpace (c : Char) : Bool := isGap c || c == '\n'

/-- The place is the end of a token: nothing or white space is left there. -/
def isEnd : List Mark → Bool
  | [] => true
  | m :: _ => isSpace m.char

/-- The place has the given character. -/
def startsWith (c : Char) : List Mark → Bool
  | [] => false
  | m :: _ => m.char == c

/-- The place of the next token, and whether that is fresh, given that a token here would be
`fresh` and whether a comment has begun. Within brackets tabs are blanks everywhere. -/
def skipFrom (flow : Bool) : Bool → Bool → List Mark → List Mark × Bool
  | fresh, _, [] => ([], fresh)
  | fresh, comment, m :: s =>
    if m.char == '\n' then skipFrom flow true false s
    else if comment || m.char == ' ' || (m.char == '\t' && (flow || !fresh)) then
      skipFrom flow fresh comment s
    else if m.char == '#' then skipFrom flow fresh true s
    else (m :: s, fresh)

/-- The place of the next token outside of brackets, and whether that is fresh. -/
def skip (fresh : Bool) (s : List Mark) : List Mark × Bool := skipFrom false fresh false s

/-- The place of the next token within brackets. -/
def skipFlow (s : List Mark) : List Mark := (skipFrom true false false s).1

/-! ### Documents in a text -/

/-- The text with every kind of line end written as one character. -/
def unifyLineEnds : List Char → List Char
  | [] => []
  | '\r' :: '\n' :: s => '\n' :: unifyLineEnds s
  | c :: s => (if c = '\r' ∨ c = '\u0085' then '\n' else c) :: unifyLineEnds s

/-- The character may stand in a document. -/
def isAllowed (c : Char) : Bool :=
  c == '\t' || c == '\n' || c == '\r' || (0x20 ≤ c.toNat && c.toNat ≤ 0x7E) || c == '\u0085' ||
  (0xA0 ≤ c.toNat && c.toNat ≤ 0xD7FF) ||
  (0xE000 ≤ c.toNat && c.toNat ≤ 0xFFFD && c.toNat != 0xFEFF) || 0x10000 ≤ c.toNat

/-- The line begins with three times the character and nothing right after that. -/
def isMarker (c : Char) (line : List Char) : Bool :=
  match dropPrefix? [c, c, c] line with
  | some [] => true
  | some (d :: _) => isGap d
  | none => false

/-- The line holds nothing, or only a comment. -/
def isIdle (line : List Char) : Bool :=
  match line.dropWhile (· == ' ') with
  | [] => true
  | c :: _ => c == '#'

/-- The lines up to the end of a document. Nothing may follow it but idle lines. -/
def beforeEnd (lines : List (List Char)) : Option (List (List Char)) :=
  let isEither (l : List Char) : Bool := isMarker '-' l || isMarker '.' l
  match lines.dropWhile fun l => !isEither l with
  | [] => some lines
  | marker :: rest =>
    if isMarker '.' marker && rest.all isIdle then some (lines.takeWhile fun l => !isEither l)
    else none

/-- The lines of the one document that a text holds, with blanks in place of the mark before it,
and whether it begins on a line without such a mark. -/
def body (lines : List (List Char)) : Option (List (List Char) × Bool) :=
  match lines.dropWhile isIdle with
  | first :: rest =>
    if isMarker '-' first then
      (beforeEnd rest).map fun ls => (([' ', ' ', ' '] ++ first.drop 3) :: ls, false)
    else (beforeEnd lines).map (·, true)
  | [] => some (lines, true)

end ImageDiscovery.Document.Yaml
