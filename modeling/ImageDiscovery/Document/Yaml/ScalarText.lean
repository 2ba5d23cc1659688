import ImageDiscovery.Document.Node
import ImageDiscovery.Document.Yaml.Mark

/-!
# Scalars in a text

A scalar is written plainly, or between quotes of one of two kinds. It may go over several lines: a
line end within it stands for a space, and further ones stand for themselves. Between double quotes
there are escapes.

All three readers go through the characters one by one and carry what they have read so far, the
latest first, and the white space after it, whose meaning depends on what follows.

## Main definitions

* `Document.Yaml.Gap` — white space within a scalar.
* `Document.Yaml.plain`, `Document.Yaml.single`, `Document.Yaml.double` — the three kinds.
* `Document.Yaml.key?` — a scalar that is followed by a colon.
-/

namespace ImageDiscovery.Document.Yaml

/-- White space within a scalar. -/
structure Gap where
  /-- The blanks before the first line end, the latest first. -/
  blanks : List Char
  /-- The number of line ends. -/
  breaks : Nat
  /-- A line end before all this was escaped. -/
  escaped : Bool
  deriving DecidableEq, Repr

namespace Gap

/-- No white space. -/
def none : Gap := ⟨[], 0, false⟩

/-- After an escaped line end. -/
def afterEscape : Gap := ⟨[], 0, true⟩

/-- With one more character. Blanks at the beginning of a line do not count. -/
def add (g : Gap) (c : Char) : Gap :=
  if c = '\n' then { g with blanks := [], breaks := g.breaks + 1 }
  else if g.breaks = 0 && !g.escaped then { g with blanks := c :: g.blanks }
  else g

/-- The characters that white space within a scalar stands for. -/
def text (g : Gap) : List Char :=
  if g.escaped then List.replicate g.breaks '\n'
  else match g.breaks with
    | 0 => g.blanks.reverse
    | 1 => [' ']
    | n + 1 => List.replicate n '\n'

/-- No character at all. -/
def isEmpty (g : Gap) : Bool := g.blanks.isEmpty && g.breaks == 0

/-- What is read so far with the white space after it. -/
def flush (g : Gap) (done : List Char) : List Char := g.text.reverse ++ done

end Gap

/-! ### Plain scalars -/

/-- The characters that end a plain scalar within brackets. -/
def isFlowMark (c : Char) : Bool := [',', '[', ']', '{', '}'].contains c

/-- The characters with which no plain scalar begins. -/
def isIndicator (c : Char) : Bool :=
  isFlowMark c || ['#', '&', '*', '!', '|', '>', '\'', '"', '%', '@', '\x60'].contains c

/-- A plain scalar may begin here. -/
def startsPlain (flow : Bool) : List Mark → Bool
  | [] => false
  | m :: s =>
    if m.char == '-' then !isEnd s
    else if m.char == '?' || m.char == ':' then !flow && !isEnd s
    else !isSpace m.char && !isIndicator m.char

/-- What a character does to a plain scalar. -/
inductive PlainStep where
  | goOn | stop | refuse
  deriving DecidableEq

/-- What a character other than white space does to a plain scalar, given the white space before it
and what comes after it. Outside of brackets a line has to begin at column `least` or later. -/
def plainStep (flow : Bool) (least : Nat) (gap : Gap) (m : Mark) (s : List Mark) : PlainStep :=
  if m.char == '#' && !gap.isEmpty then .stop
  else if !flow && gap.breaks != 0 && m.column < least then .stop
  else if m.char == ':' && isEnd s then .stop
  else if flow && m.char == ':' && s.head?.any fun n => n.char == '?' || isFlowMark n.char then
    .refuse
  else if flow && isFlowMark m.char then .stop
  else .goOn

/-- A plain scalar, which ends with its line if it has to, and what follows it. -/
def plain (flow oneLine : Bool) (least : Nat) (done : List Char) (gap : Gap) :
    List Mark → Option (List Char × List Mark)
  | [] => some (done.reverse, [])
  | m :: s =>
    if isSpace m.char then
      if m.char == '\n' && oneLine then some (done.reverse, m :: s)
      else plain flow oneLine least done (gap.add m.char) s
    else match plainStep flow least gap m s with
      | .stop => some (done.reverse, m :: s)
      | .refuse => none
      | .goOn => plain flow oneLine least (m.char :: gap.flush done) .none s

/-! ### Quoted scalars -/

/-- A scalar between single quotes, after the first of them. A quote within it is written twice. -/
def single (done : List Char) (gap : Gap) : List Mark → Option (List Char × List Mark)
  | [] => none
  | m :: s =>
    if isSpace m.char then single done (gap.add m.char) s
    else if m.char == '\'' then
      match s with
      | [] => some ((gap.flush done).reverse, [])
      | n :: t =>
        if n.char == '\'' then single ('\'' :: gap.flush done) .none t
        else some ((gap.flush done).reverse, n :: t)
    else single (m.char :: gap.flush done) .none s

/-- Where a reader is within an escape. -/
inductive Escape where
  /-- Not within an escape. -/
  | none
  /-- After the backslash. -/
  | begun
  /-- Within a number in base sixteen, with as many digits left. -/
  | number (left value : Nat)
  deriving DecidableEq

/-- The character of an escape of one letter. -/
def escaped? (c : Char) : Option Char :=
  [('0', '\x00'), ('a', '\x07'), ('b', '\x08'), ('t', '\t'), ('\t', '\t'), ('n', '\n'),
    ('v', '\x0b'), ('f', '\x0c'), ('r', '\r'), ('e', '\x1b'), (' ', ' '), ('"', '"'), ('/', '/'),
    ('\\', '\\'), ('N', '\u0085'), ('_', '\u00a0'), ('L', '\u2028'), ('P', '\u2029')].lookup c

/-- The number of digits of an escape by number. -/
def digitCount? (c : Char) : Option Nat := [('x', 2), ('u', 4), ('U', 8)].lookup c

/-- The character of a number. -/
def charOfNumber? (n : Nat) : Option Char := if n.isValidChar then some (Char.ofNat n) else none

/-- A scalar between double quotes, after the first of them. -/
def double (done : List Char) (gap : Gap) :
    Escape → List Mark → Option (List Char × List Mark)
  | _, [] => none
  | .none, m :: s =>
    if isSpace m.char then double done (gap.add m.char) .none s
    else if m.char == '"' then some ((gap.flush done).reverse, s)
    else if m.char == '\\' then double (gap.flush done) .none .begun s
    else double (m.char :: gap.flush done) .none .none s
  | .begun, m :: s =>
    if m.char == '\n' then double done .afterEscape .none s
    else match digitCount? m.char with
      | some n => double done .none (.number n 0) s
      | none =>
        match escaped? m.char with
        | some c => double (c :: done) .none .none s
        | none => none
  | .number left value, m :: s =>
    match Plain.digitIn? 16 m.char with
    | none => none
    | some d =>
      if left ≤ 1 then
        match charOfNumber? (value * 16 + d) with
        | some c => double (c :: done) .none .none s
        | none => none
      else double done .none (.number (left - 1) (value * 16 + d)) s

/-! ### Keys -/

/-- The scalar that begins here, and what follows it. -/
def scalar? (flow oneLine : Bool) (least : Nat) (s : List Mark) : Option (Node × List Mark) :=
  if startsWith '"' s then
    (double [] .none .none s.tail).map fun r => (.text (String.ofList r.1), r.2)
  else if startsWith '\'' s then
    (single [] .none s.tail).map fun r => (.text (String.ofList r.1), r.2)
  else if startsPlain flow s then
    (plain flow oneLine least [] .none s).map fun r => (.plain (String.ofList r.1), r.2)
  else none

/-- The text of a scalar. -/
def scalarText : Node → Option String
  | .text s => some s
  | .plain s => some s
  | _ => none

/-- There is no line end between a place and a later one. -/
def sameLine (s rest : List Mark) : Bool :=
  (s.take (s.length - rest.length)).all (·.char != '\n')

/-- The key that begins here: a scalar on one line with a colon after it, and what follows that. -/
def key? (flow : Bool) (s : List Mark) : Option (String × List Mark) := do
  let (n, rest) ← scalar? flow true 0 s
  let key ← scalarText n
  match rest.dropWhile fun m => isGap m.char with
  | m :: t =>
    if m.char == ':' && (flow || isEnd t) && sameLine s rest then some (key, t) else none
  | [] => none

end ImageDiscovery.Document.Yaml
