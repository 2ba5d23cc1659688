import ImageDiscovery.Document.Node
import ImageDiscovery.Text.Split
import ImageDiscovery.Pattern.Basic
import ImageDiscovery.Pattern.Engine

/-!
# Reading patterns

Patterns are written in the usual notation of regular expressions, without look-around and
back-references. Sets of characters follow Unicode unless the flag `u` is taken off. Flags hold from
where they are set to the end of the group around them.

Every parser consumes a list of characters; the recursion into groups is bounded by its length.

## Main definitions

* `Pattern.Flags` — what flags change.
* `Pattern.ofString?` — the pattern that a text writes.
* `Pattern.instPatternEngine` — the engine of the program.
-/

namespace ImageDiscovery.Pattern

open Text

/-- What flags change. -/
structure Flags where
  /-- `i`: letters stand for all of their case variants. -/
  ignoreCase : Bool
  /-- `m`: the start and end of the text are those of each line. -/
  multiLine : Bool
  /-- `s`: the dot matches line ends. -/
  dotAll : Bool
  /-- `R`: lines may end in a carriage return. -/
  anyLineEnd : Bool
  /-- `x`: white space and comments are skipped. -/
  verbose : Bool
  /-- `u`: named sets go beyond ASCII. -/
  unicode : Bool

/-- The flags at the beginning. -/
def Flags.initial : Flags := ⟨false, false, false, false, false, true⟩

/-- The flags with one of them set or taken off; `U` changes nothing that matters here. -/
def Flags.set? (f : Flags) (on : Bool) : Char → Option Flags
  | 'i' => some { f with ignoreCase := on }
  | 'm' => some { f with multiLine := on }
  | 's' => some { f with dotAll := on }
  | 'R' => some { f with anyLineEnd := on }
  | 'x' => some { f with verbose := on }
  | 'u' => some { f with unicode := on }
  | 'U' => some f
  | _ => none

/-! ### Characters and named sets -/

/-- A character by its number, if there is one. -/
def charOf? (n : Nat) : Option Char :=
  if n < 0xD800 || (0xDFFF < n && n < 0x110000) then some (Char.ofNat n) else none

/-- A character by hexadecimal digits: `width` of them, or any number in braces. -/
def hexChar (width : Nat) (s : List Char) : Option (Char × List Char) :=
  match s with
  | '{' :: s => do
    let (ds, rest) ← cut '}' s
    let n ← Document.Plain.natIn? 16 ds
    return (← charOf? n, rest)
  | s =>
    if s.length < width then none
    else do
      let n ← Document.Plain.natIn? 16 (s.take width)
      return (← charOf? n, s.drop width)

/-- A character that may be escaped to stand for itself. -/
def isEscapable (c : Char) : Bool :=
  c.toNat < 128 && !isLetterOrDigit c && c != '<' && c != '>'

/-- The character of an escape of one letter. -/
def letterEscape? : Char → Option Char
  | 'n' => some '\n'
  | 'r' => some '\r'
  | 't' => some '\t'
  | 'a' => some '\x07'
  | 'f' => some '\x0c'
  | 'v' => some '\x0b'
  | _ => none

/-- The ASCII ranges with a name. -/
def asciiSet? (name : String) : Option CharSet :=
  let ranges (rs : List (Char × Char)) : CharSet :=
    rs.foldl (fun s r => .union s (.range r.1 r.2)) .empty
  match name with
  | "alnum" => some (ranges [('0', '9'), ('A', 'Z'), ('a', 'z')])
  | "alpha" => some (ranges [('A', 'Z'), ('a', 'z')])
  | "ascii" => some (ranges [('\x00', '\x7f')])
  | "blank" => some (ranges [('\t', '\t'), (' ', ' ')])
  | "cntrl" => some (ranges [('\x00', '\x1f'), ('\x7f', '\x7f')])
  | "digit" => some (ranges [('0', '9')])
  | "graph" => some (ranges [('!', '~')])
  | "lower" => some (ranges [('a', 'z')])
  | "print" => some (ranges [(' ', '~')])
  | "punct" => some (ranges [('!', '/'), (':', '@'), ('[', '\x60'), ('\x7b', '~')])
  | "space" => some (ranges [('\t', '\r'), (' ', ' ')])
  | "upper" => some (ranges [('A', 'Z')])
  | "word" => some (ranges [('0', '9'), ('A', 'Z'), ('_', '_'), ('a', 'z')])
  | "xdigit" => some (ranges [('0', '9'), ('A', 'F'), ('a', 'f')])
  | _ => none

/-- A set closed under case variants, where the flags ask for it. -/
def Flags.fold (f : Flags) (s : CharSet) : CharSet := if f.ignoreCase then .folded s else s

/-- The set of `d`, `s` or `w`, or the complement for the letter in upper case. A complement within
ASCII would reach beyond characters and is refused. -/
def Flags.letterSet? (f : Flags) (c : Char) : Option CharSet :=
  let byLetter (set : NamedSet) (name : String) : Option CharSet :=
    if f.unicode then some (.named set) else asciiSet? name
  match c with
  | 'd' => byLetter .digit "digit"
  | 's' => byLetter .blank "space"
  | 'w' => byLetter .word "word"
  | 'D' => if f.unicode then some (.complement (.named .digit)) else none
  | 'S' => if f.unicode then some (.complement (.named .blank)) else none
  | 'W' => if f.unicode then some (.complement (.named .word)) else none
  | _ => none

/-- The name of a property without what does not matter in it. -/
def propertyKey (s : List Char) : String :=
  String.ofList (lower (s.filter fun c => !(c == ' ' || c == '-' || c == '_')))

/-- The set of a property by its name, which may name the kind of property before `=` or `:`. -/
def propertySet? (s : List Char) : Option CharSet :=
  let byKind (negated : Bool) (kind name : List Char) : Option CharSet :=
    if ["sc", "script", "scx", "scriptextensions", "gc", "generalcategory"].contains
        (propertyKey kind) then
      (NamedSet.byName.lookup (propertyKey name)).map fun set =>
        if negated then .complement (.named set) else .named set
    else none
  match cut '=' s with
  | some (kind, name) =>
    match kind.reverse with
    | '!' :: kind => byKind true kind.reverse name
    | _ => byKind false kind name
  | none =>
    match cut ':' s with
    | some (kind, name) => byKind false kind name
    | none => (NamedSet.byName.lookup (propertyKey s)).map .named

/-- A property after `\p` or `\P`: one letter, or a name in braces. -/
def Flags.property (f : Flags) (negated : Bool) (s : List Char) :
    Option (CharSet × List Char) := do
  if !f.unicode then none
  let (inverted, name, rest) ← match s with
    | '{' :: '^' :: s => (cut '}' s).map fun r => (true, r.1, r.2)
    | '{' :: s => (cut '}' s).map fun r => (false, r.1, r.2)
    | c :: s => some (false, [c], s)
    | [] => none
  let set := f.fold (← propertySet? name)
  return (if negated != inverted then .complement set else set, rest)

/-- What an escape stands for: a character, a set or a condition. -/
inductive Escape where
  | char (c : Char)
  | set (s : CharSet)
  | condition (c : Condition)

/-- The special word boundaries in braces after `\b`. -/
def specialBoundary (ascii : Bool) (s : List Char) : Condition × List Char :=
  match s with
  | '{' :: t =>
    match cut '}' t with
    | some (name, rest) =>
      match String.ofList name with
      | "start" => (.wordStart ascii, rest)
      | "end" => (.wordEnd ascii, rest)
      | "start-half" => (.noWordBefore ascii, rest)
      | "end-half" => (.noWordAfter ascii, rest)
      | _ => (.boundary ascii, s)
    | none => (.boundary ascii, s)
  | s => (.boundary ascii, s)

/-- What stands after a backslash. -/
def Flags.escape (f : Flags) (s : List Char) : Option (Escape × List Char) :=
  match s with
  | [] => none
  | c :: s =>
    if isEscapable c then some (.char c, s)
    else
      match letterEscape? c, f.letterSet? c with
      | some d, _ => some (.char d, s)
      | none, some set => some (.set set, s)
      | none, none =>
        match c with
        | 'x' => (hexChar 2 s).map fun r => (.char r.1, r.2)
        | 'u' => (hexChar 4 s).map fun r => (.char r.1, r.2)
        | 'U' => (hexChar 8 s).map fun r => (.char r.1, r.2)
        | 'p' => (f.property false s).map fun r => (.set r.1, r.2)
        | 'P' => (f.property true s).map fun r => (.set r.1, r.2)
        | 'A' => some (.condition .textStart, s)
        | 'z' => some (.condition .textEnd, s)
        | 'b' =>
          let r := specialBoundary (!f.unicode) s
          some (.condition r.1, r.2)
        | 'B' => if f.unicode then some (.condition (.noBoundary false), s) else none
        | '<' => some (.condition (.wordStart (!f.unicode)), s)
        | '>' => some (.condition (.wordEnd (!f.unicode)), s)
        | _ => none

/-! ### Sets in brackets -/

/-- The white space and the comments that the flag `x` skips. -/
def skipVerbose (inComment : Bool) : List Char → List Char
  | [] => []
  | c :: s =>
    if inComment then skipVerbose (c != '\n') s
    else if isBlank c then skipVerbose false s
    else if c == '#' then skipVerbose true s
    else c :: s

/-- The text from the next character that counts on. -/
def Flags.skip (f : Flags) (s : List Char) : List Char :=
  if f.verbose then skipVerbose false s else s

/-- A named ASCII set between `[:` and `:]`, whose opening is already read. -/
def asciiName (s : List Char) : Option (CharSet × List Char) := do
  let (negated, s) := match s with
    | '^' :: s => (true, s)
    | s => (false, s)
  let (name, rest) ← cut ':' s
  let rest ← match rest with
    | ']' :: rest => some rest
    | _ => none
  let set ← asciiSet? (String.ofList name)
  return (if negated then .complement set else set, rest)

/-- One character or set within brackets, not itself in brackets. -/
def Flags.bracketItem (f : Flags) (s : List Char) :
    Option ((Char ⊕ CharSet) × List Char) :=
  match s with
  | [] => none
  | '\\' :: s =>
    match f.escape s with
    | some (.char c, rest) => some (.inl c, rest)
    | some (.set set, rest) => some (.inr set, rest)
    | _ => none
  | c :: s => some (.inl c, s)

/-- One item or range within brackets, not itself in brackets. -/
def Flags.bracketRange (f : Flags) (s : List Char) : Option (CharSet × List Char) := do
  let (item, rest) ← f.bracketItem s
  let rest := f.skip rest
  let alone : CharSet := match item with
    | .inl c => .single c
    | .inr set => set
  match rest with
  | '-' :: t =>
    match f.skip t with
    | ']' :: _ => return (alone, rest)
    | '-' :: _ => return (alone, rest)
    | [] => none
    | t => do
      let (last, rest) ← f.bracketItem t
      match item, last with
      | .inl a, .inl b => if a ≤ b then return (.range a b, rest) else none
      | _, _ => none
  | _ => return (alone, rest)

/-- The operations on sets within brackets. -/
inductive SetOperation where
  | intersection | difference | symmetricDifference

/-- The result of an operation. -/
def SetOperation.apply : SetOperation → CharSet → CharSet → CharSet
  | intersection => .intersection
  | difference => .difference
  | symmetricDifference => .symmetricDifference

/-- The set so far: the operand of a pending operation, and the union after it. -/
structure Brackets where
  pending : Option (CharSet × SetOperation)
  union : CharSet

/-- The set in which the pending operation is carried out. -/
def Brackets.close (f : Flags) (b : Brackets) : CharSet :=
  match b.pending with
  | none => f.fold b.union
  | some (left, op) => op.apply left (f.fold b.union)

mutual

/-- The rest of a set in brackets up to the closing one. -/
def bracketsWithin (f : Flags) (fuel : Nat) (b : Brackets) (s : List Char) :
    Option (CharSet × List Char) :=
  match fuel with
  | 0 => none
  | fuel + 1 =>
    let add (set : CharSet) (rest : List Char) : Option (CharSet × List Char) :=
      bracketsWithin f fuel { b with union := .union b.union set } rest
    let operate (op : SetOperation) (rest : List Char) : Option (CharSet × List Char) :=
      bracketsWithin f fuel ⟨some (b.close f, op), .empty⟩ rest
    match f.skip s with
    | [] => none
    | ']' :: rest => some (b.close f, rest)
    | '[' :: ':' :: rest =>
      match asciiName rest with
      | some (set, rest) => add set rest
      | none => do
        let (set, rest) ← openWithin f fuel (':' :: rest)
        add set rest
    | '[' :: rest => do
      let (set, rest) ← openWithin f fuel rest
      add set rest
    | '&' :: '&' :: rest => operate .intersection rest
    | '-' :: '-' :: rest => operate .difference rest
    | '~' :: '~' :: rest => operate .symmetricDifference rest
    | s => do
      let (set, rest) ← f.bracketRange s
      add set rest

/-- A set in brackets whose opening one is already read. Hyphens and a closing bracket at the
beginning stand for themselves. -/
def openWithin (f : Flags) (fuel : Nat) (s : List Char) : Option (CharSet × List Char) :=
  match fuel with
  | 0 => none
  | fuel + 1 => do
    let s := f.skip s
    let (negated, s) := match s with
      | '^' :: s => (true, f.skip s)
      | s => (false, s)
    let hyphens := s.takeWhile (· == '-')
    let s := s.dropWhile (· == '-')
    let first : CharSet := if hyphens.isEmpty then .empty else .single '-'
    let (first, s) := match hyphens, s with
      | [], ']' :: s => (.single ']', s)
      | _, s => (first, s)
    let (set, rest) ← bracketsWithin f fuel ⟨none, first⟩ s
    if negated && !f.unicode then none
    return (if negated then .complement set else set, rest)

end

/-! ### Groups -/

/-- A letter, a digit, or one of the marks that the name of a group may have. -/
def isNameChar (first : Bool) (c : Char) : Bool :=
  c == '_' || Unicode.letter.contains c ||
    (!first && (Unicode.number.contains c || c == '.' || c == '[' || c == ']'))

/-- The name of a group. -/
def isName (s : List Char) : Bool :=
  match s with
  | [] => false
  | c :: s => isNameChar true c && s.all (isNameChar false)

/-- Flags up to `:` or `)`, which is returned with what follows it; `seen` are the letters before.
A hyphen takes the flags after it off. -/
def readFlags (f : Flags) (on : Bool) (seen : List Char) :
    List Char → Option (Flags × Char × List Char)
  | [] => none
  | c :: s =>
    if c == ':' || c == ')' then
      if seen.head? == some '-' || (c == ')' && seen.isEmpty) then none else some (f, c, s)
    else if seen.contains c then none
    else if c == '-' then readFlags f false (c :: seen) s
    else
      match f.set? on c with
      | some f => readFlags f on (c :: seen) s
      | none => none

/-- What opens a group: a group with flags of its own, or flags for the rest of the group around. -/
inductive Opening where
  | group (flags : Flags) (name : Option (List Char))
  | flags (flags : Flags)

/-- The opening of a group after its parenthesis. -/
def opening (f : Flags) (s : List Char) : Option (Opening × List Char) :=
  let named (s : List Char) : Option (Opening × List Char) := do
    let (name, rest) ← cut '>' s
    if isName name then some (.group f (some name), rest) else none
  match s with
  | '?' :: 'P' :: '<' :: s => named s
  | '?' :: '<' :: c :: s => if c == '=' || c == '!' then none else named (c :: s)
  | '?' :: s => do
    let (g, c, rest) ← readFlags f true [] s
    return (if c == ':' then .group g none else .flags g, rest)
  | s => some (.group f none, s)

/-! ### Repetitions -/

/-- A number in braces, with white space around it. -/
def count (s : List Char) : Option (Nat × List Char) :=
  let s := trimStart s
  match s.takeWhile isDigit with
  | [] => none
  | ds =>
    if 4294967295 < valueOfDigits ds then none
    else some (valueOfDigits ds, trimStart (s.dropWhile isDigit))

/-- The bounds of a repetition after its brace. -/
def bounds (s : List Char) : Option ((Nat × Option Nat) × List Char) := do
  let (least, rest) ← count s
  match rest with
  | '}' :: rest => return ((least, some least), rest)
  | ',' :: rest =>
    match trimStart rest with
    | '}' :: rest => return ((least, none), rest)
    | rest => do
      let (most, rest) ← count rest
      match rest with
      | '}' :: rest => if least ≤ most then return ((least, some most), rest) else none
      | _ => none
  | _ => none

/-- The text without the question mark that makes a repetition prefer few rounds. -/
def skipLazy : List Char → List Char
  | '?' :: s => s
  | s => s

/-! ### Patterns -/

/-- The dot. Without Unicode it would match half of a character and is refused. -/
def Flags.dot? (f : Flags) : Option CharSet :=
  if !f.unicode then none
  else if f.dotAll then some (.named .any)
  else if f.anyLineEnd then some (.complement (.union (.single '\n') (.single '\r')))
  else some (.complement (.single '\n'))

/-- A character that stands for itself. -/
def Flags.literal (f : Flags) (c : Char) : Pattern := .char (f.fold (.single c))

/-- A sequence or choice in progress. -/
structure Building where
  flags : Flags
  /-- The names of groups seen so far. -/
  names : List (List Char)
  /-- The alternatives already completed. -/
  choices : Option Pattern
  /-- The items of the current alternative, the latest first, each with whether it can be
  repeated. -/
  items : List (Pattern × Bool)

namespace Building

/-- With one more item. -/
def push (b : Building) (p : Pattern) : Building := { b with items := (p, true) :: b.items }

/-- The items in order, as one pattern. -/
def sequence (b : Building) : Pattern :=
  b.items.foldl (fun rest p => if rest = .nothing then p.1 else .seq p.1 rest) .nothing

/-- All alternatives, as one pattern. -/
def close (b : Building) : Pattern :=
  match b.choices with
  | none => b.sequence
  | some p => .alt p b.sequence

/-- The last item repeated; there has to be one. -/
def repeated (b : Building) (least : Nat) (most : Option Nat) : Option Building :=
  match b.items with
  | (p, true) :: items => some { b with items := (.times p least most, true) :: items }
  | _ => none

end Building

/-- The pattern up to the end of the group or of the text. The last part of the answer are the names
of groups, and whether a closing parenthesis was read. -/
def within (fuel : Nat) (b : Building) (s : List Char) :
    Option (Pattern × List (List Char) × Bool × List Char) :=
  match fuel with
  | 0 => none
  | fuel + 1 =>
    match b.flags.skip s with
    | [] => some (b.close, b.names, false, [])
    | ')' :: rest => some (b.close, b.names, true, rest)
    | '|' :: rest => within fuel { b with choices := some b.close, items := [] } rest
    | '(' :: rest => do
      let (o, rest) ← opening b.flags rest
      match o with
      | .flags f => within fuel { b with flags := f, items := (.nothing, false) :: b.items } rest
      | .group f name => do
        let names ← match name with
          | none => some b.names
          | some n => if b.names.contains n then none else some (n :: b.names)
        let (p, names, closed, rest) ← within fuel ⟨f, names, none, []⟩ rest
        if closed then within fuel { b.push p with names := names } rest else none
    | '[' :: rest => do
      let (set, rest) ← openWithin b.flags (2 * rest.length + 1) rest
      within fuel (b.push (.char set)) rest
    | '*' :: rest => do within fuel (← b.repeated 0 none) (skipLazy rest)
    | '+' :: rest => do within fuel (← b.repeated 1 none) (skipLazy rest)
    | '?' :: rest => do within fuel (← b.repeated 0 (some 1)) (skipLazy rest)
    | '{' :: rest => do
      let ((least, most), rest) ← bounds rest
      within fuel (← b.repeated least most) (skipLazy rest)
    | '.' :: rest => do within fuel (b.push (.char (← b.flags.dot?))) rest
    | '^' :: rest =>
      let c : Condition :=
        if b.flags.multiLine then .lineStart b.flags.anyLineEnd else .textStart
      within fuel (b.push (.condition c)) rest
    | '$' :: rest =>
      let c : Condition := if b.flags.multiLine then .lineEnd b.flags.anyLineEnd else .textEnd
      within fuel (b.push (.condition c)) rest
    | '\\' :: rest => do
      let (e, rest) ← b.flags.escape rest
      let p : Pattern := match e with
        | .char c => b.flags.literal c
        | .set set => .char set
        | .condition c => .condition c
      within fuel (b.push p) rest
    | c :: rest => within fuel (b.push (b.flags.literal c)) rest

/-- The pattern that a text writes, if its automaton is not too large. -/
def ofString? (s : String) : Option Pattern := do
  let (p, _, closed, _) ← within (s.length + 1) ⟨Flags.initial, [], none, []⟩ s.toList
  if closed || weightLimit < p.weight then none else some p

/-- The engine of the program: it reads patterns by this notation and matches them by
derivatives. -/
instance instPatternEngine : PatternEngine where
  Compiled := Pattern
  compile? := ofString?
  occursIn := occursIn

end ImageDiscovery.Pattern
