import ImageDiscovery.Document.Node

/-!
# Reading JSON

The grammar of JSON, read from a list of characters into a `Document.Node`. A text is one value with
white space around it; nothing may follow it. Numbers keep their literal unless they are whole, and
a text with half of a surrogate pair can be skipped but not read.

Every parser returns what it read and the rest of the characters. The recursion into arrays and
mappings is bounded by the number of characters, which each step shortens.

## Main definitions

* `Document.Json.value` — one value at the beginning of a text.
* `Document.Json.read` — the value that a text writes.
-/

namespace ImageDiscovery.Document.Json

open Text

/-- The white space between tokens. -/
def isSpace (c : Char) : Bool := c == ' ' || c == '\n' || c == '\t' || c == '\r'

/-- The text from its first token on. -/
def skipSpace (s : List Char) : List Char := s.dropWhile isSpace

/-! ### Texts -/

/-- A unit of a quoted text: a character, or a 16-bit unit given by its number. -/
inductive Unit16 where
  | char (c : Char)
  | code (n : Nat)

/-- The number that four hexadecimal digits write, and what follows them. -/
def hex4 : List Char → Option (Nat × List Char)
  | a :: b :: c :: d :: s => do
    let digit := Plain.digitIn? 16
    return (((← digit a) * 16 + (← digit b)) * 256 + ((← digit c) * 16 + (← digit d)), s)
  | _ => none

/-- The character of a one-letter escape. -/
def escaped? : Char → Option Char
  | '"' => some '"'
  | '\\' => some '\\'
  | '/' => some '/'
  | 'b' => some '\x08'
  | 'f' => some '\x0c'
  | 'n' => some '\n'
  | 'r' => some '\r'
  | 't' => some '\t'
  | _ => none

/-- The units of a quoted text whose opening quote is already read. -/
def units : List Char → Option (List Unit16 × List Char)
  | [] => none
  | '"' :: s => some ([], s)
  | '\\' :: 'u' :: a :: b :: c :: d :: s => do
    let (n, _) ← hex4 [a, b, c, d]
    let (us, rest) ← units s
    return (.code n :: us, rest)
  | '\\' :: e :: s => do
    let c ← escaped? e
    let (us, rest) ← units s
    return (.char c :: us, rest)
  | c :: s =>
    if c.toNat < 0x20 || c == '\\' then none
    else do
      let (us, rest) ← units s
      return (.char c :: us, rest)

/-- The text that units write; half of a surrogate pair writes none. -/
def join : List Unit16 → Option (List Char)
  | [] => some []
  | .char c :: us => (join us).map (c :: ·)
  | .code n :: us =>
    if 0xD800 ≤ n && n ≤ 0xDBFF then
      match us with
      | .code m :: us =>
        if 0xDC00 ≤ m && m ≤ 0xDFFF then
          (join us).map (Char.ofNat (0x10000 + (n - 0xD800) * 0x400 + (m - 0xDC00)) :: ·)
        else none
      | _ => none
    else if 0xDC00 ≤ n && n ≤ 0xDFFF then none
    else (join us).map (Char.ofNat n :: ·)

/-- A quoted text whose opening quote is already read; `none` in place of a text that is only half
written. -/
def quoted (s : List Char) : Option (Option String × List Char) := do
  let (us, rest) ← units s
  return ((join us).map String.ofList, rest)

/-! ### Numbers -/

/-- The digits at the beginning of a text, of which there has to be one, and what follows them. -/
def digits (s : List Char) : Option (List Char × List Char) :=
  match s.takeWhile isDigit with
  | [] => none
  | ds => some (ds, s.dropWhile isDigit)

/-- A fraction, if there is one, with its point. -/
def fraction : List Char → Option (List Char × List Char)
  | '.' :: s => do
    let (ds, rest) ← digits s
    return ('.' :: ds, rest)
  | s => some ([], s)

/-- An exponent, if there is one, with its mark and sign. -/
def exponent : List Char → Option (List Char × List Char)
  | [] => some ([], [])
  | c :: s =>
    if c == 'e' || c == 'E' then
      match s with
      | '+' :: s => (digits s).map fun r => ('e' :: '+' :: r.1, r.2)
      | '-' :: s => (digits s).map fun r => ('e' :: '-' :: r.1, r.2)
      | s => (digits s).map fun r => ('e' :: r.1, r.2)
    else some ([], c :: s)

/-- A number without its sign. No digit may follow a leading zero. -/
def unsigned (negative : Bool) (s : List Char) : Option (Node × List Char) := do
  let (ds, rest) ← digits s
  if ds.head? == some '0' && ds.length > 1 then none
  let (fs, rest) ← fraction rest
  let (es, rest) ← exponent rest
  if fs.isEmpty && es.isEmpty && !(negative && valueOfDigits ds == 0) then
    let n : Int := valueOfDigits ds
    return (.integer (if negative then -n else n), rest)
  else
    return (.decimal (String.ofList ((if negative then ['-'] else []) ++ ds ++ fs ++ es)), rest)

/-- A number. -/
def number : List Char → Option (Node × List Char)
  | '-' :: s => unsigned true s
  | s => unsigned false s

/-! ### Values -/

mutual

/-- One value at the beginning of a text that starts with a token. -/
def valueWithin (fuel : Nat) (s : List Char) : Option (Node × List Char) :=
  match fuel with
  | 0 => none
  | fuel + 1 =>
    match s with
    | 'n' :: 'u' :: 'l' :: 'l' :: s => some (.null, s)
    | 't' :: 'r' :: 'u' :: 'e' :: s => some (.bool true, s)
    | 'f' :: 'a' :: 'l' :: 's' :: 'e' :: s => some (.bool false, s)
    | '"' :: s => do
      let (t, rest) ← quoted s
      return (match t with
        | some t => .text t
        | none => .unreadable, rest)
    | '[' :: s =>
      match skipSpace s with
      | ']' :: rest => some (.array [], rest)
      | s => do
        let (items, rest) ← itemsWithin fuel s
        return (.array items, rest)
    | '{' :: s =>
      match skipSpace s with
      | '}' :: rest => some (.mapping [], rest)
      | s => do
        let (entries, rest) ← entriesWithin fuel s
        return (match entries.mapM fun e => e.1.map (·, e.2) with
          | some es => .mapping es
          | none => .unreadable, rest)
    | s => number s

/-- The items of an array up to its closing bracket. -/
def itemsWithin (fuel : Nat) (s : List Char) : Option (List Node × List Char) :=
  match fuel with
  | 0 => none
  | fuel + 1 => do
    let (n, rest) ← valueWithin fuel s
    match skipSpace rest with
    | ',' :: rest =>
      let (ns, rest) ← itemsWithin fuel (skipSpace rest)
      return (n :: ns, rest)
    | ']' :: rest => return ([n], rest)
    | _ => none

/-- The entries of a mapping up to its closing brace. -/
def entriesWithin (fuel : Nat) (s : List Char) :
    Option (List (Option String × Node) × List Char) :=
  match fuel with
  | 0 => none
  | fuel + 1 =>
    match s with
    | '"' :: s => do
      let (key, rest) ← quoted s
      match skipSpace rest with
      | ':' :: rest =>
        let (n, rest) ← valueWithin fuel (skipSpace rest)
        match skipSpace rest with
        | ',' :: rest =>
          let (es, rest) ← entriesWithin fuel (skipSpace rest)
          return ((key, n) :: es, rest)
        | '}' :: rest => return ([(key, n)], rest)
        | _ => none
      | _ => none
    | _ => none

end

/-- One value at the beginning of a text, and what follows it. -/
def value (s : List Char) : Option (Node × List Char) :=
  valueWithin (2 * s.length + 1) (skipSpace s)

/-- The value that a text writes, with nothing but white space around it. -/
def read (s : String) : Option Node := do
  let (n, rest) ← value s.toList
  if (skipSpace rest).isEmpty then some n else none

end ImageDiscovery.Document.Json
