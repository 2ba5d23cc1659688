import ImageDiscovery.Document.Yaml.ScalarText

/-!
# Reading YAML

A document is one value. Block structures are told by columns: the entries of a mapping and the
items of a sequence stand at one column each, and what belongs to an entry stands further to the
right. Only the items of a sequence may stand at the column of the key that they belong to. Flow
structures are told by brackets, and hold values as JSON does. Scalars keep whether they are plain,
since it is for the reader of a plain scalar to say what it stands for; where a value is missing, it
is an empty plain scalar.

Block scalars, anchors, tags and keys marked as such are not read. The recursion is bounded by the
number of characters: at most three calls are made until a character is taken.

## Main definitions

* `Document.Yaml.blockNode` — a value that is told by columns.
* `Document.Yaml.flowNode` — a value on its own or between brackets.
* `Document.Yaml.read` — the value that a text writes.
-/

namespace ImageDiscovery.Document.Yaml

open Text

/-- The value of what is not there. -/
def missing : Node := .plain ""

/-- An item begins here. -/
def startsItem (s : List Mark) : Bool := startsWith '-' s && isEnd s.tail

mutual

/-- A scalar, or a value between brackets, and what follows it. Outside of brackets the lines of a
plain scalar have to begin at column `least` or later. -/
def flowNode (fuel : Nat) (flow : Bool) (least : Nat) (s : List Mark) :
    Option (Node × List Mark) :=
  match fuel with
  | 0 => none
  | fuel + 1 =>
    if startsWith '[' s then do
      let (ns, rest) ← flowItems fuel (skipFlow s.tail)
      return (.sequence ns, rest)
    else if startsWith '{' s then do
      let (es, rest) ← flowEntries fuel (skipFlow s.tail)
      return (.mapping es, rest)
    else scalar? flow false least s

/-- The value of a key within brackets. -/
def flowValue (fuel : Nat) (s : List Mark) : Option (Node × List Mark) :=
  match fuel with
  | 0 => none
  | fuel + 1 =>
    if [',', ']', '}'].any (startsWith · s) then some (missing, s) else flowNode fuel true 0 s

/-- One item between brackets, which may be a single entry of a mapping. -/
def flowItem (fuel : Nat) (s : List Mark) : Option (Node × List Mark) :=
  match fuel with
  | 0 => none
  | fuel + 1 =>
    match key? true s with
    | some (key, rest) => do
      let (n, rest) ← flowValue fuel (skipFlow rest)
      return (.mapping [(key, n)], rest)
    | none => flowNode fuel true 0 s

/-- The items up to the closing bracket. A comma may stand before it. -/
def flowItems (fuel : Nat) (s : List Mark) : Option (List Node × List Mark) :=
  match fuel with
  | 0 => none
  | fuel + 1 =>
    if startsWith ']' s then some ([], s.tail)
    else do
      let (n, rest) ← flowItem fuel s
      let rest := skipFlow rest
      if startsWith ',' rest then
        let (ns, rest) ← flowItems fuel (skipFlow rest.tail)
        return (n :: ns, rest)
      else if startsWith ']' rest then return ([n], rest.tail)
      else none

/-- One entry between braces: a key with its value, or a key alone. -/
def flowEntry (fuel : Nat) (s : List Mark) : Option ((String × Node) × List Mark) :=
  match fuel with
  | 0 => none
  | fuel + 1 =>
    match key? true s with
    | some (key, rest) => do
      let (n, rest) ← flowValue fuel (skipFlow rest)
      return ((key, n), rest)
    | none => do
      let (n, rest) ← scalar? true false 0 s
      return ((← scalarText n, missing), rest)

/-- The entries up to the closing brace. A comma may stand before it. -/
def flowEntries (fuel : Nat) (s : List Mark) : Option (List (String × Node) × List Mark) :=
  match fuel with
  | 0 => none
  | fuel + 1 =>
    if startsWith '}' s then some ([], s.tail)
    else do
      let (e, rest) ← flowEntry fuel s
      let rest := skipFlow rest
      if startsWith ',' rest then
        let (es, rest) ← flowEntries fuel (skipFlow rest.tail)
        return (e :: es, rest)
      else if startsWith '}' rest then return ([e], rest.tail)
      else none

end

mutual

/-- A value whose token stands at column `least` or later; any other token is not part of it. -/
def blockNode (fuel least : Nat) (fresh : Bool) (s : List Mark) : Option (Node × List Mark) :=
  match fuel with
  | 0 => none
  | fuel + 1 =>
    match s with
    | [] => some (missing, [])
    | m :: t =>
      if m.column < least then some (missing, m :: t)
      else if fresh && startsItem (m :: t) then do
        let (ns, rest) ← blockItems fuel m.column (m :: t)
        return (.sequence ns, rest)
      else if fresh && (key? false (m :: t)).isSome then do
        let (es, rest) ← blockEntries fuel m.column (m :: t)
        return (.mapping es, rest)
      else flowNode fuel false least (m :: t)

/-- The items that stand at a column. -/
def blockItems (fuel column : Nat) (s : List Mark) : Option (List Node × List Mark) :=
  match fuel with
  | 0 => none
  | fuel + 1 =>
    match s with
    | [] => some ([], [])
    | m :: t =>
      if m.column = column && startsItem (m :: t) then do
        let (n, rest) ← blockNode fuel (column + 1) true (skip true t).1
        let (ns, rest) ← blockItems fuel column (skip false rest).1
        return (n :: ns, rest)
      else if column < m.column then none
      else some ([], m :: t)

/-- The entries whose keys stand at a column. -/
def blockEntries (fuel column : Nat) (s : List Mark) : Option (List (String × Node) × List Mark) :=
  match fuel with
  | 0 => none
  | fuel + 1 =>
    match s with
    | [] => some ([], [])
    | m :: t =>
      if m.column < column then some ([], m :: t)
      else if column < m.column then none
      else do
        let (key, rest) ← key? false (m :: t)
        let (rest, fresh) := skip false rest
        let (n, rest) ← blockValue fuel column fresh rest
        let (es, rest) ← blockEntries fuel column (skip false rest).1
        return ((key, n) :: es, rest)

/-- The value of a key that stands at a column. -/
def blockValue (fuel column : Nat) (fresh : Bool) (s : List Mark) : Option (Node × List Mark) :=
  match fuel with
  | 0 => none
  | fuel + 1 =>
    if fresh && s.head?.any (·.column == column) && startsItem s then do
      let (ns, rest) ← blockItems fuel column s
      return (.sequence ns, rest)
    else blockNode fuel (column + 1) fresh s

end

/-- The value that the lines of one document write. -/
def readLines (lines : List (List Char)) (fresh : Bool) : Option Node := do
  let s := marks (join '\n' lines)
  let (s, fresh) := skip fresh s
  let (n, rest) ← blockNode (3 * s.length + 3) 0 fresh s
  if (skip false rest).1.isEmpty then some n else none

/-- The value that a text writes. -/
def read (s : String) : Option Node := do
  let cs := match s.toList with
    | '\uFEFF' :: cs => cs
    | cs => cs
  if !cs.all isAllowed then none
  let (lines, fresh) ← body (split '\n' (unifyLineEnds cs))
  readLines lines fresh

end ImageDiscovery.Document.Yaml
