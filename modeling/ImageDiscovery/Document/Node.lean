import ImageDiscovery.Text.Decimal

/-!
# Document values

Documents are exchanged as text in two formats, and both are read into one kind of value, a
`Document.Node`. The format with typed values yields nothing, truth values, numbers, texts, arrays
and mappings. The format with scalars yields texts where a scalar is quoted, and otherwise plain
scalars, whose type is decided by what a reader asks for.

## Main definitions

* `Document.Node` — a value of a document.
* `Document.Plain` — what a plain scalar may stand for.
-/

namespace ImageDiscovery.Document

open Text

/-- A value of a document. -/
inductive Node where
  /-- No value. -/
  | null
  /-- A truth value. -/
  | bool (value : Bool)
  /-- A number written without fraction, exponent or a minus sign before zero. -/
  | integer (value : Int)
  /-- Any other number, by its literal. -/
  | decimal (literal : String)
  /-- A text. -/
  | text (value : String)
  /-- A value that can be skipped and not read: it holds half of a surrogate pair. -/
  | unreadable
  /-- Values in order, which may also stand for the fields of a record in order. -/
  | array (items : List Node)
  /-- Values by key, in the order in which they are written. -/
  | mapping (entries : List (String × Node))
  /-- A scalar without quotes, whose type is left open. -/
  | plain (scalar : String)
  /-- Values in order, which never stand for a record. -/
  | sequence (items : List Node)
  deriving Inhabited

namespace Plain

/-- The spellings of nothing. An empty scalar is nothing too. -/
def isNull (s : String) : Bool := ["", "~", "null", "Null", "NULL"].contains s

/-- The truth value of a plain scalar. -/
def bool? (s : String) : Option Bool :=
  if ["true", "True", "TRUE"].contains s then some true
  else if ["false", "False", "FALSE"].contains s then some false
  else none

/-- The value of a digit in a base up to sixteen. -/
def digitIn? (base : Nat) (c : Char) : Option Nat :=
  let value :=
    if isDigit c then c.toNat - 0x30
    else if 0x61 ≤ c.toNat && c.toNat ≤ 0x66 then c.toNat - 0x61 + 10
    else if 0x41 ≤ c.toNat && c.toNat ≤ 0x46 then c.toNat - 0x41 + 10
    else base
  if value < base then some value else none

/-- The number that digits write in a base. -/
def natIn? (base : Nat) (s : List Char) : Option Nat :=
  if s.isEmpty then none
  else s.foldl (fun n? c => do return base * (← n?) + (← digitIn? base c)) (some 0)

/-- A number written in base sixteen, eight or two, after `0x`, `0o` or `0b`. -/
def based? : List Char → Option Nat
  | '0' :: 'x' :: s => natIn? 16 s
  | '0' :: 'o' :: s => natIn? 8 s
  | '0' :: 'b' :: s => natIn? 2 s
  | _ => none

/-- A number in base ten; one with a superfluous zero in front is none. -/
def decimal? : List Char → Option Nat
  | '0' :: c :: s => if isDigit c && s.all isDigit then none else natIn? 10 ('0' :: c :: s)
  | s => natIn? 10 s

/-- The number that a plain scalar writes, with an optional sign. -/
def integer? (s : String) : Option Int :=
  match s.toList with
  | '-' :: t => (((based? t).orElse fun _ => decimal? t)).map fun n => -(n : Int)
  | '+' :: t => (((based? t).orElse fun _ => decimal? t)).map Int.ofNat
  | t => (((based? t).orElse fun _ => decimal? t)).map Int.ofNat

end Plain

namespace Node

/-- The value at a key of a mapping; of several values the last one. -/
def get? (n : Node) (key : String) : Option Node :=
  match n with
  | mapping entries => entries.foldl (fun found e => if e.1 = key then some e.2 else found) none
  | _ => none

/-- An optional field of a mapping, left out where it is absent. -/
def field? (key : String) (value : Option Node) : List (String × Node) :=
  match value with
  | some v => [(key, v)]
  | none => []

end Node

end ImageDiscovery.Document
