import ImageDiscovery.Document.Node
import ImageDiscovery.Document.Dictionary
import ImageDiscovery.Document.Decimal
import ImageDiscovery.Document.Yaml.Scalar

/-!
# Reading values from documents

A reader takes a document value and yields what it stands for, or nothing where it does not fit.
Readers of records are built from readers of their fields: a field that the record does not know is
skipped, a field given twice is refused, and a field that is missing takes its default.

## Main definitions

* `Document.Reader` — a reader of values of a type.
* `Document.Fields` — the fields of a record, with `Fields.required`, `Fields.orDefault` and
  `Fields.optional` to read them.
* `Document.Node.record` — the fields of a record with given names.
-/

namespace ImageDiscovery.Document

/-- A reader of values of type `α`. -/
abbrev Reader (α : Type) := Node → Option α

/-- The fields of a record by their names. -/
abbrev Fields := String → Option Node

namespace Node

/-- The value is nothing. -/
def isNull : Node → Bool
  | null => true
  | plain s => Plain.isNull s
  | _ => false

/-- A text, which every scalar is. -/
def readText : Reader String
  | text s => some s
  | plain s => some s
  | _ => none

/-- A text, where a plain scalar is one only if it looks like nothing else. -/
def readTyped : Reader String
  | text s => some s
  | plain s => if Plain.isText s then some s else none
  | _ => none

/-- A truth value. -/
def readBool : Reader Bool
  | bool b => some b
  | plain s => Plain.bool? s
  | _ => none

/-- A whole number between two bounds. -/
def readInteger (least greatest : Int) (n : Node) : Option Int := do
  let i ← match n with
    | integer i => some i
    | plain s => Plain.integer? s
    | _ => none
  if least ≤ i ∧ i ≤ greatest then some i else none

/-- A signed number of 64 bits. -/
def readSigned : Reader Int := readInteger (-9223372036854775808) 9223372036854775807

/-- An unsigned number of 64 bits. -/
def readUnsigned (n : Node) : Option Nat :=
  (readInteger 0 18446744073709551615 n).map Int.toNat

/-- Nothing, or a value. -/
def readOption {α : Type} (read : Reader α) (n : Node) : Option (Option α) :=
  if n.isNull then some none else (read n).map some

/-- Values in order. An empty scalar stands for none. -/
def readList {α : Type} (read : Reader α) : Reader (List α)
  | array items => items.mapM read
  | sequence items => items.mapM read
  | plain s => if s.isEmpty then some [] else none
  | _ => none

/-- Values by key; of several values at a key the last one. An empty scalar stands for none. -/
def readDictionary {α : Type} (read : Reader α) : Reader (Dictionary α)
  | mapping entries => do
    return Dictionary.ofList (← entries.mapM fun e => do return (e.1, ← read e.2))
  | plain s => if s.isEmpty then some Dictionary.empty else none
  | _ => none

/-- One of several names, alone or as the only key of a mapping to nothing. -/
def readName {α : Type} (names : List (String × α)) : Reader α
  | text s => names.lookup s
  | plain s => names.lookup s
  | mapping [(s, null)] => names.lookup s
  | _ => none

/-- No key among the given names occurs twice. -/
def distinctAmong (names : List String) (entries : List (String × Node)) : Bool :=
  names.all fun name => (entries.filter fun e => e.1 == name).length ≤ 1

/-- The fields of a record that has fields of the given names in this order. -/
def record (names : List String) : Reader Fields
  | mapping entries =>
    if distinctAmong names entries then
      some fun name => if names.contains name then entries.lookup name else none
    else none
  | array items =>
    if items.length ≤ names.length then some fun name => (names.zip items).lookup name else none
  | plain s => if s.isEmpty then some fun _ => none else none
  | _ => none

mutual

/-- The value and all values within can be read, and are nested less than `depth` deep. -/
def isReadable (depth : Nat) : Node → Bool
  | unreadable => false
  | decimal literal => Decimal.isFinite literal
  | array items => 1 < depth && allReadable (depth - 1) items
  | sequence items => 1 < depth && allReadable (depth - 1) items
  | mapping entries => 1 < depth && allEntriesReadable (depth - 1) entries
  | _ => true

/-- All values of a list can be read. -/
def allReadable (depth : Nat) : List Node → Bool
  | [] => true
  | n :: ns => isReadable depth n && allReadable depth ns

/-- All values of the entries of a mapping can be read. -/
def allEntriesReadable (depth : Nat) : List (String × Node) → Bool
  | [] => true
  | e :: es => isReadable depth e.2 && allEntriesReadable depth es

end

/-- The deepest nesting of a value that is read as a whole. -/
def maxDepth : Nat := 128

/-- All fields of a mapping can be read, also those that a record does not know. -/
def fieldsReadable (n : Node) : Bool := n.isReadable maxDepth

/-- The fields of a record that is written by its keys only. -/
def keyedRecord (names : List String) (n : Node) : Option Fields :=
  match n with
  | array _ => none
  | n => n.record names

end Node

namespace Fields

/-- A field that has to be there. -/
def required {α : Type} (f : Fields) (name : String) (read : Reader α) : Option α :=
  f name >>= read

/-- A field with a default for where it is missing. -/
def orDefault {α : Type} (f : Fields) (name : String) (read : Reader α) (default : α) : Option α :=
  match f name with
  | some n => read n
  | none => some default

/-- A field that may be missing or nothing. -/
def optional {α : Type} (f : Fields) (name : String) (read : Reader α) : Option (Option α) :=
  f.orDefault name (Node.readOption read) none

end Fields

end ImageDiscovery.Document
