import ImageDiscovery.Document.Node

/-!
# Writing JSON

Document values are written on one line without spaces, or over several lines with an indentation
of two spaces a level. The entries of a mapping keep their order.

## Main definitions

* `Document.Json.quote` — a text between quotes.
* `Document.Json.compact` — a value on one line.
* `Document.Json.pretty` — a value over several lines.
-/

namespace ImageDiscovery.Document.Json

/-- The digits `0` to `f`. -/
def hexDigit (n : Nat) : Char := if n < 10 then Char.ofNat (0x30 + n) else Char.ofNat (0x57 + n)

/-- How a character stands between quotes: quotes, backslashes and control characters are
escaped. -/
def escape (c : Char) : List Char :=
  match c with
  | '"' => ['\\', '"']
  | '\\' => ['\\', '\\']
  | '\x08' => ['\\', 'b']
  | '\x0c' => ['\\', 'f']
  | '\n' => ['\\', 'n']
  | '\r' => ['\\', 'r']
  | '\t' => ['\\', 't']
  | c =>
    if c.toNat < 0x20 then
      ['\\', 'u', '0', '0', hexDigit (c.toNat / 16), hexDigit (c.toNat % 16)]
    else [c]

/-- A text between quotes. -/
def quote (s : String) : String := String.ofList ('"' :: s.toList.flatMap escape ++ ['"'])

/-- A value that is no array and no mapping. -/
def scalar : Node → String
  | .null => "null"
  | .bool true => "true"
  | .bool false => "false"
  | .integer i => toString i
  | .decimal literal => literal
  | .text s => quote s
  | .plain s => quote s
  | _ => "null"

mutual

/-- A value on one line. -/
def compact : Node → String
  | .array items => "[" ++ compactItems items ++ "]"
  | .sequence items => "[" ++ compactItems items ++ "]"
  | .mapping entries => "\x7b" ++ compactEntries entries ++ "\x7d"
  | n => scalar n

/-- The items of an array between commas. -/
def compactItems : List Node → String
  | [] => ""
  | [n] => compact n
  | n :: m :: ns => compact n ++ "," ++ compactItems (m :: ns)

/-- The entries of a mapping between commas. -/
def compactEntries : List (String × Node) → String
  | [] => ""
  | [(k, n)] => quote k ++ ":" ++ compact n
  | (k, n) :: e :: es => quote k ++ ":" ++ compact n ++ "," ++ compactEntries (e :: es)

end

/-- The beginning of a line at a depth. -/
def newLine (depth : Nat) : String := String.ofList ('\n' :: List.replicate (2 * depth) ' ')

mutual

/-- A value over several lines, its closing bracket at the given depth. Empty arrays and mappings
stay on one line. -/
def prettyAt (depth : Nat) : Node → String
  | .array [] => "[]"
  | .sequence [] => "[]"
  | .mapping [] => "\x7b\x7d"
  | .array items => "[" ++ prettyItems (depth + 1) items ++ newLine depth ++ "]"
  | .sequence items => "[" ++ prettyItems (depth + 1) items ++ newLine depth ++ "]"
  | .mapping entries => "\x7b" ++ prettyEntries (depth + 1) entries ++ newLine depth ++ "\x7d"
  | n => scalar n

/-- The items of an array, each on a line of its own. -/
def prettyItems (depth : Nat) : List Node → String
  | [] => ""
  | [n] => newLine depth ++ prettyAt depth n
  | n :: m :: ns => newLine depth ++ prettyAt depth n ++ "," ++ prettyItems depth (m :: ns)

/-- The entries of a mapping, each on a line of its own. -/
def prettyEntries (depth : Nat) : List (String × Node) → String
  | [] => ""
  | [(k, n)] => newLine depth ++ quote k ++ ": " ++ prettyAt depth n
  | (k, n) :: e :: es =>
    newLine depth ++ quote k ++ ": " ++ prettyAt depth n ++ "," ++ prettyEntries depth (e :: es)

end

/-- A value over several lines. -/
def pretty (n : Node) : String := prettyAt 0 n

end ImageDiscovery.Document.Json
