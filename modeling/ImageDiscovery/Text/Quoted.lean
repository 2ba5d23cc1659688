import ImageDiscovery.Unicode.Printable

/-!
# Quoted text

A text is quoted for the eyes of a developer: quotes and backslashes are escaped, tabs and line ends
have escapes of their own, and every other character that cannot be seen is written by its number.

## Main definitions

* `Text.quoted` — a text between quotes.
-/

namespace ImageDiscovery.Text

/-- How a character stands between quotes. -/
def quotedChar (c : Char) : List Char :=
  match c with
  | '\x00' => ['\\', '0']
  | '\t' => ['\\', 't']
  | '\n' => ['\\', 'n']
  | '\r' => ['\\', 'r']
  | '"' => ['\\', '"']
  | '\\' => ['\\', '\\']
  | c =>
    if Unicode.unprintable.contains c then
      ['\\', 'u', '\x7b'] ++ Nat.toDigits 16 c.toNat ++ ['\x7d']
    else [c]

/-- A text between quotes. -/
def quoted (s : String) : String := String.ofList ('"' :: s.toList.flatMap quotedChar ++ ['"'])

end ImageDiscovery.Text
