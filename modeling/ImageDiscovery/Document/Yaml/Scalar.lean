import ImageDiscovery.Document.Node

/-!
# Types of plain scalars

A plain scalar that is read without a wanted type is nothing, a truth value or a number if it looks
like one, and a text otherwise.

## Main definitions

* `Document.Plain.isFloat` — a scalar looks like a number with a fraction or exponent.
* `Document.Plain.isText` — a scalar looks like nothing but a text.
-/

namespace ImageDiscovery.Document.Plain

open Text

/-- The text without its leading digits, of which there may be none. -/
def afterDigits (s : List Char) : List Char := s.dropWhile isDigit

/-- An exponent, or the end of the text. -/
def isExponentOrEnd (s : List Char) : Bool :=
  match s with
  | [] => true
  | c :: s =>
    if c == 'e' || c == 'E' then
      let ds := match s with
        | '+' :: ds => ds
        | '-' :: ds => ds
        | ds => ds
      !ds.isEmpty && ds.all isDigit
    else false

/-- A number in base ten without its sign, with a fraction or an exponent or neither. -/
def isUnsignedDecimal (s : List Char) : Bool :=
  let whole := s.takeWhile isDigit
  match afterDigits s with
  | '.' :: t =>
    let fraction := t.takeWhile isDigit
    !(whole.isEmpty && fraction.isEmpty) && isExponentOrEnd (afterDigits t)
  | t => !whole.isEmpty && isExponentOrEnd t

/-- The text without a sign. -/
def withoutSign : List Char → List Char
  | '+' :: s => s
  | '-' :: s => s
  | s => s

/-- A number with superfluous zeros in front is a text. -/
def isZeroPadded (s : List Char) : Bool :=
  match withoutSign s with
  | '0' :: c :: t => (c :: t).all isDigit
  | _ => false

/-- The scalar looks like a floating-point number. -/
def isFloat (s : String) : Bool :=
  [".inf", ".Inf", ".INF", "+.inf", "+.Inf", "+.INF", "-.inf", "-.Inf", "-.INF", ".nan", ".NaN",
      ".NAN"].contains s ||
    (isUnsignedDecimal (withoutSign s.toList) && !isZeroPadded s.toList)

/-- The scalar looks like a text and like nothing else. -/
def isText (s : String) : Bool :=
  !isNull s && (bool? s).isNone && (integer? s).isNone && !isFloat s

end ImageDiscovery.Document.Plain
