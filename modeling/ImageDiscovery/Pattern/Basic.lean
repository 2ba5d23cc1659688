import ImageDiscovery.Pattern.CharSet

/-!
# Patterns of text

A pattern is a regular expression with conditions on the characters around a position. Whether it
occurs in a text is decided by partial derivatives: at every position there is a list of patterns
of which one still has to be completed, and a character leads from each of them to the patterns that
remain after it.

## Main definitions

* `Pattern` — a regular expression.
* `Pattern.acceptsEmpty` — whether a pattern is complete at a position.
* `Pattern.after` — what remains of a pattern after a character.
* `Pattern.occursIn` — whether a pattern occurs anywhere in a text.
* `Pattern.weight` — how much room the pattern takes in an automaton over bytes.
-/

namespace ImageDiscovery

open Pattern

namespace Pattern

/-- The characters on both sides of a position in a text. -/
structure Position where
  previous : Option Char
  next : Option Char

/-- A condition on a position. -/
inductive Condition where
  | textStart
  | textEnd
  /-- The start of a line; where `anyEnd` holds, lines may end in a carriage return. -/
  | lineStart (anyEnd : Bool)
  /-- The end of a line. -/
  | lineEnd (anyEnd : Bool)
  /-- The position lies between a character of a word and one outside; `ascii` words have ASCII
  characters only. -/
  | boundary (ascii : Bool)
  | noBoundary (ascii : Bool)
  | wordStart (ascii : Bool)
  | wordEnd (ascii : Bool)
  | noWordBefore (ascii : Bool)
  | noWordAfter (ascii : Bool)
  deriving DecidableEq, Repr

/-- A character of a word. -/
def isWordChar (ascii : Bool) (c : Char) : Bool :=
  if ascii then Text.isLetterOrDigit c || c == '_' else NamedSet.isWord c

/-- Whether a condition holds at a position. -/
def Condition.holds (p : Position) : Condition → Bool
  | textStart => p.previous.isNone
  | textEnd => p.next.isNone
  | lineStart anyEnd =>
    p.previous.isNone || p.previous == some '\n' ||
      (anyEnd && p.previous == some '\r' && p.next != some '\n')
  | lineEnd anyEnd =>
    p.next.isNone || (p.next == some '\n' && !(anyEnd && p.previous == some '\r')) ||
      (anyEnd && p.next == some '\r')
  | boundary a => p.previous.any (isWordChar a) != p.next.any (isWordChar a)
  | noBoundary a => p.previous.any (isWordChar a) == p.next.any (isWordChar a)
  | wordStart a => !p.previous.any (isWordChar a) && p.next.any (isWordChar a)
  | wordEnd a => p.previous.any (isWordChar a) && !p.next.any (isWordChar a)
  | noWordBefore a => !p.previous.any (isWordChar a)
  | noWordAfter a => !p.next.any (isWordChar a)

end Pattern

/-- A regular expression. -/
inductive Pattern where
  /-- The empty text. -/
  | nothing
  /-- The empty text at a position where a condition holds. -/
  | condition (c : Condition)
  /-- One character of a set. -/
  | char (set : CharSet)
  /-- One after the other. -/
  | seq (first second : Pattern)
  /-- One or the other. -/
  | alt (left right : Pattern)
  /-- At least `least` and at most `most` times; without `most`, any number of times. -/
  | times (p : Pattern) (least : Nat) (most : Option Nat)
  deriving DecidableEq, Repr

namespace Pattern

/-! ### Matching -/

/-- The pattern matches the empty text at the position. -/
def acceptsEmpty (pos : Position) : Pattern → Bool
  | nothing => true
  | condition c => c.holds pos
  | char _ => false
  | seq a b => a.acceptsEmpty pos && b.acceptsEmpty pos
  | alt a b => a.acceptsEmpty pos || b.acceptsEmpty pos
  | times p least _ => least == 0 || p.acceptsEmpty pos

/-- One pattern after the other, where the first may be empty. -/
def andThen : Pattern → Pattern → Pattern
  | nothing, b => b
  | a, b => seq a b

/-- What may remain of a pattern after the character `c` at the position. A repetition whose body
accepts the empty text there may count any number of rounds as empty. -/
def after (pos : Position) (c : Char) : Pattern → List Pattern
  | nothing => []
  | condition _ => []
  | char set => if set.contains c then [nothing] else []
  | seq a b =>
    (a.after pos c).map (·.andThen b) ++ if a.acceptsEmpty pos then b.after pos c else []
  | alt a b => a.after pos c ++ b.after pos c
  | times p least most =>
    if most == some 0 then []
    else
      let rest := times p (if p.acceptsEmpty pos then 0 else least - 1) (most.map (· - 1))
      (p.after pos c).map (·.andThen rest)

/-- The pattern, or one of the patterns begun before, is completed somewhere in the text. -/
def completes (p : Pattern) (begun : List Pattern) (previous : Option Char) : List Char → Bool
  | [] => (p :: begun).any (·.acceptsEmpty ⟨previous, none⟩)
  | c :: s =>
    let pos : Position := ⟨previous, some c⟩
    let active := p :: begun
    active.any (·.acceptsEmpty pos) ||
      completes p (active.flatMap (·.after pos c)).eraseDups (some c) s

/-- The pattern occurs somewhere in the text. -/
def occursIn (p : Pattern) (s : String) : Bool := p.completes [] none s.toList

/-! ### Size -/

/-- The room that the pattern takes in an automaton over bytes, where every round of a repetition
has states of its own. -/
def weight : Pattern → Nat
  | nothing => 32
  | condition _ => 32
  | char set => set.weight
  | seq a b => a.weight + b.weight
  | alt a b => a.weight + b.weight + 40
  | times p least most =>
    match most with
    | none => (max least 1) * p.weight + 40
    | some n => least * p.weight + (n - least) * (p.weight + 40)

/-- The room that the automaton of a pattern may take. -/
def weightLimit : Nat := 10485760

end Pattern

end ImageDiscovery
