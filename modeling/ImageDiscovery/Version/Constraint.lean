import ImageDiscovery.Text.Blank
import ImageDiscovery.Version.Basic

/-!
# Version constraints

A constraint is a list of alternatives, and an alternative a list of comparators, all of which have
to hold. It is written as terms separated by blanks or commas, the alternatives separated by `||`;
a term is an operator with a version, in which numbers may be missing at the end or stand as
wildcards `x`, `X` or `*`.

A pre-release satisfies an alternative only if one of its comparators names a pre-release with the
same numbers, so that pre-releases are never admitted by a range of releases.

## Main definitions

* `Comparator`, `Constraint` — what a constraint asks of a version.
* `Constraint.Fault` — why a text is no constraint.
* `Constraint.ofString` — the constraint that a text writes.
* `Constraint.admits` — whether a version satisfies a constraint.
-/

namespace ImageDiscovery

open Text

/-- The relation of a version to the version of a comparator. -/
inductive Relation where
  | eq | ne | gt | ge | lt | le
  deriving DecidableEq, Repr

/-- Whether the relation holds between two versions that compare as given. -/
def Relation.holds : Relation → Ordering → Bool
  | eq, o => o == .eq
  | ne, o => o != .eq
  | gt, o => o == .gt
  | ge, o => o != .lt
  | lt, o => o == .lt
  | le, o => o != .gt

/-- One condition on a version. -/
structure Comparator where
  relation : Relation
  version : Version
  deriving DecidableEq, Repr

/-- The version stands in the relation of the comparator to its version. -/
def Comparator.holds (c : Comparator) (v : Version) : Bool :=
  c.relation.holds (compare v c.version)

/-- The comparator names a pre-release of the version's numbers. -/
def Comparator.namesPrereleaseOf (c : Comparator) (v : Version) : Bool :=
  c.version.isPrerelease && c.version.sameCore v

/-- A constraint: the text it was written as, and its alternatives. -/
structure Constraint where
  /-- The text of the constraint, without white space at its ends. -/
  source : String
  /-- The alternatives, each a list of comparators that have to hold together. -/
  alternatives : List (List Comparator)
  deriving DecidableEq, Repr

namespace Constraint

/-- Every comparator of the alternative holds, and a pre-release is named by one of them. -/
def alternativeAdmits (cs : List Comparator) (v : Version) : Bool :=
  cs.all (·.holds v) && (!v.isPrerelease || cs.any (·.namesPrereleaseOf v))

/-- Some alternative admits the version. -/
def admits (c : Constraint) (v : Version) : Bool := c.alternatives.any (alternativeAdmits · v)

/-- Why a text is no constraint. -/
inductive Fault where
  /-- An operator stands at the end, with no version after it. -/
  | noVersion (operator : String)
  /-- The text after an operator is no version. -/
  | invalidVersion (text : String)
  /-- The operator compares with a version, and the version is a wildcard. -/
  | needsVersion (operator : String)
  /-- A version is excluded of which not all numbers are given. -/
  | needsFullVersion
  /-- The end of a range would be above the largest number. -/
  | overflow
  /-- Nothing stands between two `||`. -/
  | emptyAlternative
  deriving DecidableEq, Repr

/-- The wording of a fault. -/
def Fault.message : Fault → String
  | noVersion operator => "operator '" ++ operator ++ "' has no version"
  | invalidVersion text => "invalid version '" ++ text ++ "'"
  | needsVersion operator => "operator '" ++ operator ++ "' requires a version"
  | needsFullVersion => "'!=' requires a full version"
  | overflow => "version component overflows"
  | emptyAlternative => "empty alternative"

/-! ### Versions with missing numbers -/

/-- A version as a term writes it: its numbers up to the first wildcard, at most three, and
pre-release identifiers, which only a full version has. -/
structure Partial where
  numbers : List Nat
  pre : List Identifier
  deriving DecidableEq, Repr

namespace Partial

/-- The least version with the given numbers: missing ones are zero. -/
def lower (p : Partial) : Version :=
  ⟨p.numbers[0]?.getD 0, p.numbers[1]?.getD 0, p.numbers[2]?.getD 0, p.pre⟩

/-- All three numbers are given. -/
def isFull (p : Partial) : Bool := p.numbers.length == 3

/-- The characters that stand for any number. -/
def isWildcard (s : List Char) : Bool := s == ['x'] || s == ['X'] || s == ['*']

/-- The numbers before the first wildcard; no number may follow a wildcard. -/
def numbersOfParts? : List (List Char) → Option (List Nat)
  | [] => some []
  | s :: ps =>
    if isWildcard s then if ps.all isWildcard then some [] else none
    else do return (← natUpTo? wordMax s) :: (← numbersOfParts? ps)

/-- The dot-separated parts of the numbers; an empty text has none. -/
def parts (s : List Char) : List (List Char) := if s.isEmpty then [] else split '.' s

/-- A text without one leading `v`. -/
def withoutMark : List Char → List Char
  | 'v' :: s => s
  | s => s

/-- The version that a term writes after its operator. -/
def ofChars? (s : List Char) : Option Partial := do
  let (core, pre) := Version.coreAndPre (Version.withoutBuild (withoutMark s))
  let identifiers ← match pre with
    | some text => Identifier.listOfChars? text
    | none => some []
  if (parts core).length > 3 then none
  let numbers ← numbersOfParts? (parts core)
  if !identifiers.isEmpty && numbers.length != 3 then none
  return ⟨numbers, identifiers⟩

end Partial

/-- The number after `n`. -/
def next (n : Nat) : Except Fault Nat := if n < wordMax then .ok (n + 1) else .error .overflow

/-- The first release above all versions with the given numbers; a full version has none. -/
def Partial.upper (p : Partial) : Except Fault (Option Version) :=
  match p.numbers with
  | [major] => do return some (.release (← next major) 0 0)
  | [major, minor] => do return some (.release major (← next minor) 0)
  | _ => .ok none

/-! ### Terms -/

/-- The operators of terms; a version that stands alone has none. -/
inductive Operator where
  | bare | eq | ne | gt | ge | lt | le | tilde | caret
  deriving DecidableEq, Repr

namespace Operator

/-- The spelling of an operator. -/
def text : Operator → String
  | bare => ""
  | eq => "="
  | ne => "!="
  | gt => ">"
  | ge => ">="
  | lt => "<"
  | le => "<="
  | tilde => "~"
  | caret => "^"

/-- The characters of which operators are made. -/
def isChar (c : Char) : Bool := ['<', '>', '=', '!', '^', '~'].contains c

/-- The longest operator at the beginning of a term, and what follows it. -/
def ofTerm : List Char → Operator × List Char
  | '<' :: '=' :: s => (le, s)
  | '>' :: '=' :: s => (ge, s)
  | '!' :: '=' :: s => (ne, s)
  | '<' :: s => (lt, s)
  | '>' :: s => (gt, s)
  | '=' :: s => (eq, s)
  | '^' :: s => (caret, s)
  | '~' :: s => (tilde, s)
  | s => (bare, s)

/-- What an operator asks where every number is a wildcard: anything goes, but there is nothing to
compare with. -/
def ofWildcard (op : Operator) : Except Fault (List Comparator) :=
  match op with
  | bare | eq | ge | caret | tilde => .ok []
  | ne | gt | lt | le => .error (.needsVersion op.text)

/-- The end of the range of a caret: the next release that may break, which is the next major one,
the next minor one below `1`, and the next patch below `0.1`. -/
def caretUpper (p : Partial) : Except Fault Version :=
  match p.numbers with
  | [0, 0, patch] => do return .release 0 0 (← next patch)
  | 0 :: minor :: _ => do return .release 0 (← next minor) 0
  | major :: _ => do return .release (← next major) 0 0
  | [] => .error .overflow

/-- The end of the range of a tilde: the next minor release, or the next major one where no minor
number is given. -/
def tildeUpper (p : Partial) : Except Fault Version :=
  match p.numbers with
  | major :: minor :: _ => do return .release major (← next minor) 0
  | [major] => do return .release (← next major) 0 0
  | [] => .error .overflow

/-- The comparators of an operator with a version of which at least one number is given. -/
def comparators (op : Operator) (p : Partial) : Except Fault (List Comparator) :=
  match op with
  | bare | eq => do
    match ← p.upper with
    | some upper => return [⟨.ge, p.lower⟩, ⟨.lt, upper⟩]
    | none => return [⟨.eq, p.lower⟩]
  | ne => if p.isFull then .ok [⟨.ne, p.lower⟩] else .error .needsFullVersion
  | gt => do
    match ← p.upper with
    | some upper => return [⟨.ge, upper⟩]
    | none => return [⟨.gt, p.lower⟩]
  | ge => .ok [⟨.ge, p.lower⟩]
  | lt => .ok [⟨.lt, p.lower⟩]
  | le => do
    match ← p.upper with
    | some upper => return [⟨.lt, upper⟩]
    | none => return [⟨.le, p.lower⟩]
  | tilde => do return [⟨.ge, p.lower⟩, ⟨.lt, ← tildeUpper p⟩]
  | caret => do return [⟨.ge, p.lower⟩, ⟨.lt, ← caretUpper p⟩]

end Operator

/-- The comparators that one term writes. -/
def ofTerm (term : List Char) : Except Fault (List Comparator) :=
  let (op, rest) := Operator.ofTerm term
  match Partial.ofChars? rest with
  | none => .error (.invalidVersion (String.ofList rest))
  | some p => if p.numbers.isEmpty then op.ofWildcard else op.comparators p

/-! ### Alternatives -/

/-- The comparators that words write, in order. A word of operator characters alone belongs to the
word after it. -/
def ofWords : List (List Char) → Except Fault (List Comparator)
  | [] => .ok []
  | w :: ws =>
    if w.all Operator.isChar then
      match ws with
      | [] => .error (.noVersion (String.ofList w))
      | v :: ws => do return (← ofTerm (w ++ v)) ++ (← ofWords ws)
    else do return (← ofTerm w) ++ (← ofWords ws)

/-- A comma separates terms as a blank does. -/
def commasAsBlanks (s : List Char) : List Char := s.map fun c => if c = ',' then ' ' else c

/-- The first part of a text cut at every `||`, and the parts after it. -/
def splitAlternativesHead : List Char → List Char × List (List Char)
  | [] => ([], [])
  | '|' :: '|' :: s => ([], (splitAlternativesHead s).1 :: (splitAlternativesHead s).2)
  | c :: s => (c :: (splitAlternativesHead s).1, (splitAlternativesHead s).2)

/-- The parts between all occurrences of `||`. -/
def splitAlternatives (s : List Char) : List (List Char) :=
  (splitAlternativesHead s).1 :: (splitAlternativesHead s).2

/-- The comparators that an alternative writes. One of several alternatives may not be blank. -/
def ofAlternative (several : Bool) (s : List Char) : Except Fault (List Comparator) := do
  let cs ← ofWords (words (commasAsBlanks s))
  if cs.isEmpty && (trim s).isEmpty && several then throw .emptyAlternative
  return cs

/-- The constraint that a text writes. -/
def ofChars (s : List Char) : Except Fault Constraint := do
  let parts := splitAlternatives s
  let alternatives ← parts.mapM (ofAlternative (parts.length > 1))
  return ⟨String.ofList (trim s), alternatives⟩

/-- The constraint that a text writes. -/
def ofString (s : String) : Except Fault Constraint := ofChars s.toList

end Constraint

end ImageDiscovery
