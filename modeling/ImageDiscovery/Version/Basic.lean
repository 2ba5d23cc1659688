import ImageDiscovery.Text.Split
import ImageDiscovery.Text.Decimal

/-!
# Versions of image tags

A version has three numbers and a list of pre-release identifiers, empty for a release. Versions
are ordered by precedence: by their numbers, then a pre-release before its release, then the
identifiers one by one, a numeric identifier before an alphanumeric one.

A tag writes a version as `[v]MAJOR[.MINOR[.PATCH]][-IDENTIFIER{.IDENTIFIER}][+BUILD]`; the strict
reading asks for all three numbers, the lenient one takes a missing number for zero. Build text is
dropped.

## Main definitions

* `Identifier`, `Version` — pre-release identifiers and versions.
* `Version.compare` — precedence.
* `Version.ofTag?` — the version that a tag writes.
-/

namespace ImageDiscovery

open Text

/-- A pre-release identifier. -/
inductive Identifier where
  /-- A number, ordered by its value. -/
  | numeric (value : Nat)
  /-- A word, ordered by its characters and after every number. -/
  | word (text : String)
  deriving DecidableEq, Repr

namespace Identifier

/-- Numbers by value, words by their characters, numbers before words. -/
def compare : Identifier → Identifier → Ordering
  | numeric m, numeric n => Ord.compare m n
  | numeric _, word _ => .lt
  | word _, numeric _ => .gt
  | word s, word t => Ord.compare s t

/-- Identifier by identifier; a proper beginning comes first. -/
def compareList : List Identifier → List Identifier → Ordering
  | [], [] => .eq
  | [], _ :: _ => .lt
  | _ :: _, [] => .gt
  | a :: as, b :: bs => (compare a b).then (compareList as bs)

/-- The characters of an identifier. -/
def isChar (c : Char) : Bool := isLetterOrDigit c || c == '-'

/-- An identifier is a non-empty run of letters, digits and hyphens; one of digits that write a
number of 64 bits is numeric. -/
def ofChars? (s : List Char) : Option Identifier :=
  if s.isEmpty || !s.all isChar then none
  else some <| match natUpTo? wordMax s with
    | some n => numeric n
    | none => word (String.ofList s)

/-- The identifiers that a text writes between dots. -/
def listOfChars? (s : List Char) : Option (List Identifier) := (split '.' s).mapM ofChars?

end Identifier

/-- A version: three numbers and the pre-release identifiers, none for a release. -/
structure Version where
  major : Nat
  minor : Nat
  patch : Nat
  pre : List Identifier
  deriving DecidableEq, Repr

namespace Version

/-- The release with the given numbers. -/
def release (major minor patch : Nat) : Version := ⟨major, minor, patch, []⟩

/-- A version with pre-release identifiers. -/
def isPrerelease (v : Version) : Bool := !v.pre.isEmpty

/-- The numbers of two versions are the same. -/
def sameCore (v w : Version) : Bool :=
  v.major == w.major && v.minor == w.minor && v.patch == w.patch

/-- The numbers, the most significant first. -/
def compareCore (v w : Version) : Ordering :=
  (Ord.compare v.major w.major).then
    ((Ord.compare v.minor w.minor).then (Ord.compare v.patch w.patch))

/-- A pre-release comes before its release; two pre-releases go by their identifiers. -/
def comparePre : List Identifier → List Identifier → Ordering
  | [], [] => .eq
  | [], _ :: _ => .gt
  | _ :: _, [] => .lt
  | a :: as, b :: bs => Identifier.compareList (a :: as) (b :: bs)

/-- Precedence: the numbers first, then the pre-release identifiers. -/
protected def compare (v w : Version) : Ordering :=
  (compareCore v w).then (comparePre v.pre w.pre)

instance : Ord Version := ⟨Version.compare⟩

/-- Precedence as a partial order; it compares any two versions. -/
def partialCompare (v w : Version) : Option Ordering := some (compare v w)

/-! ### Reading a tag -/

/-- The text without its build part, which begins at the first `+`. -/
def withoutBuild (s : List Char) : List Char := s.takeWhile (· != '+')

/-- The numbers before the first hyphen, and the pre-release text after it if there is one. -/
def coreAndPre (s : List Char) : List Char × Option (List Char) :=
  match cut '-' s with
  | some (core, pre) => (core, some pre)
  | none => (s, none)

/-- The text without one leading `v` of either case. -/
def withoutMark : List Char → List Char
  | 'v' :: s => s
  | 'V' :: s => s
  | s => s

/-- Up to three numbers, and exactly three for the strict reading; missing ones are zero. -/
def numbersOfChars? (strict : Bool) (s : List Char) : Option (Nat × Nat × Nat) := do
  match ← (split '.' s).mapM (natUpTo? wordMax), strict with
  | [major, minor, patch], _ => some (major, minor, patch)
  | [major, minor], false => some (major, minor, 0)
  | [major], false => some (major, 0, 0)
  | _, _ => none

/-- The version that a text writes. -/
def ofChars? (strict : Bool) (s : List Char) : Option Version := do
  let (core, pre) := coreAndPre (withoutBuild (withoutMark s))
  let (major, minor, patch) ← numbersOfChars? strict core
  let identifiers ← match pre with
    | some text => Identifier.listOfChars? text
    | none => some []
  return ⟨major, minor, patch, identifiers⟩

/-- The version that a tag writes, by the strict or the lenient reading. -/
def ofTag? (strict : Bool) (tag : String) : Option Version := ofChars? strict tag.toList

end Version

end ImageDiscovery
