import ImageDiscovery.Version.Constraint
import ImageDiscovery.Selection.Source
import ImageDiscovery.Selection.TagFilter
import ImageDiscovery.Warehouse.Subscription

/-!
# Selectors

A selector is what a subscription to images asks for: the tags that qualify, how they rank, and how
many are kept. Selecting from a source lists its tags, ranks those that qualify, and asks for the
images in the order of rank until enough are found. Only where the rank is the time of the build are
all images asked for first.

## Main definitions

* `Selector`, `SelectionRule` — selectors.
* `Selector.ofSubscription` — the selector of a subscription, or what is wrong with it.
* `Selector.admits` — whether a tag qualifies.
* `Selector.select` — the selected references of a source.
-/

namespace ImageDiscovery

/-- Which tags qualify beyond the filter, and how they rank. -/
inductive SelectionRule where
  /-- Tags that write versions which satisfy the constraint, newest version first. -/
  | versions (constraint : Option Constraint) (strict : Bool)
  /-- All tags, last in the order of texts first. -/
  | lexical
  /-- All tags, newest build first. -/
  | newestBuild
  /-- One tag. -/
  | tag (name : String)

variable [PatternEngine]

/-- What a subscription to images asks for. -/
structure Selector where
  filter : TagFilter
  platform : Option Platform
  limit : Nat
  rule : SelectionRule

namespace SelectionRule

/-- The constraint that a text writes; a blank text is none. -/
def constraint? (text : Option String) : Except RegistryError (Option Constraint) :=
  match text.filter fun t => !(Text.trim t.toList).isEmpty with
  | none => .ok none
  | some t =>
    match Constraint.ofString t with
    | .ok c => .ok (some c)
    | .error fault => .error (.invalidConstraint t fault.message)

/-- The one tag that a text names, without the white space around it. -/
def tagName (text : Option String) : Except RegistryError String :=
  match (text.map fun t => Text.trim t.toList).filter (!·.isEmpty) with
  | some name => .ok (String.ofList name)
  | none => .error (.missingConstraint SelectionStrategy.digest.name)

/-- The rule of a subscription. -/
def ofSubscription (s : ImageSubscription) : Except RegistryError SelectionRule :=
  match s.strategy with
  | .semVer => do return versions (← constraint? s.constraint) s.strictVersions
  | .lexical => .ok lexical
  | .newestBuild => .ok newestBuild
  | .digest => do return tag (← tagName s.constraint)

/-- The version of a tag, if it satisfies the constraint. -/
def version? (constraint : Option Constraint) (strict : Bool) (tag : String) : Option Version :=
  (Version.ofTag? strict tag).filter fun v => constraint.all (·.admits v)

end SelectionRule

namespace Selector

/-- The platform that a subscription wants; an empty text is none. -/
def platform? (text : Option String) : Except RegistryError (Option Platform) :=
  match text.filter (!·.isEmpty) with
  | none => .ok none
  | some t =>
    match Platform.ofString? t with
    | some p => .ok (some p)
    | none => .error (.invalidPlatform t)

/-- The selector of a subscription, or what is wrong with it: first with the platform, then with
the pattern, then with the constraint. -/
def ofSubscription (s : ImageSubscription) : Except RegistryError Selector := do
  let platform ← platform? s.platform
  let filter ← TagFilter.make s.allowTags s.ignoreTags
  let rule ← SelectionRule.ofSubscription s
  return ⟨filter, platform, s.limit, rule⟩

/-- The tag qualifies. -/
def admits (s : Selector) (tag : String) : Bool :=
  s.filter.passes tag &&
    match s.rule with
    | .versions constraint strict => (SelectionRule.version? constraint strict tag).isSome
    | .lexical | .newestBuild => true
    | .tag name => tag == name

/-! ### Ranking -/

/-- A tag with its version comes before another: by version, newest first, and then by tag. -/
def versionBefore (a b : Version × String) : Bool :=
  ((compare b.1 a.1).then (compare b.2 a.2)).isLE

/-- The tags that write versions which satisfy the constraint, newest version first. -/
def rankVersions (constraint : Option Constraint) (strict : Bool) (tags : List String) :
    List String :=
  ((tags.filterMap fun t => (SelectionRule.version? constraint strict t).map fun v =>
    (v, t)).mergeSort versionBefore).map (·.2)

/-- A tag comes before another: last in the order of texts first. -/
def textBefore (a b : String) : Bool := (compare b a).isLE

/-- The tags, last in the order of texts first, each once. -/
def rankTexts (tags : List String) : List String := (tags.mergeSort textBefore).eraseReps

/-- How references compare by their builds: newest first, undated ones last, and then by tag. -/
def compareBuilds (a b : ImageReference) : Ordering :=
  match a.createdAt, b.createdAt with
  | some s, some t => (compare t s).then (compare b.tag a.tag)
  | some _, none => .lt
  | none, some _ => .gt
  | none, none => compare b.tag a.tag

/-- The references, newest build first. -/
def rankBuilds (rs : List ImageReference) : List ImageReference :=
  rs.mergeSort fun a b => (compareBuilds a b).isLE

/-! ### Selecting -/

variable {m : Type → Type} [Monad m]

/-- The references of the first tags that have an image, at most `n` of them; no image is asked for
after that. -/
def enrich (source : TagSource m) (platform : Option Platform) :
    Nat → List String → ExceptT RegistryError m (List ImageReference)
  | 0, _ => pure []
  | _ + 1, [] => pure []
  | n + 1, t :: ts => do
    match ← source.metadata t platform with
    | some image => return image.reference t :: (← enrich source platform n ts)
    | none => enrich source platform (n + 1) ts

/-- The references of all tags that have an image. -/
def enrichAll (source : TagSource m) (platform : Option Platform) :
    List String → ExceptT RegistryError m (List ImageReference)
  | [] => pure []
  | t :: ts => do
    match ← source.metadata t platform with
    | some image => return image.reference t :: (← enrichAll source platform ts)
    | none => enrichAll source platform ts

/-- The tags of the source that pass the filter. -/
def filteredTags (s : Selector) (source : TagSource m) :
    ExceptT RegistryError m (List String) := do
  return (← source.listTags).filter s.filter.passes

/-- The selected references of a source, in the order of their rank. -/
def select (s : Selector) (source : TagSource m) :
    ExceptT RegistryError m (List ImageReference) :=
  match s.rule with
  | .versions constraint strict => do
    let tags ← s.filteredTags source
    enrich source s.platform s.limit (rankVersions constraint strict tags)
  | .lexical => do
    let tags ← s.filteredTags source
    enrich source s.platform s.limit (rankTexts tags)
  | .newestBuild => do
    let tags ← s.filteredTags source
    let references ← enrichAll source s.platform tags
    return (rankBuilds references).take s.limit
  | .tag name =>
    if s.filter.passes name then enrich source s.platform s.limit [name] else pure []

end Selector

end ImageDiscovery
