import ImageDiscovery.Freight.Basic

/-!
# Retention

Tags in use by active freight stay among the references of a repository when discovery no longer
finds them. Which tags are in use is taken from the freight itself, or from the references that
were kept for this reason by the pass before.

## Main definitions

* `RetentionPolicy` — for which selection strategies tags are kept.
* `RetentionSource` — where the tags in use are taken from.
* `RetentionPolicy.retain` — the references of a repository with the kept ones after them.

## Main results

* `RetentionPolicy.retain_of_not_appliesTo`, `RetentionPolicy.retain_of_appliesTo` — what is
  added, and when.
-/

namespace ImageDiscovery

open Document

/-- For which selection strategies tags in use are kept. -/
structure RetentionPolicy where
  enabled : Bool
  /-- The strategies, if not all of them. -/
  strategies : Option (List SelectionStrategy)
  deriving DecidableEq, Repr

/-- Where the tags in use are taken from. -/
inductive RetentionSource where
  /-- From the freight itself. -/
  | fresh (freight : List Freight)
  /-- From the references of the pass before. -/
  | cached (previous : List ImageReference)

namespace RetentionPolicy

/-- Tags are kept for every strategy. -/
def all : RetentionPolicy := ⟨true, none⟩

/-- No tags are kept. -/
def disabled : RetentionPolicy := ⟨false, none⟩

/-- Tags are kept for the given strategies. -/
def only (strategies : List SelectionStrategy) : RetentionPolicy := ⟨true, some strategies⟩

/-- The policy keeps tags of repositories whose tags are ranked by the strategy. -/
def appliesTo (p : RetentionPolicy) (s : SelectionStrategy) : Bool :=
  p.enabled && p.strategies.all (·.contains s)

/-- The tags of the repository in active freight, with references that say no more than that. -/
def fromFreight (repoUrl : String) (wanted : String → Bool) (freight : List Freight) :
    Dictionary ImageReference :=
  (((freight.filter (·.isActive)).flatMap (·.images)).filter fun i =>
      i.repoUrl == repoUrl && !i.tag.isEmpty && wanted i.tag).foldl
    (fun d i => d.insert i.tag (.retained i.tag)) .empty

/-- The references that were kept before; of several with a tag the first one. -/
def fromPrevious (wanted : String → Bool) (previous : List ImageReference) :
    Dictionary ImageReference :=
  (previous.filter fun r => r.fromActiveFreight && wanted r.tag).foldl
    (fun d r => if (d.find? r.tag).isSome then d else d.insert r.tag r) .empty

/-- The references to be kept for tags that are wanted, by tag. -/
def additions (repoUrl : String) (wanted : String → Bool) :
    RetentionSource → Dictionary ImageReference
  | .fresh freight => fromFreight repoUrl wanted freight
  | .cached previous => fromPrevious wanted previous

/-- The discovered references, and after them the ones to be kept: those with tags that the
selection admits and that were not discovered, in ascending order of the tags. -/
def retain (p : RetentionPolicy) (s : ImageSubscription) (admits : String → Bool)
    (discovered : List ImageReference) (source : RetentionSource) : List ImageReference :=
  if p.appliesTo s.strategy then
    let wanted (tag : String) : Bool := !(discovered.any (·.tag == tag)) && admits tag
    discovered ++ (additions s.repoUrl wanted source).entries.map (·.2)
  else discovered

theorem retain_of_not_appliesTo {p : RetentionPolicy} {s : ImageSubscription}
    (h : p.appliesTo s.strategy = false) (admits : String → Bool)
    (discovered : List ImageReference) (source : RetentionSource) :
    p.retain s admits discovered source = discovered := by
  simp [retain, h]

theorem retain_of_appliesTo {p : RetentionPolicy} {s : ImageSubscription}
    (h : p.appliesTo s.strategy = true) (admits : String → Bool)
    (discovered : List ImageReference) (source : RetentionSource) :
    p.retain s admits discovered source = discovered ++ (additions s.repoUrl
      (fun tag => !(discovered.any (·.tag == tag)) && admits tag) source).entries.map (·.2) := by
  simp [retain, h]

/-! ### Documents -/

/-- The policy that a document writes. -/
def read (n : Node) : Option RetentionPolicy := do
  let f ← n.record ["enabled", "strategies"]
  return {
    enabled := ← f.orDefault "enabled" Node.readBool true
    strategies := ← f.optional "strategies" (Node.readList SelectionStrategy.read) }

/-- The document of a policy. -/
def toNode (p : RetentionPolicy) : Node :=
  .mapping ([("enabled", .bool p.enabled)] ++
    Node.field? "strategies" (p.strategies.map fun ss => .array (ss.map (·.toNode))))

end RetentionPolicy

end ImageDiscovery
