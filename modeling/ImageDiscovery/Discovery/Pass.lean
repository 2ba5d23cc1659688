import ImageDiscovery.Credentials.Store
import ImageDiscovery.Discovery.Error
import ImageDiscovery.Freight.Index
import ImageDiscovery.Retention

/-!
# Discovery passes

A pass over a warehouse finds the references of each of its subscriptions to images, in their order,
and adds those to be kept. Where the warehouse has changed since its last pass, or none was made,
the active freight is asked for once at the beginning; otherwise the references that the last pass
kept are used again. The first step that fails ends the pass.

The pass asks its collaborators, each of which may fail and may have effects in a monad: a store of
credentials, the index of freight, and what selects the references of a subscription.

## Main definitions

* `Collaborators`, `Selection` — whom a pass asks.
* `Warehouse.needsFreshActivity` — whether the active freight has to be asked for.
* `Collaborators.discoverImages`, `Collaborators.discover` — a pass.
-/

namespace ImageDiscovery

open Time

/-- What selects the references of one subscription. -/
structure Selection (m : Type → Type) where
  /-- The tag qualifies. -/
  admits : String → Bool
  /-- The references that are found. -/
  select : ExceptT RegistryError m (List ImageReference)

/-- Whom a discovery pass asks. -/
structure Collaborators (m : Type → Type) where
  /-- The credentials for a repository, if there are any. -/
  credentials : String → CredentialType → String → ExceptT String m (Option Credentials)
  /-- The active freight of a warehouse. -/
  activity : String → String → ExceptT String m (List Freight)
  /-- What selects the references of a subscription. -/
  selection : ImageSubscription → Option Credentials → ExceptT RegistryError m (Selection m)

/-- No pass was recorded, or it was made for another generation of the warehouse. -/
def Warehouse.needsFreshActivity (w : Warehouse) : Bool :=
  w.status.discoveredArtifacts.isNone || w.status.observedGeneration != w.metadata.generation

namespace Collaborators

variable {m : Type → Type} [Monad m]

/-- Where the tags in use are taken from: from the active freight if it was asked for, and
otherwise from the last pass. -/
def retentionSource (w : Warehouse) (active : Option (List Freight)) (repoUrl : String) :
    RetentionSource :=
  match active with
  | some freight => .fresh freight
  | none => .cached (w.previousReferences repoUrl)

/-- The result of one subscription. -/
def discoverImage (c : Collaborators m) (policy : RetentionPolicy) (w : Warehouse)
    (active : Option (List Freight)) (s : ImageSubscription) :
    ExceptT DiscoveryError m ImageResult := do
  let credentials ← (c.credentials w.metadata.ns .image s.repoUrl).adapt
    (.credentialLookup s.repoUrl)
  let selection ← (c.selection s credentials).adapt (.selectorConstruction s.repoUrl)
  let discovered ← selection.select.adapt (.registry s.repoUrl)
  return ⟨s.repoUrl, s.platform, policy.retain s selection.admits discovered
    (retentionSource w active s.repoUrl)⟩

/-- The results of subscriptions, in order. -/
def discoverAll (c : Collaborators m) (policy : RetentionPolicy) (w : Warehouse)
    (active : Option (List Freight)) :
    List ImageSubscription → ExceptT DiscoveryError m (List ImageResult)
  | [] => pure []
  | s :: ss => do
    let r ← c.discoverImage policy w active s
    return r :: (← c.discoverAll policy w active ss)

/-- The active freight of the warehouse, if it has to be asked for. -/
def activeFreight (c : Collaborators m) (w : Warehouse) :
    ExceptT DiscoveryError m (Option (List Freight)) :=
  if w.needsFreshActivity then do
    let freight ← (c.activity w.metadata.ns w.metadata.name).adapt
      (.activityQuery w.metadata.ns w.metadata.name)
    return some freight
  else pure none

/-- The results of all subscriptions to images. -/
def discoverImages (c : Collaborators m) (policy : RetentionPolicy) (w : Warehouse) :
    ExceptT DiscoveryError m (List ImageResult) :=
  match w.imageSubscriptions with
  | [] => pure []
  | s :: ss => do
    let active ← c.activeFreight w
    c.discoverAll policy w active (s :: ss)

/-- The results of a pass, with the time at which it was made. -/
def discover (c : Collaborators m) (now : Timestamp) (policy : RetentionPolicy) (w : Warehouse) :
    ExceptT DiscoveryError m Artifacts := do
  return ⟨some now, ← c.discoverImages policy w⟩

end Collaborators

end ImageDiscovery
