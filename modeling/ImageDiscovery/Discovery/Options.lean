import ImageDiscovery.Registry.Options
import ImageDiscovery.Retention

/-!
# Options of discovery

What can be configured about discovery passes: which tags are kept, and how registries are talked
to.

## Main definitions

* `DiscoveryOptions` — the options.
-/

namespace ImageDiscovery

open Document

/-- What can be configured about discovery passes. -/
structure DiscoveryOptions where
  retention : RetentionPolicy
  registry : ClientOptions
  deriving DecidableEq

namespace DiscoveryOptions

/-- The options where nothing else is said. -/
def initial : DiscoveryOptions := ⟨.all, .initial⟩

/-- The options that a document writes. -/
def read (n : Node) : Option DiscoveryOptions := do
  let f ← n.record ["retention", "registry"]
  return {
    retention := ← f.orDefault "retention" RetentionPolicy.read .all
    registry := ← f.orDefault "registry" ClientOptions.read .initial }

/-- The options with another time to wait for an answer. -/
def withTimeout (o : DiscoveryOptions) (seconds : Nat) : DiscoveryOptions :=
  { o with registry := { o.registry with timeoutSecs := seconds } }

end DiscoveryOptions

end ImageDiscovery
