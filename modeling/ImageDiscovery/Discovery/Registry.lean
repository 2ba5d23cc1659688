import ImageDiscovery.Discovery.Options
import ImageDiscovery.Discovery.Pass
import ImageDiscovery.Registry.Client
import ImageDiscovery.Selection.Selector

/-!
# Discovery in registries

The collaborators of a pass over real repositories: a list of credentials, the index of freight, and
for each subscription a registry client of its own, which starts without a token.

## Main definitions

* `registrySelection` — what selects the references of a subscription in its registry.
* `Collaborators.ofRegistries` — the collaborators.
-/

namespace ImageDiscovery

variable [PatternEngine] {m : Type → Type} [Monad m]

/-- A selection by a selector from a source that starts in the state `s`. -/
def Selector.selection {σ : Type} (s : Selector) (source : TagSource (StateT σ m)) (start : σ) :
    Selection m where
  admits := s.admits
  select := ExceptT.mk (do return (← (s.select source).run.run start).1)

/-- What selects the references of a subscription in its registry: first the repository has to be
one, then the client, then the selector. -/
def registrySelection (options : ClientOptions) (transport : Http.Transport m)
    (s : ImageSubscription) (credentials : Option Credentials) :
    Except RegistryError (Selection m) := do
  let repository ← match Repository.ofString s.repoUrl with
    | .ok r => .ok r
    | .error fault => .error (.invalidReference s.repoUrl fault.message)
  let client ← RegistryClient.make ⟨repository, .ofCredentials credentials, options⟩ transport
  let selector ← Selector.ofSubscription s
  return selector.selection client.source none

/-- The collaborators of a pass over the repositories of registries. -/
def Collaborators.ofRegistries (options : ClientOptions) (transport : Http.Transport m)
    (store : CredentialStore) (index : FreightIndex) : Collaborators m where
  credentials ns type repoUrl := pure ((store.find? ns type repoUrl).map (·.credentials))
  activity ns warehouse := pure (index.active ns warehouse)
  selection s credentials := ExceptT.mk (pure (registrySelection options transport s credentials))

end ImageDiscovery
