import ImageDiscovery.Registry.Error

/-!
# Errors of discovery passes

A pass fails with the first of its steps that fails, and the error says which step of which
subscription that was. Nothing that was found before is kept.

## Main definitions

* `DiscoveryError` — the causes.
* `DiscoveryError.message`, `DiscoveryError.repoUrl?`, `DiscoveryError.isRetryable`.
-/

namespace ImageDiscovery

/-- Why a discovery pass failed. -/
inductive DiscoveryError where
  /-- The credentials for a repository could not be looked up. -/
  | credentialLookup (repoUrl reason : String)
  /-- A subscription asks for something that is not valid. -/
  | selectorConstruction (repoUrl : String) (cause : RegistryError)
  /-- The registry of a repository failed. -/
  | registry (repoUrl : String) (cause : RegistryError)
  /-- The active freight of the warehouse could not be listed. -/
  | activityQuery (ns warehouse reason : String)
  deriving DecidableEq, Repr

namespace DiscoveryError

/-- The wording of an error, without its cause. -/
def message : DiscoveryError → String
  | credentialLookup repoUrl _ =>
    "error obtaining credentials for image repository '" ++ repoUrl ++ "'"
  | selectorConstruction repoUrl _ => "error creating image selector for '" ++ repoUrl ++ "'"
  | registry repoUrl _ => "error discovering images from '" ++ repoUrl ++ "'"
  | activityQuery ns warehouse _ =>
    "error listing active freight for warehouse '" ++ ns ++ "/" ++ warehouse ++ "'"

/-- The wording of the cause. -/
def causeMessage : DiscoveryError → String
  | credentialLookup _ reason => reason
  | selectorConstruction _ cause => cause.message
  | registry _ cause => cause.message
  | activityQuery _ _ reason => reason

/-- The repository whose subscription failed; the query for freight belongs to none. -/
def repoUrl? : DiscoveryError → Option String
  | credentialLookup repoUrl _ => some repoUrl
  | selectorConstruction repoUrl _ => some repoUrl
  | registry repoUrl _ => some repoUrl
  | activityQuery _ _ _ => none

/-- Another attempt may succeed. -/
def isRetryable : DiscoveryError → Bool
  | credentialLookup _ _ => true
  | selectorConstruction _ _ => false
  | registry _ cause => cause.isRetryable
  | activityQuery _ _ _ => true

end DiscoveryError

end ImageDiscovery
