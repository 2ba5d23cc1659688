/-!
# Errors of registries

What can go wrong between a subscription and the registry that it names, with the wording of each
case, and whether it is worthwhile to try again.

## Main definitions

* `RegistryError` — the causes.
* `RegistryError.message`, `RegistryError.isRetryable`.
-/

namespace ImageDiscovery

/-- Why something could not be learned from a registry. -/
inductive RegistryError where
  /-- No connection to the server of the URL. -/
  | connectionFailed (url : String)
  /-- The registry or its token service refused the client. -/
  | authenticationFailed (reason : String)
  /-- An answer with an unexpected status; status `0` stands for no complete answer. -/
  | http (status : Nat) (body : String)
  /-- A document that does not decode. -/
  | json
  /-- A text that is no URL. -/
  | invalidUrl (url : String)
  /-- A text that names no image repository. -/
  | invalidReference (reference reason : String)
  /-- A text that is no version constraint. -/
  | invalidConstraint (constraint reason : String)
  /-- A text that is no pattern for tags. -/
  | invalidTagPattern (pattern : String)
  /-- A text that is no platform. -/
  | invalidPlatform (platform : String)
  /-- A selection strategy without the constraint that it requires. -/
  | missingConstraint (strategy : String)
  /-- A manifest of a kind that is not known. -/
  | unsupportedMediaType (mediaType : String)
  deriving DecidableEq, Repr

namespace RegistryError

/-- The wording of an error, without the details that come from below. -/
def message : RegistryError → String
  | connectionFailed url => "Failed to connect to registry at " ++ url
  | authenticationFailed reason => "Authentication failed: " ++ reason
  | http status body => "HTTP error from registry: " ++ toString status ++ " - " ++ body
  | json => "JSON error"
  | invalidUrl url => "Invalid URL: " ++ url
  | invalidReference reference reason =>
    "Invalid image reference '" ++ reference ++ "': " ++ reason
  | invalidConstraint constraint reason =>
    "Invalid version constraint '" ++ constraint ++ "': " ++ reason
  | invalidTagPattern pattern => "Invalid tag pattern '" ++ pattern ++ "'"
  | invalidPlatform platform =>
    "Invalid platform '" ++ platform ++ "': expected os/arch[/variant]"
  | missingConstraint strategy => "Selection strategy " ++ strategy ++ " requires a constraint"
  | unsupportedMediaType mediaType => "Unsupported manifest media type: " ++ mediaType

/-- Another attempt may succeed: no connection, no complete answer, too many requests, or a failure
of the server. -/
def isRetryable : RegistryError → Bool
  | connectionFailed _ => true
  | http status _ => status == 0 || status == 429 || 500 ≤ status
  | _ => false

/-- No complete answer. -/
def incomplete : RegistryError := http 0 ""

end RegistryError

end ImageDiscovery
