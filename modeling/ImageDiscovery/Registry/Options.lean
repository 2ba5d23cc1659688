import ImageDiscovery.Credentials.Basic
import ImageDiscovery.Registry.Repository

/-!
# Options of registry clients

How a client talks to registries, and how it proves itself.

## Main definitions

* `ClientOptions` — how long to wait, the name of the client, and the size of a page of tags.
* `RegistryAuth` — how a client proves itself.
* `RegistryConfig` — everything that a client of one repository needs.
-/

namespace ImageDiscovery

open Document

/-- How a client talks to registries. -/
structure ClientOptions where
  /-- How long to wait for an answer, in seconds. -/
  timeoutSecs : Nat
  /-- The name under which the client asks. -/
  userAgent : String
  /-- How many tags to ask for at once. -/
  pageSize : Nat
  deriving DecidableEq, Repr

namespace ClientOptions

/-- The options where nothing else is said. -/
def initial : ClientOptions := ⟨30, "freightyard-registry/0.1.0", 1000⟩

/-- The options that a document writes. -/
def read (n : Node) : Option ClientOptions := do
  let f ← n.record ["timeoutSecs", "userAgent", "pageSize"]
  return {
    timeoutSecs := ← f.orDefault "timeoutSecs" Node.readUnsigned initial.timeoutSecs
    userAgent := ← f.orDefault "userAgent" Node.readText initial.userAgent
    pageSize := ← f.orDefault "pageSize" Node.readUnsigned initial.pageSize }

/-- The size of a page that is asked for: at least one tag. -/
def effectivePageSize (o : ClientOptions) : Nat := max o.pageSize 1

end ClientOptions

/-- How a client proves itself where it holds no token. -/
inductive RegistryAuth where
  | anonymous
  | basic (username password : String)
  | bearer (token : String)
  deriving DecidableEq

/-- Credentials are used as they are, and without any the client is anonymous. -/
def RegistryAuth.ofCredentials : Option Credentials → RegistryAuth
  | none => .anonymous
  | some c => .basic c.username c.password

/-- Everything that a client of one repository needs. -/
structure RegistryConfig where
  repository : Repository
  auth : RegistryAuth
  options : ClientOptions
  deriving DecidableEq

/-- The address of the repository. -/
def RegistryConfig.apiUrl (c : RegistryConfig) : String := c.repository.apiUrl

end ImageDiscovery
