import ImageDiscovery.Digest.Sha256
import ImageDiscovery.Document.Json.Reader
import ImageDiscovery.Http.Redirect
import ImageDiscovery.Registry.Challenge
import ImageDiscovery.Registry.Link
import ImageDiscovery.Registry.Options
import ImageDiscovery.Selection.Source

/-!
# Registry clients

A client reads one image repository: it lists the tags page by page, and resolves a tag to its
manifest and, for a platform, through the index of manifests to the one for that platform.

A registry may refuse a request and ask for a token. The client then gets a token from the token
service that the registry names, and asks once more; the token is kept for all later requests.

## Main definitions

* `RegistryClient` — a client, and `RegistryClient.make` the one of a configuration.
* `ClientM` — what a client does: it may fail, and keeps its token in any case.
* `RegistryClient.get` — reading a URL.
* `RegistryClient.listTags`, `RegistryClient.imageMetadata` — what is asked about a repository.
* `RegistryClient.source` — the client as a source of tags.
-/

namespace ImageDiscovery

open Document Http Net Text Time

/-- A client of one repository, over a transport that takes the requests which it makes. -/
structure RegistryClient (m : Type → Type) where
  config : RegistryConfig
  transport : Transport m

/-- What a client does: it keeps its token, also when it fails. -/
abbrev ClientM (m : Type → Type) := ExceptT RegistryError (StateT (Option String) m)

/-- The content at an address of a registry: its digest, its media type, and the bytes. -/
structure Content where
  digest : String
  mediaType : String
  body : List UInt8

namespace RegistryClient

/-- The largest number of pages of tags that are read. -/
def maxTagPages : Nat := 1000

/-- The annotation that tells when an image was built. -/
def createdAnnotation : String := "org.opencontainers.image.created"

/-- The client of a configuration, which follows redirects. Its name has to be able to stand in a
header. -/
def make {m : Type → Type} [Monad m] (config : RegistryConfig) (transport : Transport m) :
    Except RegistryError (RegistryClient m) :=
  if isHeaderValue config.options.userAgent then .ok ⟨config, transport.following⟩
  else .error (.connectionFailed config.repository.baseUrl)

/-! ### What documents say -/

/-- The value that a body writes. -/
def bodyValue? (body : List UInt8) : Option Node := do
  Json.read (String.ofList (← Utf8.decode? body))

/-- When an image was built, by its annotations. -/
def annotatedCreation (a : Annotations) : Option Timestamp :=
  (a.find? createdAnnotation).bind Timestamp.ofStrict?

/-- A media type without its parameters. -/
def mediaTypeOfHeader (value : String) : String :=
  String.ofList (trim (value.toList.takeWhile (· != ';')))

/-- The media type is of a kind of manifests that is known. -/
def isKnown (mediaType : String) : Bool :=
  MediaType.isIndex mediaType || MediaType.isManifest mediaType

/-- The media type of a manifest: the one of the header if it is known, or else the one that the
body names, or else the one whose fields the body has. -/
def detectMediaType (header : Option String) (body : List UInt8) : Except RegistryError String :=
  match header.filter isKnown with
  | some t => .ok t
  | none =>
    match (bodyValue? body).filter (·.isReadable Node.maxDepth) with
    | none => .error .json
    | some n =>
      match n.get? "mediaType" with
      | some (.text t) => .ok t
      | _ =>
        if (n.get? "manifests").isSome then .ok MediaType.index
        else if (n.get? "config").isSome then .ok MediaType.manifest
        else .error (.unsupportedMediaType "unknown")

/-- The document that a body writes. -/
def bodyDocument {α : Type} (read : Reader α) (body : List UInt8) : Except RegistryError α :=
  match (bodyValue? body).bind read with
  | some a => .ok a
  | none => .error .json

/-- The body of a response, which has to be complete. -/
def completeBody (r : Response) : Except RegistryError (List UInt8) :=
  if r.complete then .ok r.body else .error .incomplete

/-- The document of a response; one that does not decode counts as no complete answer. -/
def responseDocument {α : Type} (read : Reader α) (r : Response) : Except RegistryError α := do
  match (bodyValue? (← completeBody r)).bind read with
  | some a => .ok a
  | none => .error .incomplete

/-- The response, if its status says that all went well. -/
def checkStatus (r : Response) : Except RegistryError Response :=
  if r.isSuccess then .ok r else .error (.http r.status r.bodyText)

/-! ### Requests -/

/-- The header by which a client proves itself: its token if it holds one, and otherwise what it is
configured with. -/
def authorization (token : Option String) (auth : RegistryAuth) : Option String :=
  match token, auth with
  | some t, _ => some (bearerAuthorization t)
  | none, .anonymous => none
  | none, .basic username password => some (basicAuthorization username password)
  | none, .bearer t => some (bearerAuthorization t)

/-- The error of a request that failed. -/
def failure : Failure → RegistryError
  | .noConnection url => .connectionFailed url.text
  | .interrupted => .incomplete

variable {m : Type → Type} [Monad m]

/-- A transport used by a client. -/
def exchange (c : RegistryClient m) (q : Request) : ClientM m Response := do
  match ← (c.transport.exchange q : m (Except Failure Response)) with
  | .ok r => return r
  | .error f => throw (failure f)

/-- A request for a URL, with the proofs that belong to it. A URL that cannot be requested fails as
no complete answer. -/
def request (c : RegistryClient m) (url : String) (accept : Option String)
    (proofs : Url → List String) : ClientM m Response :=
  match (Url.ofString? url).filter isWebScheme with
  | none => throw .incomplete
  | some u =>
    c.exchange {
      url := requestUrl u
      accept := accept
      authorization := proofs u
      userAgent := c.config.options.userAgent }

/-- The proof of a client with a request for content: its own, or else what the URL has. -/
def contentProofs (header : Option String) (u : Url) : List String :=
  (header.or (userAuthorization u)).toList

/-- A request for a URL with the proof of the client. -/
def send (c : RegistryClient m) (url : String) (accept : Option String) :
    ClientM m Response := do
  let header := authorization (← get) c.config.auth
  if header.all isHeaderValue then c.request url accept (contentProofs header)
  else throw (.authenticationFailed "Invalid credentials")

/-- The header by which a client proves itself to a token service. -/
def tokenAuthorization : RegistryAuth → Option String
  | .basic username password => some (basicAuthorization username password)
  | _ => none

/-- The proofs of a client with a request for a token: what the URL has, and its own. -/
def tokenProofs (auth : RegistryAuth) (u : Url) : List String :=
  (userAuthorization u).toList ++ (tokenAuthorization auth).toList

/-- The token that the service of a challenge issues. -/
def fetchToken (c : RegistryClient m) (challenge : Challenge) : ClientM m String := do
  let url ← challenge.tokenUrl ("repository:" ++ c.config.repository.path ++ ":pull")
  let r ← c.request url.text none (tokenProofs c.config.auth)
  if r.isSuccess then
    (← responseDocument TokenAnswer.read r).issued
  else
    throw (.authenticationFailed ("token request to " ++ (url.host.map (·.text)).getD "realm" ++
      " failed with " ++ statusText r.status))

/-- What lies at a URL. If the registry asks for a token, the client gets one and tries again. -/
def get (c : RegistryClient m) (url : String) (accept : Option String) : ClientM m Response := do
  let r ← c.send url accept
  if r.status ≠ 401 then return r
  match (r.headerText? "www-authenticate").bind Challenge.ofHeader? with
  | some (.bearer realm service scope) => do
    let token ← c.fetchToken (.bearer realm service scope)
    set (some token)
    let r ← c.send url accept
    if r.status = 401 then
      throw (.authenticationFailed
        ("registry rejected token for " ++ c.config.repository.text))
    return r
  | _ =>
    throw (.authenticationFailed
      ("registry rejected credentials for " ++ c.config.repository.text))

/-! ### Tags -/

/-- The address of the first page of tags. -/
def firstPage (c : RegistryClient m) : String :=
  c.config.apiUrl ++ "/tags/list?n=" ++ toString c.config.options.effectivePageSize

/-- A page of tags, with the address of the next one; `none` where there is no such page. -/
def tagPage (c : RegistryClient m) (url : String) :
    ClientM m (Option (List String × Option String)) := do
  let r ← c.get url none
  if r.status = 404 then return none
  let r ← checkStatus r
  let next ← Link.nextPage url (r.headerText? "link")
  let page ← responseDocument TagList.read r
  return some (page.tags.getD [], next)

/-- The tags of at most `n` pages from the one at the address on. -/
def tagsFrom (c : RegistryClient m) : Nat → String → ClientM m (List String)
  | 0, _ => pure []
  | n + 1, url => do
    match ← c.tagPage url with
    | none => return []
    | some (tags, none) => return tags
    | some (tags, some next) => return tags ++ (← c.tagsFrom n next)

/-- All tags of the repository. A repository that does not exist has none. -/
def listTags (c : RegistryClient m) : ClientM m (List String) := c.tagsFrom maxTagPages c.firstPage

/-! ### Images -/

/-- The manifest or index with a tag or digest, if there is one. -/
def fetchManifest (c : RegistryClient m) (reference : String) : ClientM m (Option Content) := do
  let r ← c.get (c.config.apiUrl ++ "/manifests/" ++ reference) (some MediaType.accepted)
  if r.status = 404 then return none
  let r ← checkStatus r
  let body ← completeBody r
  let mediaType ← detectMediaType ((r.headerText? "content-type").map mediaTypeOfHeader) body
  return some
    ⟨(r.headerText? "docker-content-digest").getD (Digest.sha256Text body), mediaType, body⟩

/-- The configuration of an image. -/
def fetchConfig (c : RegistryClient m) (digest : String) : ClientM m ImageConfig := do
  let r ← checkStatus (← c.get (c.config.apiUrl ++ "/blobs/" ++ digest) none)
  bodyDocument ImageConfig.read (← completeBody r)

/-- What is known about the image of a manifest, if it serves the platform that is wanted. -/
def describe (c : RegistryClient m) (digest : String) (manifest : Manifest)
    (platform : Option Platform) : ClientM m (Option ImageMetadata) := do
  let config ← c.fetchConfig manifest.config.digest
  if platform.all config.serves then
    return some ⟨digest, config.createdAt.or (annotatedCreation manifest.annotations),
      manifest.annotations⟩
  else return none

/-- What is known about the image of an index for a platform; without a platform, about the index
itself. -/
def describeIndex (c : RegistryClient m) (digest : String) (index : ImageIndex)
    (platform : Option Platform) : ClientM m (Option ImageMetadata) := do
  match platform with
  | none => return some ⟨digest, annotatedCreation index.annotations, index.annotations⟩
  | some p =>
    match index.find? p with
    | none => return none
    | some d =>
      match ← c.fetchManifest d.digest with
      | none => return none
      | some child =>
        if MediaType.isManifest child.mediaType then do
          c.describe child.digest (← bodyDocument Manifest.read child.body) none
        else throw (.unsupportedMediaType child.mediaType)

/-- What is known about the image of a tag for a platform; nothing where the tag does not exist or
has no image for the platform. -/
def imageMetadata (c : RegistryClient m) (tag : String) (platform : Option Platform) :
    ClientM m (Option ImageMetadata) := do
  match ← c.fetchManifest tag with
  | none => return none
  | some content =>
    if MediaType.isIndex content.mediaType then do
      c.describeIndex content.digest (← bodyDocument ImageIndex.read content.body) platform
    else if MediaType.isManifest content.mediaType then do
      c.describe content.digest (← bodyDocument Manifest.read content.body) platform
    else throw (.unsupportedMediaType content.mediaType)

/-- The client as a source of tags. -/
def source (c : RegistryClient m) : TagSource (StateT (Option String) m) where
  listTags := c.listTags
  metadata := c.imageMetadata

end RegistryClient

end ImageDiscovery
