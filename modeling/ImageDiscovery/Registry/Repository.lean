import ImageDiscovery.Text.Blank
import ImageDiscovery.Text.Split
import ImageDiscovery.Unicode.Letters

/-!
# Image repositories

An image repository is a path on a registry host, reached by a scheme. Users write it with or
without the scheme and the host; without a host it lies on the central registry, whose single-name
repositories are under `library`.

## Main definitions

* `Repository` — a normalized repository.
* `Repository.Fault` — why a text names no repository.
* `Repository.ofString` — the repository that a text names.
* `Repository.baseUrl`, `Repository.apiUrl` — the addresses of the registry and the repository.
-/

namespace ImageDiscovery

open Text

/-- An image repository: the scheme and host of its registry, and its path there. -/
structure Repository where
  scheme : String
  host : String
  path : String
  deriving DecidableEq, Repr

namespace Repository

/-- Why a text names no repository. -/
inductive Fault where
  | empty | digest | emptyPath | tag | uppercase
  deriving DecidableEq, Repr

/-- The wording of a fault. -/
def Fault.message : Fault → String
  | empty => "reference is empty"
  | digest => "reference must not include a digest"
  | emptyPath => "repository path is empty"
  | tag => "reference must not include a tag"
  | uppercase => "repository path must be lowercase"

/-- The host of the central registry. -/
def centralHost : String := "registry-1.docker.io"

/-- The names under which the central registry is written. -/
def isCentralAlias (host : List Char) : Bool :=
  host == "docker.io".toList || host == "index.docker.io".toList

/-- The scheme of a text, secure where none is written, and the rest. -/
def cutScheme (s : List Char) : String × List Char :=
  match dropPrefix? "https://".toList s with
  | some rest => ("https", rest)
  | none =>
    match dropPrefix? "http://".toList s with
    | some rest => ("http", rest)
    | none => ("https", s)

/-- The text without the slashes at its end. -/
def dropSlashesAtEnd (s : List Char) : List Char := (s.reverse.dropWhile (· == '/')).reverse

/-- A first component that is a host and no part of the path. -/
def looksLikeHost (s : List Char) : Bool :=
  s.contains '.' || s.contains ':' || s == "localhost".toList

/-- The host and the path of a text without scheme. -/
def cutHost (s : List Char) : List Char × List Char :=
  match cut '/' s with
  | some (first, rest) => if looksLikeHost first then (first, rest) else ("docker.io".toList, s)
  | none => ("docker.io".toList, s)

/-- The part after the last slash. -/
def lastSegment (path : List Char) : List Char := (path.reverse.takeWhile (· != '/')).reverse

/-- The repository that a trimmed text names. -/
def ofChars (s : List Char) : Except Fault Repository :=
  let (scheme, rest) := cutScheme s
  let rest := dropSlashesAtEnd rest
  if rest.isEmpty then .error .empty
  else if rest.contains '@' then .error .digest
  else
    let (host, path) := cutHost rest
    if path.isEmpty then .error .emptyPath
    else if (lastSegment path).contains ':' then .error .tag
    else if path.any Unicode.isUppercase then .error .uppercase
    else if isCentralAlias host then
      .ok ⟨scheme, centralHost,
        String.ofList (if path.contains '/' then path else "library/".toList ++ path)⟩
    else .ok ⟨scheme, String.ofList host, String.ofList path⟩

/-- The repository that a text names. -/
def ofString (s : String) : Except Fault Repository := ofChars (trim s.toList)

/-- The address of the registry. -/
def baseUrl (r : Repository) : String := r.scheme ++ "://" ++ r.host

/-- The address of the repository in the distribution protocol. -/
def apiUrl (r : Repository) : String := r.baseUrl ++ "/v2/" ++ r.path

/-- The repository without its scheme. -/
def text (r : Repository) : String := r.host ++ "/" ++ r.path

end Repository

end ImageDiscovery
