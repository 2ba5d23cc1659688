import ImageDiscovery.Http.Message

/-!
# Redirects

A response may refer to another place, and a client follows it there, up to ten times. The proofs of
the client stay with the server that they were meant for: they are dropped where the host or the
port changes.

## Main definitions

* `Http.redirectTarget?` — the place to which a response refers.
* `Http.follow` — the next request.
* `Http.Transport.following` — the transport in which redirects are followed.
-/

namespace ImageDiscovery.Http

open Net Text

/-- How many redirects are followed. -/
def maxRedirects : Nat := 10

/-- The place to which a response refers, read from where it came from. -/
def redirectTarget? (here : Url) (r : Response) : Option Url :=
  if [301, 302, 303, 307, 308].contains r.status then do
    let bytes ← r.header? "location"
    let location ← Utf8.decode? bytes
    here.resolve? (String.ofList location)
  else none

/-- The two URLs have the same host and port. -/
def sameServer (a b : Url) : Bool :=
  a.host == b.host && a.effectivePort? == b.effectivePort?

/-- The request for another place, without the proofs of the client where the server changes. -/
def follow (q : Request) (target : Url) : Request :=
  { q with
    url := target
    authorization := if sameServer q.url target then q.authorization else [] }

/-- The scheme can be requested. -/
def isWebScheme (u : Url) : Bool := u.scheme == "http" || u.scheme == "https"

variable {m : Type → Type} [Monad m]

/-- An exchange in which at most `n` redirects are followed. -/
def exchangeWithin (t : Transport m) : Nat → Request → m (Except Failure Response)
  | n, q => do
    match ← t.exchange q with
    | .error f => return .error f
    | .ok r =>
      match redirectTarget? q.url r with
      | none => return .ok r
      | some target =>
        match n with
        | 0 => return .error .interrupted
        | n + 1 =>
          if isWebScheme target then exchangeWithin t n (follow q target)
          else return .error .interrupted

/-- The transport in which redirects are followed. -/
def Transport.following (t : Transport m) : Transport m :=
  ⟨exchangeWithin t maxRedirects⟩

end ImageDiscovery.Http
