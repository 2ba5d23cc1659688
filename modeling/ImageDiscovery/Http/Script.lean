import ImageDiscovery.Http.Message

/-!
# Scripted servers

A script gives responses by URL. The n-th request for a URL gets its n-th response, and the last
response is repeated; a URL without responses is not found. Only plain connections are served.
Requests that reach a server are noted in order.

## Main definitions

* `Http.Script` — responses by URL.
* `Http.Script.transport` — the transport of a script.
-/

namespace ImageDiscovery.Http

open Net

/-- What a scripted server does with a request: it responds, or drops the connection. -/
abbrev Reaction := Option Response

/-- Responses by URL. -/
abbrev Script := List (String × List Reaction)

/-- Requests, the latest first. -/
abbrev Journal := List Request

namespace Script

/-- The response for what no server knows. -/
def notFound : Response := ⟨404, [], [], true⟩

/-- How a request is named in a script. -/
def key (q : Request) : String := q.url.withoutFragment.text

/-- The reaction to the request for a URL that was requested `n` times before. -/
def reaction (s : Script) (url : String) (n : Nat) : Reaction :=
  match s.lookup url with
  | none => some notFound
  | some rs => (rs[n]?.or rs.getLast?).getD (some notFound)

/-- The transport of a script. -/
def transport (s : Script) : Transport (StateM Journal) where
  exchange q := do
    if q.url.scheme != "http" then return .error (.noConnection q.url)
    let journal ← get
    set (q :: journal)
    match s.reaction (key q) (journal.filter fun p => key p == key q).length with
    | some r => return .ok r
    | none => return .error .interrupted

end Script

end ImageDiscovery.Http
