import ImageDiscovery.Net.Host

/-!
# URLs

A URL in its parts, as it is written, and with pairs added to its query.

## Main definitions

* `Net.Url` — a URL.
* `Net.Url.text` — a URL as it is written.
* `Net.Url.appendPair` — a URL with one more pair in its query.
-/

namespace ImageDiscovery.Net

/-- The path of a URL. -/
inductive UrlPath where
  /-- A path of segments, each after a slash. -/
  | segments (names : List String)
  /-- A path that is one text, in a URL without a host. -/
  | whole (text : String)
  deriving DecidableEq, Repr

/-- A URL in its parts, each in the form in which it is written. -/
structure Url where
  scheme : String
  username : String
  password : String
  host : Option Host
  /-- The port, if it is not the usual one of the scheme. -/
  port : Option Nat
  path : UrlPath
  query : Option String
  fragment : Option String
  deriving DecidableEq, Repr

namespace Url

/-- The usual port of a special scheme. -/
def usualPort? (scheme : String) : Option Nat :=
  [("ftp", 21), ("http", 80), ("https", 443), ("ws", 80), ("wss", 443)].lookup scheme

/-- The schemes whose URLs always have a host and a path of segments. -/
def isSpecialScheme (scheme : String) : Bool :=
  ["ftp", "file", "http", "https", "ws", "wss"].contains scheme

/-- User name and password, as they stand before the host. -/
def userText (u : Url) : String :=
  if u.username.isEmpty && u.password.isEmpty then ""
  else if u.password.isEmpty then u.username ++ "@"
  else u.username ++ ":" ++ u.password ++ "@"

/-- The host and the port, as they stand before the path. -/
def authorityText (u : Url) : String :=
  match u.host with
  | none =>
    match u.path with
    | .segments ("" :: _ :: _) => "/."
    | _ => ""
  | some h => "//" ++ u.userText ++ h.text ++ (match u.port with
    | some p => ":" ++ toString p
    | none => "")

/-- The path, as it is written. -/
def pathText (u : Url) : String :=
  match u.path with
  | .segments names => String.join (names.map ("/" ++ ·))
  | .whole t => t

/-- A URL as it is written. -/
def text (u : Url) : String :=
  u.scheme ++ ":" ++ u.authorityText ++ u.pathText ++
    (match u.query with
      | some q => "?" ++ q
      | none => "") ++
    (match u.fragment with
      | some f => "#" ++ f
      | none => "")

/-- A URL with one more pair in its query. -/
def appendPair (u : Url) (name value : String) : Url :=
  let pair := String.ofList (formEncode name.toList ++ '=' :: formEncode value.toList)
  { u with query := some (match u.query with
    | none => pair
    | some q => if q.isEmpty then pair else q ++ "&" ++ pair) }

/-- A URL without its fragment, as it is sent to a server. -/
def withoutFragment (u : Url) : Url := { u with fragment := none }

/-- The port on which the server is reached. -/
def effectivePort? (u : Url) : Option Nat := u.port.orElse fun _ => usualPort? u.scheme

end Url

end ImageDiscovery.Net
