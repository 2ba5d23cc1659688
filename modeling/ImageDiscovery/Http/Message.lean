import ImageDiscovery.Net.Percent
import ImageDiscovery.Net.Url.Reader
import ImageDiscovery.Text.Base64
import ImageDiscovery.Text.Utf8

/-!
# Requests and responses

What a client of a registry sends to servers and gets back. All requests read; the headers that
matter are what is accepted, how the client proves itself, and its name. A user name and a password
within a URL are not sent with it: they are sent as a proof of the client, beside any other one.

## Main definitions

* `Http.Request`, `Http.Response` — messages.
* `Http.Failure` — why there is no response.
* `Http.Transport` — one exchange of a request for a response, with effects in a monad.
* `Http.Response.headerText?` — the value of a header as text.
* `Http.basicAuthorization`, `Http.bearerAuthorization` — proofs of a client.
* `Http.userInfo?`, `Http.requestUrl` — a URL with a user name and a password, and without them.
* `Http.statusText` — a status with its usual name.
-/

namespace ImageDiscovery.Http

open Net Text

/-- A request to read what lies at a URL. -/
structure Request where
  url : Url
  /-- The kinds of content that are accepted, if not any kind. -/
  accept : Option String
  /-- The proofs of the client, each in a header of its own. -/
  authorization : List String
  userAgent : String
  deriving DecidableEq

/-- The response of a server. -/
structure Response where
  status : Nat
  /-- Header values by their names in lower case. -/
  headers : List (String × List UInt8)
  body : List UInt8
  /-- The body came to its end. -/
  complete : Bool
  deriving DecidableEq

/-- Why there is no response. -/
inductive Failure where
  /-- No connection to the server at a URL. -/
  | noConnection (url : Url)
  /-- The connection ended without a response, or the request was not sent. -/
  | interrupted
  deriving DecidableEq

/-- One exchange of a request for a response. -/
structure Transport (m : Type → Type) where
  exchange : Request → m (Except Failure Response)

/-- No server can be reached. -/
def Transport.offline (m : Type → Type) [Monad m] : Transport m :=
  ⟨fun q => pure (.error (.noConnection q.url))⟩

namespace Response

/-- The bytes of the first header with a name. -/
def header? (r : Response) (name : String) : Option (List UInt8) := r.headers.lookup name

/-- A byte of a header value that is text: visible ASCII, a space or a tab. -/
def isTextByte (b : UInt8) : Bool := (32 ≤ b.toNat && b.toNat < 127) || b.toNat == 9

/-- The value of the first header with a name, if all of it is text. -/
def headerText? (r : Response) (name : String) : Option String := do
  let bytes ← r.header? name
  if bytes.all isTextByte then
    some (String.ofList (bytes.map fun b => Char.ofNat b.toNat))
  else none

/-- The status says that all went well. -/
def isSuccess (r : Response) : Bool := 200 ≤ r.status && r.status < 300

/-- The body as text, as far as it can be read; a body cut short has none. -/
def bodyText (r : Response) : String :=
  if r.complete then String.ofList (Utf8.decodeLenient r.body) else ""

end Response

/-- The text can stand in a header: it has no control characters but tabs. -/
def isHeaderValue (s : String) : Bool :=
  s.toList.all fun c => (32 ≤ c.toNat && c.toNat != 127) || c == '\t'

/-- How a user name and a password stand in a header. -/
def basicAuthorization (username password : String) : String :=
  "Basic " ++ String.ofList
    (base64 ((username ++ ":" ++ password).toList.flatMap String.utf8EncodeChar))

/-- How a token stands in a header. -/
def bearerAuthorization (token : String) : String := "Bearer " ++ token

/-- The text that is written with percent signs, if its bytes are text. -/
def plainText? (s : String) : Option String :=
  (Utf8.decode? (percentDecode s.toList)).map String.ofList

/-- The user name and the password within a URL. A user name that is no text stands for neither of
them, and a password that is no text for none. -/
def userInfo? (u : Url) : Option (String × String) := do
  let username ← plainText? u.username
  let password := (plainText? u.password).getD ""
  if username.isEmpty && password.isEmpty then none else some (username, password)

/-- The URL of a request for a URL: the user name and the password within it are left out. -/
def requestUrl (u : Url) : Url :=
  if (userInfo? u).isSome then { u with username := "", password := "" } else u

/-- The user name and the password within a URL, as they stand in a header. -/
def userAuthorization (u : Url) : Option String :=
  (userInfo? u).map fun (username, password) => basicAuthorization username password

/-- The usual names of statuses. -/
def statusNames : List (Nat × String) := [
  (100, "Continue"), (101, "Switching Protocols"), (102, "Processing"), (200, "OK"),
  (201, "Created"), (202, "Accepted"), (203, "Non Authoritative Information"),
  (204, "No Content"), (205, "Reset Content"), (206, "Partial Content"), (207, "Multi-Status"),
  (208, "Already Reported"), (226, "IM Used"), (300, "Multiple Choices"),
  (301, "Moved Permanently"), (302, "Found"), (303, "See Other"), (304, "Not Modified"),
  (305, "Use Proxy"), (307, "Temporary Redirect"), (308, "Permanent Redirect"),
  (400, "Bad Request"), (401, "Unauthorized"), (402, "Payment Required"), (403, "Forbidden"),
  (404, "Not Found"), (405, "Method Not Allowed"), (406, "Not Acceptable"),
  (407, "Proxy Authentication Required"), (408, "Request Timeout"), (409, "Conflict"),
  (410, "Gone"), (411, "Length Required"), (412, "Precondition Failed"),
  (413, "Payload Too Large"), (414, "URI Too Long"), (415, "Unsupported Media Type"),
  (416, "Range Not Satisfiable"), (417, "Expectation Failed"), (418, "I\x27m a teapot"),
  (421, "Misdirected Request"), (422, "Unprocessable Entity"), (423, "Locked"),
  (424, "Failed Dependency"), (425, "Too Early"), (426, "Upgrade Required"),
  (428, "Precondition Required"), (429, "Too Many Requests"),
  (431, "Request Header Fields Too Large"), (451, "Unavailable For Legal Reasons"),
  (500, "Internal Server Error"), (501, "Not Implemented"), (502, "Bad Gateway"),
  (503, "Service Unavailable"), (504, "Gateway Timeout"), (505, "HTTP Version Not Supported"),
  (506, "Variant Also Negotiates"), (507, "Insufficient Storage"), (508, "Loop Detected"),
  (510, "Not Extended"), (511, "Network Authentication Required")]

/-- A status with its usual name. -/
def statusText (status : Nat) : String :=
  toString status ++ " " ++ (statusNames.lookup status).getD "<unknown status code>"

end ImageDiscovery.Http
