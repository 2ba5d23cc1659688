import ImageDiscovery.Net.Url

/-!
# Reading URLs

A text is read as a URL, on its own or against a base URL from which it takes the parts that it
leaves out. Control characters and spaces at the ends are dropped, and so are tabs and line ends
within. After the scheme the text falls into the authority before the first slash, the path, the
query after `?` and the fragment after `#`, and each part is read by itself.

## Main definitions

* `Net.Url.Parts` — the path, query and fragment of a text.
* `Net.Url.ofString?` — the URL that a text writes.
* `Net.Url.resolve?` — the URL that a text refers to from a base URL.
-/

namespace ImageDiscovery.Net.Url

open Text

/-- The text without control characters and spaces at its ends, and without tabs and line ends. -/
def clean (s : List Char) : List Char :=
  let isEdge (c : Char) : Bool := c.toNat ≤ 0x20
  let t := ((s.dropWhile isEdge).reverse.dropWhile isEdge).reverse
  t.filter fun c => !(c == '\t' || c == '\n' || c == '\r')

/-- A slash; for a special scheme a backslash is one too. -/
def isSlash (special : Bool) (c : Char) : Bool := c == '/' || (special && c == '\\')

/-- The scheme before the first colon, in lower case, and what follows the colon. -/
def cutScheme (s : List Char) : Option (List Char × List Char) :=
  match s with
  | [] => none
  | c :: _ =>
    if !isLetter c then none
    else
      match cut ':' s with
      | none => none
      | some (name, rest) =>
        if name.all fun c => isLetterOrDigit c || c == '+' || c == '-' || c == '.' then
          some (lower name, rest)
        else none

/-- The path, the query and the fragment of a text, not yet encoded. -/
structure Parts where
  path : List Char
  query : Option (List Char)
  fragment : Option (List Char)

/-- The parts of a text from its path on. -/
def Parts.ofChars (s : List Char) : Parts :=
  let (rest, fragment) := match cut '#' s with
    | some (a, b) => (a, some b)
    | none => (s, none)
  match cut '?' rest with
  | some (a, b) => ⟨a, some b, fragment⟩
  | none => ⟨rest, none, fragment⟩

/-- The query as it is written. -/
def encodeQuery (special : Bool) (q : List Char) : String :=
  String.ofList (percentEncode (if special then specialQuerySet else querySet) q)

/-- The fragment as it is written. -/
def encodeFragment (f : List Char) : String := String.ofList (percentEncode fragmentSet f)

/-! ### Paths -/

/-- A segment for the directory itself. -/
def isSingleDot (s : List Char) : Bool := [".".toList, "%2e".toList].contains (lower s)

/-- A segment for the directory above. -/
def isDoubleDot (s : List Char) : Bool :=
  ["..".toList, ".%2e".toList, "%2e.".toList, "%2e%2e".toList].contains (lower s)

/-- The segments after those in `done`, the latest first; a segment of dots moves in the path, and
as the last one leaves an empty segment. -/
def walk (done : List String) : List (List Char) → List String
  | [] => done.reverse
  | [s] =>
    if isDoubleDot s then (("" :: done.drop 1)).reverse
    else if isSingleDot s then ("" :: done).reverse
    else (String.ofList (percentEncode pathSet s) :: done).reverse
  | s :: t :: ss =>
    if isDoubleDot s then walk (done.drop 1) (t :: ss)
    else if isSingleDot s then walk done (t :: ss)
    else walk (String.ofList (percentEncode pathSet s) :: done) (t :: ss)

/-- The parts of a path between its slashes. -/
def splitSlashes (special : Bool) (s : List Char) : List (List Char) :=
  split '/' (if special then s.map fun c => if c == '\\' then '/' else c else s)

/-- The segments of a path that goes on from the segments `base`. -/
def segmentsFrom (special : Bool) (base : List String) (s : List Char) : List String :=
  walk base.reverse (splitSlashes special s)

/-- The segments of a path that begins with a slash, or of an empty one. -/
def segmentsOf (special : Bool) (s : List Char) : List String :=
  match s with
  | [] => if special then [""] else []
  | c :: t => if isSlash special c then segmentsFrom special [] t else segmentsFrom special [] s

/-! ### Authority -/

/-- The parts before and after the last `@`, if there is one. -/
def cutUser (s : List Char) : Option (List Char) × List Char :=
  match cut '@' s.reverse with
  | some (h, u) => (some u.reverse, h.reverse)
  | none => (none, s)

/-- The host and the text after the first colon outside brackets. -/
def cutPort (inBrackets : Bool) : List Char → List Char × Option (List Char)
  | [] => ([], none)
  | c :: s =>
    if c == ':' && !inBrackets then ([], some s)
    else
      let r := cutPort (if c == '[' then true else if c == ']' then false else inBrackets) s
      (c :: r.1, r.2)

/-- The port that a text writes, `none` for an empty text and for the usual port. -/
def port? (scheme : String) (s : List Char) : Option (Option Nat) :=
  if s.isEmpty then some none
  else (natUpTo? 65535 s).map fun p => if usualPort? scheme = some p then none else some p

/-- The authority before the first slash, `?` or `#`, and the rest. -/
def cutAuthority (special : Bool) (s : List Char) : List Char × List Char :=
  let isEnd (c : Char) : Bool := isSlash special c || c == '?' || c == '#'
  (s.takeWhile (!isEnd ·), s.dropWhile (!isEnd ·))

/-- A URL whose text after the scheme and two slashes is given. -/
def ofAuthority? (scheme : String) (s : List Char) : Option Url := do
  let special := isSpecialScheme scheme
  let (authority, rest) := cutAuthority special s
  let (user, hostAndPort) := cutUser authority
  if user.isSome && hostAndPort.isEmpty then none
  let (hostText, portText) := cutPort false hostAndPort
  if hostText.isEmpty && (special || portText.isSome || user.isSome) then none
  let host ← if hostText.isEmpty then some (Host.named "") else Host.ofChars? special hostText
  let port ← port? scheme (portText.getD [])
  let (name, password) := match user with
    | none => ([], [])
    | some u => (cut ':' u).getD (u, [])
  let parts := Parts.ofChars rest
  return {
    scheme := scheme
    username := String.ofList (percentEncode userSet name)
    password := String.ofList (percentEncode userSet password)
    host := some host
    port := port
    path := .segments (segmentsOf special parts.path)
    query := parts.query.map (encodeQuery special)
    fragment := parts.fragment.map encodeFragment }

/-! ### Whole texts -/

/-- The text without the slashes at its beginning. -/
def dropSlashes (s : List Char) : List Char := s.dropWhile (isSlash true)

/-- A URL of the scheme for files, whose host may be empty. -/
def ofFile? (s : List Char) : Option Url := do
  let (authority, rest) := match s with
    | a :: b :: t =>
      if isSlash true a && isSlash true b then cutAuthority true t else ([], s)
    | s => ([], s)
  let host ← if authority.isEmpty then some (Host.named "") else Host.ofChars? true authority
  let parts := Parts.ofChars rest
  return {
    scheme := "file"
    username := ""
    password := ""
    host := some (if host = .domain "localhost" then .named "" else host)
    port := none
    path := .segments (segmentsOf true parts.path)
    query := parts.query.map (encodeQuery true)
    fragment := parts.fragment.map encodeFragment }

/-- A URL whose text after the scheme is given. -/
def ofScheme? (scheme : String) (s : List Char) : Option Url :=
  if scheme == "file" then ofFile? s
  else if isSpecialScheme scheme then ofAuthority? scheme (dropSlashes s)
  else
    match s with
    | '/' :: '/' :: t => ofAuthority? scheme t
    | _ =>
      let parts := Parts.ofChars s
      some {
        scheme := scheme
        username := ""
        password := ""
        host := none
        port := none
        path := match s with
          | '/' :: _ => .segments (segmentsOf false parts.path)
          | _ => .whole (String.ofList (percentEncode controlSet parts.path))
        query := parts.query.map (encodeQuery false)
        fragment := parts.fragment.map encodeFragment }

/-- The URL that a reference without a scheme names from a base URL. -/
def resolveRelative? (base : Url) (s : List Char) : Option Url :=
  let special := isSpecialScheme base.scheme
  match base.path with
  | .whole _ =>
    match s with
    | '#' :: f => some { base with fragment := some (encodeFragment f) }
    | _ => none
  | .segments names =>
    let parts := Parts.ofChars s
    let fragment := parts.fragment.map encodeFragment
    let query := parts.query.map (encodeQuery special)
    match s with
    | a :: b :: t =>
      if isSlash special a && isSlash special b then
        if base.scheme == "file" then ofFile? s
        else ofAuthority? base.scheme (if special then dropSlashes t else t)
      else some (relative names special parts query fragment)
    | _ => some (relative names special parts query fragment)
where
  /-- The reference names a path, a query or a fragment on the same host. -/
  relative (names : List String) (special : Bool) (parts : Parts) (query fragment : Option String) :
      Url :=
    match parts.path with
    | [] =>
      { base with
        query := if parts.query.isSome then query else base.query
        fragment := fragment }
    | c :: _ =>
      { base with
        path := .segments (if isSlash special c then segmentsOf special parts.path
          else segmentsFrom special names.dropLast parts.path)
        query := query
        fragment := fragment }

/-- The URL that a text writes. -/
def ofString? (s : String) : Option Url := do
  let (scheme, rest) ← cutScheme (clean s.toList)
  ofScheme? (String.ofList scheme) rest

/-- The URL that a text refers to from a base URL. -/
def resolve? (base : Url) (s : String) : Option Url :=
  let t := clean s.toList
  match cutScheme t with
  | none => resolveRelative? base t
  | some (scheme, rest) =>
    let scheme := String.ofList scheme
    if isSpecialScheme scheme && scheme == base.scheme &&
        !((rest.take 2).length == 2 && (rest.take 2).all (isSlash true)) then
      resolveRelative? base rest
    else ofScheme? scheme rest

end ImageDiscovery.Net.Url
