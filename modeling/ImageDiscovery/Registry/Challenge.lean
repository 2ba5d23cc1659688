import ImageDiscovery.Text.Blank
import ImageDiscovery.Document.Reading
import ImageDiscovery.Net.Url.Reader
import ImageDiscovery.Registry.Error

/-!
# Authentication challenges

A registry that refuses a request says how the client may prove itself: with its credentials, or
with a token of a token service, the realm. The parameters of the challenge are written as
`key=value` or `key="value"`, separated by commas; of a parameter given twice the last value counts.

## Main definitions

* `Challenge` — a challenge.
* `Challenge.ofHeader?` — the challenge that a header writes.
* `Challenge.tokenUrl` — where to ask for a token.
* `TokenAnswer` — the answer of a token service, and `TokenAnswer.token` its token.

## Main results

* `Challenge.length_parameter_lt` — every parameter read shortens what is left.
-/

namespace ImageDiscovery

open Text

/-- How a registry asks a client to prove itself. -/
inductive Challenge where
  /-- By its credentials. -/
  | basic
  /-- By a token of the service at the realm. -/
  | bearer (realm : String) (service scope : Option String)
  deriving DecidableEq, Repr

namespace Challenge

/-- Parameters by their keys in lower case, the latest first. -/
abbrev Parameters := List (List Char × List Char)

/-- The key of a parameter, in lower case and without commas and white space around it. -/
def key (s : List Char) : List Char :=
  lower (trim ((trim s).dropWhile (· == ',')))

/-- The value after an equals sign, up to the closing quote or the next comma, and the rest. -/
def value : List Char → List Char × List Char
  | '"' :: s => (cut '"' s).getD (s, [])
  | s => (cut ',' s).getD (s, [])

/-- The text without the commas and white space at its beginning. -/
def skipSeparators (s : List Char) : List Char := s.dropWhile fun c => c == ',' || isBlank c

/-- The first parameter of a text, and what follows it; `none` where there is no equals sign. -/
def parameter? (s : List Char) : Option ((List Char × List Char) × List Char) := do
  let (k, after) ← cut '=' s
  let (v, rest) := value after
  return ((key k, trim v), skipSeparators rest)

theorem length_cut_snd {sep : Char} {s a b : List Char} (h : cut sep s = some (a, b)) :
    b.length < s.length := by
  obtain ⟨_, rfl⟩ := cut_eq_some_iff.1 h
  simp; omega

theorem length_cut_getD_snd (sep : Char) (s : List Char) :
    ((cut sep s).getD (s, [])).2.length ≤ s.length := by
  cases h : cut sep s with
  | none => simp
  | some p => obtain ⟨a, b⟩ := p; simpa using Nat.le_of_lt (length_cut_snd h)

theorem length_value_snd (s : List Char) : (value s).2.length ≤ s.length := by
  unfold value
  split
  · next t => have := length_cut_getD_snd '"' t; simp; omega
  · exact length_cut_getD_snd ',' _

/-- Every parameter read shortens what is left. -/
theorem length_parameter_lt {s rest : List Char} {p : List Char × List Char}
    (h : parameter? s = some (p, rest)) : rest.length < s.length := by
  unfold parameter? at h
  cases hc : cut '=' s with
  | none => simp [hc] at h
  | some q =>
    obtain ⟨k, after⟩ := q
    simp only [hc, Option.bind_eq_bind, Option.bind_some, Option.pure_def, Option.some.injEq,
      Prod.mk.injEq] at h
    obtain ⟨_, rfl⟩ := h
    have h₁ := length_cut_snd hc
    have h₂ := length_value_snd after
    have h₃ : (skipSeparators (value after).2).length ≤ (value after).2.length :=
      List.Sublist.length_le (List.dropWhile_sublist _)
    omega

/-- The parameters of a text, up to the first that has no equals sign, the latest first. -/
def parametersFrom (done : Parameters) (s : List Char) : Parameters :=
  match _h : parameter? s with
  | none => done
  | some (p, rest) => parametersFrom (p :: done) rest
termination_by s.length
decreasing_by exact length_parameter_lt _h

/-- The parameters of a text, the latest first. -/
def parameters (s : List Char) : Parameters := parametersFrom [] (trim s)

/-- The value of a parameter; of several the last one. -/
def Parameters.value? (ps : Parameters) (name : String) : Option String :=
  (ps.lookup name.toList).map String.ofList

/-- The challenge that a header writes. -/
def ofHeader? (header : String) : Option Challenge := do
  let s := trim header.toList
  let (scheme, rest) := (cut ' ' s).getD (s, [])
  if eqIgnoringCase scheme "basic".toList then return basic
  if !eqIgnoringCase scheme "bearer".toList then none
  let ps := parameters rest
  return bearer (← ps.value? "realm") (ps.value? "service") (ps.value? "scope")

/-- Where to ask for a token: the realm, with the service and the scope in its query. -/
def tokenUrl (c : Challenge) (defaultScope : String) : Except RegistryError Net.Url :=
  match c with
  | basic => .error (.authenticationFailed "registry did not issue a token challenge")
  | bearer realm service scope =>
    match Net.Url.ofString? realm with
    | none => .error (.invalidUrl realm)
    | some url =>
      let url := match service with
        | some s => url.appendPair "service" s
        | none => url
      .ok (url.appendPair "scope" (scope.getD defaultScope))

end Challenge

/-- The answer of a token service, which names its token in one of two ways. -/
structure TokenAnswer where
  token : Option String
  accessToken : Option String
  deriving DecidableEq, Repr

namespace TokenAnswer

open Document

/-- The answer that a document writes. -/
def read (n : Node) : Option TokenAnswer := do
  let f ← n.record ["token", "access_token"]
  return {
    token := ← f.optional "token" Node.readText
    accessToken := ← f.optional "access_token" Node.readText }

/-- The token that was issued, under whichever name; an empty one counts as none. -/
def issued (a : TokenAnswer) : Except RegistryError String :=
  match (a.token.filter (!·.isEmpty)).or (a.accessToken.filter (!·.isEmpty)) with
  | some t => .ok t
  | none => .error (.authenticationFailed "token endpoint returned no token")

end TokenAnswer

end ImageDiscovery
