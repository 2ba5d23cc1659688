import ImageDiscovery.Credentials.Basic
import ImageDiscovery.Pattern.Engine

/-!
# Credential stores

A store is a list of entries, each for one namespace and kind of repository. An entry names its
repositories exactly or by a pattern. An exact name wins over every pattern, and otherwise the
earlier entry over the later one.

## Main definitions

* `CredentialEntry` — credentials with the repositories that they are for.
* `CredentialStore.ofEntries` — the store of a list of entries, or what is wrong with one of them.
* `CredentialStore.find?` — the entry for a repository.
-/

namespace ImageDiscovery

open Document

/-- Credentials with the repositories that they are for. -/
structure CredentialEntry where
  ns : String
  type : CredentialType
  /-- The one repository. -/
  repoUrl : Option String
  /-- The pattern of the repositories. -/
  repoUrlPattern : Option String
  credentials : Credentials
  deriving DecidableEq

namespace CredentialEntry

/-- An entry for one repository. -/
def exact (ns : String) (type : CredentialType) (repoUrl : String) (c : Credentials) :
    CredentialEntry :=
  ⟨ns, type, some repoUrl, none, c⟩

/-- An entry for the repositories of a pattern. -/
def ofPattern (ns : String) (type : CredentialType) (pattern : String) (c : Credentials) :
    CredentialEntry :=
  ⟨ns, type, none, some pattern, c⟩

/-- The names of the fields that are not those of the credentials. -/
def fieldNames : List String := ["namespace", "type", "repoURL", "repoURLPattern"]

/-- The credentials among the fields of an entry. A plain scalar is taken for what it looks like, so
that a number or a truth value is no name. -/
def readCredentials (n : Node) : Option Credentials := do
  let f ← n.keyedRecord ["username", "password"]
  return {
    username := ← f.required "username" Node.readTyped
    password := ← f.required "password" Node.readTyped }

/-- The entry that a document writes; the credentials stand among its fields. -/
def read (n : Node) : Option CredentialEntry := do
  let f ← n.keyedRecord fieldNames
  if !n.fieldsReadable then none
  return {
    ns := ← f.required "namespace" Node.readText
    type := ← f.required "type" CredentialType.read
    repoUrl := ← f.optional "repoURL" Node.readText
    repoUrlPattern := ← f.optional "repoURLPattern" Node.readText
    credentials := ← readCredentials n }

/-- The document of an entry. -/
def toNode (e : CredentialEntry) : Node :=
  .mapping <|
    [("namespace", .text e.ns), ("type", .text e.type.name)] ++
    Node.field? "repoURL" (e.repoUrl.map .text) ++
    Node.field? "repoURLPattern" (e.repoUrlPattern.map .text) ++ e.credentials.fields

end CredentialEntry

variable [PatternEngine]

/-- How an entry finds its repositories. -/
inductive RepositoryMatcher where
  | exact (repoUrl : String)
  | pattern (p : PatternEngine.Compiled)

/-- A list of entries in the order of their declaration. -/
structure CredentialStore where
  entries : List (RepositoryMatcher × CredentialEntry)

namespace CredentialStore

/-- Why a list of entries makes no store. -/
inductive Fault where
  /-- The pattern of the entry at the index is none. -/
  | invalidPattern (index : Nat) (pattern : String)
  /-- The entry at the index has both a repository and a pattern, or neither. -/
  | notExactlyOne (index : Nat)
  deriving DecidableEq, Repr

/-- The wording of a fault. -/
def Fault.message : Fault → String
  | invalidPattern index pattern =>
    "invalid repoURLPattern '" ++ pattern ++ "' in credential entry " ++ toString index
  | notExactlyOne index =>
    "invalid credential entry " ++ toString index ++
      ": exactly one of repoURL and repoURLPattern must be set"

/-- How the entry at an index finds its repositories. -/
def matcher (index : Nat) (e : CredentialEntry) : Except Fault RepositoryMatcher :=
  match e.repoUrl, e.repoUrlPattern with
  | some url, none => .ok (.exact url)
  | none, some p =>
    match PatternEngine.compile? p with
    | some pattern => .ok (.pattern pattern)
    | none => .error (.invalidPattern index p)
  | _, _ => .error (.notExactlyOne index)

/-- The entries with how they find their repositories, where the first one has the given index. -/
def matchersFrom (index : Nat) :
    List CredentialEntry → Except Fault (List (RepositoryMatcher × CredentialEntry))
  | [] => .ok []
  | e :: es => do return (← matcher index e, e) :: (← matchersFrom (index + 1) es)

/-- The store of a list of entries, or what is wrong with the first of them that is not valid. -/
def ofEntries (es : List CredentialEntry) : Except Fault CredentialStore := do
  return ⟨← matchersFrom 0 es⟩

/-- The store without entries. -/
def empty : CredentialStore := ⟨[]⟩

/-- The number of entries. -/
def size (s : CredentialStore) : Nat := s.entries.length

/-- The entry for a repository among the given ones: the first with its exact name, or else
`byPattern`, the first found by a pattern so far. -/
def search (ns : String) (type : CredentialType) (repoUrl : String)
    (byPattern : Option CredentialEntry) :
    List (RepositoryMatcher × CredentialEntry) → Option CredentialEntry
  | [] => byPattern
  | (m, e) :: es =>
    if e.ns = ns ∧ e.type = type then
      match m with
      | .exact url =>
        if url = repoUrl then some e else search ns type repoUrl byPattern es
      | .pattern p =>
        if byPattern.isNone && PatternEngine.occursIn p repoUrl then
          search ns type repoUrl (some e) es
        else search ns type repoUrl byPattern es
    else search ns type repoUrl byPattern es

/-- The entry for a repository. -/
def find? (s : CredentialStore) (ns : String) (type : CredentialType) (repoUrl : String) :
    Option CredentialEntry :=
  search ns type repoUrl none s.entries

end CredentialStore

end ImageDiscovery
