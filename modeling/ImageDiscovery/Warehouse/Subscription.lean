import ImageDiscovery.Text.Blank
import ImageDiscovery.Document.Reading

/-!
# Subscriptions

A warehouse subscribes to repositories of images, of code and of charts. A subscription to images
says which tags it wants, by which strategy they are ranked, and how many of them are kept.

## Main definitions

* `SelectionStrategy` — how the tags of a repository are ranked.
* `ImageSubscription`, `GitSubscription`, `ChartSubscription` — subscriptions of each kind.
* `RepoSubscription` — a subscription of any kind, and `RepoSubscription.fault?` what is wrong
  with it.
* `ImageSubscription.limit` — how many tags are kept.
-/

namespace ImageDiscovery

open Document

/-- How the tags of a repository are ranked. -/
inductive SelectionStrategy where
  /-- Newest version first. -/
  | semVer
  /-- One tag, by its name. -/
  | digest
  /-- Last in the order of texts first. -/
  | lexical
  /-- Newest build first. -/
  | newestBuild
  deriving DecidableEq, Repr

namespace SelectionStrategy

/-- The name of a strategy. -/
def name : SelectionStrategy → String
  | semVer => "SemVer"
  | digest => "Digest"
  | lexical => "Lexical"
  | newestBuild => "NewestBuild"

/-- The strategies by their names. -/
def byName : List (String × SelectionStrategy) :=
  [semVer, digest, lexical, newestBuild].map fun s => (s.name, s)

/-- The strategy that a document names. -/
def read : Reader SelectionStrategy := Node.readName byName

/-- The document of a strategy. -/
def toNode (s : SelectionStrategy) : Node := .text s.name

end SelectionStrategy

/-- A subscription to the images of a repository. -/
structure ImageSubscription where
  repoUrl : String
  strategy : SelectionStrategy
  /-- The versions wanted, or the one tag wanted, as the strategy has it. -/
  constraint : Option String
  /-- Versions have to have all three numbers. -/
  strictVersions : Bool
  /-- The pattern that wanted tags match. -/
  allowTags : Option String
  /-- The tags that are never wanted. -/
  ignoreTags : List String
  platform : Option String
  discoveryLimit : Nat
  insecureSkipTlsVerify : Bool
  deriving DecidableEq, Repr

namespace ImageSubscription

/-- How many tags are kept where nothing else is said. -/
def defaultLimit : Nat := 20

/-- How many tags are kept at most. -/
def maxLimit : Nat := 100

/-- A subscription to a repository, with everything else as it is by default. -/
def ofRepo (repoUrl : String) : ImageSubscription :=
  { repoUrl := repoUrl
    strategy := .semVer
    constraint := none
    strictVersions := true
    allowTags := none
    ignoreTags := []
    platform := none
    discoveryLimit := defaultLimit
    insecureSkipTlsVerify := false }

/-- How many tags are kept: at least one and at most `maxLimit`. -/
def limit (s : ImageSubscription) : Nat := min (max s.discoveryLimit 1) maxLimit

/-- The names of the fields, in order. -/
def fieldNames : List String :=
  ["repoURL", "imageSelectionStrategy", "constraint", "strictSemvers", "allowTags", "ignoreTags",
    "platform", "discoveryLimit", "insecureSkipTLSVerify"]

/-- The subscription that a document writes. -/
def read (n : Node) : Option ImageSubscription := do
  let f ← n.record fieldNames
  return {
    repoUrl := ← f.required "repoURL" Node.readText
    strategy := ← f.orDefault "imageSelectionStrategy" SelectionStrategy.read .semVer
    constraint := ← f.optional "constraint" Node.readText
    strictVersions := ← f.orDefault "strictSemvers" Node.readBool true
    allowTags := ← f.optional "allowTags" Node.readText
    ignoreTags := ← f.orDefault "ignoreTags" (Node.readList Node.readText) []
    platform := ← f.optional "platform" Node.readText
    discoveryLimit := ← f.orDefault "discoveryLimit" Node.readUnsigned defaultLimit
    insecureSkipTlsVerify := ← f.orDefault "insecureSkipTLSVerify" Node.readBool false }

/-- The document of a subscription. -/
def toNode (s : ImageSubscription) : Node :=
  .mapping <|
    [("repoURL", .text s.repoUrl), ("imageSelectionStrategy", s.strategy.toNode)] ++
    Node.field? "constraint" (s.constraint.map .text) ++
    [("strictSemvers", .bool s.strictVersions)] ++
    Node.field? "allowTags" (s.allowTags.map .text) ++
    (if s.ignoreTags.isEmpty then [] else [("ignoreTags", .array (s.ignoreTags.map .text))]) ++
    Node.field? "platform" (s.platform.map .text) ++
    [("discoveryLimit", .integer s.discoveryLimit),
      ("insecureSkipTLSVerify", .bool s.insecureSkipTlsVerify)]

end ImageSubscription

/-- A subscription to a repository of code. -/
structure GitSubscription where
  repoUrl : String
  deriving DecidableEq, Repr

/-- The subscription that a document writes. -/
def GitSubscription.read (n : Node) : Option GitSubscription := do
  let f ← n.record ["repoURL"]
  return { repoUrl := ← f.required "repoURL" Node.readText }

/-- The document of a subscription. -/
def GitSubscription.toNode (s : GitSubscription) : Node := .mapping [("repoURL", .text s.repoUrl)]

/-- A subscription to a chart. -/
structure ChartSubscription where
  repoUrl : String
  name : String
  deriving DecidableEq, Repr

/-- The subscription that a document writes. -/
def ChartSubscription.read (n : Node) : Option ChartSubscription := do
  let f ← n.record ["repoURL", "name"]
  return {
    repoUrl := ← f.required "repoURL" Node.readText
    name := ← f.orDefault "name" Node.readText "" }

/-- The document of a subscription. -/
def ChartSubscription.toNode (s : ChartSubscription) : Node :=
  .mapping [("repoURL", .text s.repoUrl), ("name", .text s.name)]

/-- A subscription of any kind. A valid one is of exactly one kind. -/
structure RepoSubscription where
  image : Option ImageSubscription
  git : Option GitSubscription
  chart : Option ChartSubscription
  deriving DecidableEq, Repr

namespace RepoSubscription

/-- A subscription to images. -/
def ofImage (s : ImageSubscription) : RepoSubscription := ⟨some s, none, none⟩

/-- A subscription to code. -/
def ofGit (repoUrl : String) : RepoSubscription := ⟨none, some ⟨repoUrl⟩, none⟩

/-- A subscription to a chart. -/
def ofChart (repoUrl name : String) : RepoSubscription := ⟨none, none, some ⟨repoUrl, name⟩⟩

/-- Why a subscription is not valid. -/
inductive Fault where
  /-- It is of no kind, or of several. -/
  | kinds (count : Nat)
  /-- It names no repository. -/
  | emptyUrl
  deriving DecidableEq, Repr

/-- The wording of a fault. -/
def Fault.message : Fault → String
  | kinds count => "expected exactly one of image, git or chart, found " ++ toString count
  | emptyUrl => "repoURL must not be empty"

/-- The number of kinds that a subscription is of. -/
def kindCount (s : RepoSubscription) : Nat :=
  s.image.isSome.toNat + s.git.isSome.toNat + s.chart.isSome.toNat

/-- The repository that a subscription names. -/
def repoUrl (s : RepoSubscription) : String :=
  (((s.image.map (·.repoUrl)).or (s.git.map (·.repoUrl))).or (s.chart.map (·.repoUrl))).getD ""

/-- What is wrong with a subscription, if anything. -/
def fault? (s : RepoSubscription) : Option Fault :=
  if s.kindCount ≠ 1 then some (.kinds s.kindCount)
  else if (Text.trim s.repoUrl.toList).isEmpty then some .emptyUrl
  else none

/-- The subscription that a document writes. -/
def read (n : Node) : Option RepoSubscription := do
  let f ← n.record ["image", "git", "chart"]
  return {
    image := ← f.optional "image" ImageSubscription.read
    git := ← f.optional "git" GitSubscription.read
    chart := ← f.optional "chart" ChartSubscription.read }

/-- The document of a subscription. -/
def toNode (s : RepoSubscription) : Node :=
  .mapping (Node.field? "image" (s.image.map (·.toNode)) ++
    Node.field? "git" (s.git.map (·.toNode)) ++ Node.field? "chart" (s.chart.map (·.toNode)))

end RepoSubscription

end ImageDiscovery
