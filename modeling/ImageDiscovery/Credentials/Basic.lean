import ImageDiscovery.Document.Reading
import ImageDiscovery.Text.Quoted

/-!
# Credentials

A user name and a password, and the kinds of repositories that credentials are for.

## Main definitions

* `Credentials` — a user name and a password.
* `Credentials.debugText` — credentials for the eyes of a developer, without the password.
* `CredentialType` — the kinds of repositories.
-/

namespace ImageDiscovery

open Document

/-- The kinds of repositories that credentials are for. -/
inductive CredentialType where
  | git | helm | image
  deriving DecidableEq, Repr

namespace CredentialType

/-- The name of a kind. -/
def name : CredentialType → String
  | git => "git"
  | helm => "helm"
  | image => "image"

/-- The kind that a document names. -/
def read : Reader CredentialType :=
  Node.readName ([git, helm, image].map fun t => (t.name, t))

end CredentialType

/-- A user name and a password. -/
structure Credentials where
  username : String
  password : String
  deriving DecidableEq

namespace Credentials

/-- The credentials that a document writes. -/
def read (n : Node) : Option Credentials := do
  let f ← n.record ["username", "password"]
  return {
    username := ← f.required "username" Node.readText
    password := ← f.required "password" Node.readText }

/-- The fields of the document of credentials. -/
def fields (c : Credentials) : List (String × Node) :=
  [("username", .text c.username), ("password", .text c.password)]

/-- The document of credentials. -/
def toNode (c : Credentials) : Node := .mapping c.fields

/-- Credentials for the eyes of a developer: the password is never shown. -/
def debugText (c : Credentials) : String :=
  "Credentials \x7b username: " ++ Text.quoted c.username ++ ", password: " ++
    Text.quoted "<redacted>" ++ " \x7d"

end Credentials

end ImageDiscovery
