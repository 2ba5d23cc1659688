import ImageDiscovery.Proofs.Text.Base64
import ImageDiscovery.Proofs.Text.Bytes
import ImageDiscovery.Registry.Client

/-!
# How a client proves itself

A client proves itself by a token, or by a user name and a password. A token stands in a header as
it is. A user name and a password stand there in Base64, with a colon between them. With content
that it asks for, a client shows the token that it holds, and otherwise what it is configured with;
one that is not configured with anything shows the user name and the password within the URL, if
they are there. With a token that it asks for, it shows what the URL has, and besides a user name
and a password if it is configured with them.

## Main definitions

* `Http.IsBasic`, `Http.HasUser`, `Http.ShowsUser` — user names and passwords in headers and in
  URLs.
* `Http.ProvesContent`, `Http.ProvesToken` — the headers with a request for content, or for a token.

## Main results

* `Http.isBasic_iff`, `Http.userInfo?_eq_some_iff` — what is written and read by the program.
* `Http.provesContent`, `Http.provesToken` — the headers of a client.
* `Http.ProvesToken.ne_bearer` — no token is shown to a token service.
-/

namespace ImageDiscovery.Http

open Net Text

variable {username password value : String} {u : Url} {values : List String}

/-! ### User names and passwords -/

/-- The value of a header shows a user name and a password. -/
def IsBasic (username password value : String) : Prop :=
  ∃ code, value = "Basic " ++ String.ofList code ∧
    IsBase64 (Utf8.bytes (username ++ ":" ++ password)) code

theorem isBasic_iff : IsBasic username password value ↔
    value = basicAuthorization username password := by
  unfold IsBasic basicAuthorization
  simp only [isBase64_iff, Utf8.bytes_eq, exists_eq_right]

/-- A URL has a user name and a password, both of them in UTF-8 with percent signs, and one of them
not empty. A password that is no text counts as an empty one. -/
structure HasUser (u : Url) (username password : String) : Prop where
  username_eq : Utf8.decode? (percentDecode u.username.toList) = some username.toList
  password_eq : Utf8.decode? (percentDecode u.password.toList) = some password.toList ∨
    Utf8.decode? (percentDecode u.password.toList) = none ∧ password = ""
  nonempty : username ≠ "" ∨ password ≠ ""

theorem plainText?_eq_some_iff {s t : String} :
    plainText? s = some t ↔ Utf8.decode? (percentDecode s.toList) = some t.toList := by
  rw [plainText?, Option.map_eq_some_iff]
  constructor
  · rintro ⟨chars, h, rfl⟩
    rw [h, String.toList_ofList]
  · exact fun h => ⟨t.toList, h, String.ofList_toList⟩

theorem plainText?_eq_none_iff {s : String} :
    plainText? s = none ↔ Utf8.decode? (percentDecode s.toList) = none :=
  Option.map_eq_none_iff

theorem userInfo?_eq_some_iff :
    userInfo? u = some (username, password) ↔ HasUser u username password := by
  have hpassword : (plainText? u.password).getD "" = password ↔
      Utf8.decode? (percentDecode u.password.toList) = some password.toList ∨
        Utf8.decode? (percentDecode u.password.toList) = none ∧ password = "" := by
    rw [← plainText?_eq_some_iff, ← plainText?_eq_none_iff]
    cases plainText? u.password <;> simp [eq_comm]
  unfold userInfo?
  simp only [Option.bind_eq_bind, Option.bind_eq_some_iff, Option.ite_none_left_eq_some,
    Option.some.injEq, Prod.mk.injEq]
  constructor
  · rintro ⟨_, hname, hne, rfl, hword⟩
    rw [hword] at hne
    refine ⟨plainText?_eq_some_iff.1 hname, hpassword.1 hword, ?_⟩
    simpa [Decidable.imp_iff_not_or] using hne
  · rintro ⟨hname, hword, hne⟩
    refine ⟨username, plainText?_eq_some_iff.2 hname, ?_, rfl, hpassword.2 hword⟩
    rw [hpassword.2 hword]
    simpa [Decidable.imp_iff_not_or] using hne

/-- The headers show the user name and the password within a URL, and nothing if there are none. -/
inductive ShowsUser (u : Url) : List String → Prop
  | shown {username password value : String} (huser : HasUser u username password)
      (hvalue : IsBasic username password value) : ShowsUser u [value]
  | hidden (huser : ∀ username password, ¬ HasUser u username password) : ShowsUser u []

theorem showsUser (u : Url) : ShowsUser u (userAuthorization u).toList := by
  unfold userAuthorization
  cases huser : userInfo? u with
  | none =>
    exact .hidden fun username password h => nomatch huser.symm.trans (userInfo?_eq_some_iff.2 h)
  | some user => exact .shown (userInfo?_eq_some_iff.1 huser) (isBasic_iff.2 rfl)

/-! ### Headers of requests -/

/-- The headers of a request for what lies at a URL, by the token that is held and by what the
client is configured with. -/
inductive ProvesContent (u : Url) : Option String → RegistryAuth → List String → Prop
  | held (token : String) (auth : RegistryAuth) :
    ProvesContent u (some token) auth ["Bearer " ++ token]
  | bearer (token : String) : ProvesContent u none (.bearer token) ["Bearer " ++ token]
  | basic {username password value : String} (h : IsBasic username password value) :
    ProvesContent u none (.basic username password) [value]
  | anonymous {values : List String} (h : ShowsUser u values) :
    ProvesContent u none .anonymous values

theorem provesContent (u : Url) (token : Option String) (auth : RegistryAuth) :
    ProvesContent u token auth
      (RegistryClient.contentProofs (RegistryClient.authorization token auth) u) := by
  cases token with
  | some token => exact .held token auth
  | none =>
    cases auth with
    | anonymous => exact .anonymous (showsUser u)
    | basic username password => exact .basic (isBasic_iff.2 rfl)
    | bearer token => exact .bearer token

/-- The headers of a request for a token at a URL, by what the client is configured with. -/
inductive ProvesToken (u : Url) : RegistryAuth → List String → Prop
  | basic {username password value : String} {values : List String} (hurl : ShowsUser u values)
      (h : IsBasic username password value) :
    ProvesToken u (.basic username password) (values ++ [value])
  | anonymous {values : List String} (hurl : ShowsUser u values) : ProvesToken u .anonymous values
  | bearer {token : String} {values : List String} (hurl : ShowsUser u values) :
    ProvesToken u (.bearer token) values

theorem provesToken (u : Url) (auth : RegistryAuth) :
    ProvesToken u auth (RegistryClient.tokenProofs auth u) := by
  have hurl : ShowsUser u ((userAuthorization u).toList ++ []) := by
    rw [List.append_nil]
    exact showsUser u
  cases auth with
  | basic username password => exact .basic (showsUser u) (isBasic_iff.2 rfl)
  | anonymous => exact .anonymous hurl
  | bearer token => exact .bearer hurl

/-! ### Tokens -/

/-- A user name and a password are not taken for a token. -/
theorem IsBasic.ne_bearer (h : IsBasic username password value) (token : String) :
    value ≠ "Bearer " ++ token := by
  obtain ⟨code, rfl, -⟩ := h
  intro heq
  have hchars := congrArg String.toList heq
  simp at hchars

theorem ShowsUser.ne_bearer (h : ShowsUser u values) (hvalue : value ∈ values) (token : String) :
    value ≠ "Bearer " ++ token := by
  cases h with
  | shown _ h =>
    obtain rfl := List.mem_singleton.1 hvalue
    exact h.ne_bearer token
  | hidden _ => exact absurd hvalue List.not_mem_nil

/-- No token is shown to a token service. -/
theorem ProvesToken.ne_bearer {auth : RegistryAuth} (h : ProvesToken u auth values)
    (hvalue : value ∈ values) (token : String) : value ≠ "Bearer " ++ token := by
  cases h with
  | basic hurl h =>
    rcases List.mem_append.1 hvalue with hvalue | hvalue
    · exact hurl.ne_bearer hvalue token
    · obtain rfl := List.mem_singleton.1 hvalue
      exact h.ne_bearer token
  | anonymous hurl => exact hurl.ne_bearer hvalue token
  | bearer hurl => exact hurl.ne_bearer hvalue token

/-- A client that holds a token, or is configured with something, proves itself with each request
for content. -/
theorem ProvesContent.ne_nil {token : Option String} {auth : RegistryAuth}
    (h : ProvesContent u token auth values) (hauth : auth ≠ .anonymous) : values ≠ [] := by
  cases h with
  | anonymous _ => exact absurd rfl hauth
  | _ => exact List.cons_ne_nil _ _

end ImageDiscovery.Http
