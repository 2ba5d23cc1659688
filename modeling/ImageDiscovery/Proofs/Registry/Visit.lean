import Mathlib.Data.List.Basic
import ImageDiscovery.Proofs.Registry.Forms
import ImageDiscovery.Proofs.Registry.Proving
import ImageDiscovery.Proofs.Registry.Record

/-!
# Visits

To read a URL, a client asks for what lies there. If it is refused and told to bring a token, it
asks the token service for one and then asks for the content once more. These are three errands at
most. On each of them the client has to prove itself: for content by the token that was issued to it
last, or by what it is configured with if it never got one; at a token service only by user names
and passwords.

## Main definitions

* `Errand`, `Visit` — an exchange with its purpose; the errands for one URL and what comes of them.
* `Issues`, `LatestToken` — the token that an answer issues, and the one that was issued last.
* `Errand.ProvedBy`, `ProvedAlong` — how a client has to prove itself on errands.
* `Visit.Proper` — which errands a visit may have, and what it may come to.

## Main results

* `issuedToken?_eq_some_iff`, `issuedToken?_ok` — which token a client takes from an answer.
* `latestToken_iff` — which token it has got last.
* `Visit.proper_nil`, `Visit.proper_singleton`, `Visit.proper_pair`, `Visit.proper_triple` — the
  visits that a client makes are proper.
-/

namespace ImageDiscovery

open Document Http Net

/-! ### Errands -/

/-- What a request is made for. -/
inductive Purpose where
  /-- What lies at a URL. -/
  | content
  /-- A token. -/
  | token
  deriving DecidableEq

/-- An exchange with its purpose and the URL for which it was made. -/
structure Errand where
  purpose : Purpose
  url : Url
  exchange : Exchange
  /-- The request goes to the URL without the user name and the password within it. -/
  url_eq : exchange.request.url = requestUrl url

/-! ### Tokens -/

/-- The answer issues a token: all went well, the answer is complete, and of `token` and
`access_token` this is the first one that is there and not empty. -/
def Issues (answer : Except Failure Response) (token : String) : Prop :=
  ∃ r n a, answer = .ok r ∧ r.isSuccess = true ∧ r.complete = true ∧
    RegistryClient.bodyValue? r.body = some n ∧ SaysTokens n a ∧ token ≠ "" ∧
    (a.token = some token ∨ (a.token = none ∨ a.token = some "") ∧ a.accessToken = some token)

/-- The token that is taken from an answer. -/
def issuedToken? : Except Failure Response → Option String
  | .error _ => none
  | .ok r =>
    if r.isSuccess && r.complete then do
      let a ← (RegistryClient.bodyValue? r.body).bind TokenAnswer.read
      [a.token, a.accessToken].findSome? (·.filter (!·.isEmpty))
    else none

theorem findSome?_token_eq_some_iff {a : TokenAnswer} {token : String} :
    [a.token, a.accessToken].findSome? (·.filter (!·.isEmpty)) = some token ↔ token ≠ "" ∧
      (a.token = some token ∨ (a.token = none ∨ a.token = some "") ∧
        a.accessToken = some token) := by
  have hsome (t : Option String) :
      t.filter (!·.isEmpty) = some token ↔ t = some token ∧ token ≠ "" := by
    simp [Option.filter_eq_some_iff]
  have hnone (t : Option String) : t.filter (!·.isEmpty) = none ↔ t = none ∨ t = some "" := by
    cases t <;> simp
  have hnames : [a.token, a.accessToken] = [a.token] ++ [a.accessToken] := rfl
  rw [hnames, List.findSome?_append, List.findSome?_singleton, List.findSome?_singleton,
    Option.or_eq_some_iff, hsome, hsome, hnone, and_comm (b := token ≠ ""),
    and_comm (b := token ≠ ""), and_left_comm, ← and_or_left]

/-- The token that is taken from an answer is the one that it issues. -/
theorem issuedToken?_eq_some_iff {answer : Except Failure Response} {token : String} :
    issuedToken? answer = some token ↔ Issues answer token := by
  unfold Issues
  cases answer with
  | error f => simp [issuedToken?]
  | ok r =>
    simp only [issuedToken?, Option.ite_none_right_eq_some, Bool.and_eq_true, Option.bind_eq_bind,
      Option.bind_eq_some_iff, finds_tokens _ _, findSome?_token_eq_some_iff, Except.ok.injEq]
    constructor
    · rintro ⟨⟨hsuccess, hcomplete⟩, a, ⟨n, hn, ha⟩, htoken⟩
      exact ⟨r, n, a, rfl, hsuccess, hcomplete, hn, ha, htoken⟩
    · rintro ⟨_, n, a, rfl, hsuccess, hcomplete, hn, ha, htoken⟩
      exact ⟨⟨hsuccess, hcomplete⟩, a, ⟨n, hn, ha⟩, htoken⟩

theorem TokenAnswer.toOption_issued (a : TokenAnswer) :
    a.issued.toOption = [a.token, a.accessToken].findSome? (·.filter (!·.isEmpty)) := by
  unfold issued
  cases htoken : a.token.filter (!·.isEmpty) with
  | some t => simp [htoken, Except.toOption]
  | none =>
    cases haccess : a.accessToken.filter (!·.isEmpty) with
    | some t => simp [htoken, haccess, Except.toOption]
    | none => simp [htoken, haccess, Except.toOption]

theorem RegistryClient.toOption_responseDocument {α : Type} (read : Reader α) (r : Response) :
    (responseDocument read r).toOption =
      if r.complete then (bodyValue? r.body).bind read else none := by
  unfold responseDocument completeBody
  cases r.complete with
  | false => rfl
  | true =>
    rw [if_pos rfl, if_pos rfl]
    cases h : (bodyValue? r.body).bind read with
    | none => simp [bind, Except.bind, h, Except.toOption]
    | some a => simp [bind, Except.bind, h, Except.toOption]

theorem toOption_bind {ε α β : Type} (x : Except ε α) (f : α → Except ε β) :
    (x >>= f).toOption = x.toOption.bind fun a => (f a).toOption := by
  cases x <;> rfl

/-- A client takes from an answer the token that it issues. -/
theorem issuedToken?_ok (r : Response) :
    issuedToken? (.ok r) =
      if r.isSuccess then
        (RegistryClient.responseDocument TokenAnswer.read r >>= (·.issued)).toOption
      else none := by
  rw [toOption_bind, RegistryClient.toOption_responseDocument]
  simp only [issuedToken?, TokenAnswer.toOption_issued]
  cases r.isSuccess <;> cases r.complete <;> rfl

/-- The errand issues a token; only token services do. -/
def Errand.Issues (e : Errand) (token : String) : Prop :=
  e.purpose = .token ∧ ImageDiscovery.Issues e.exchange.answer token

/-- The token that is taken from the answer to an errand. -/
def Errand.issued? (e : Errand) : Option String :=
  match e.purpose with
  | .content => none
  | .token => issuedToken? e.exchange.answer

theorem Errand.issued?_eq_some_iff {e : Errand} {token : String} :
    e.issued? = some token ↔ e.Issues token := by
  unfold issued? Issues
  cases e.purpose with
  | content => simp
  | token => simp [issuedToken?_eq_some_iff]

/-- The token that was issued last on errands, if one was issued. -/
inductive LatestToken : List Errand → Option String → Prop
  | none {es : List Errand} (h : ∀ e ∈ es, ∀ token, ¬ e.Issues token) : LatestToken es none
  | issued {past later : List Errand} {e : Errand} {token : String} (h : e.Issues token)
      (hlater : ∀ e' ∈ later, ∀ token', ¬ e'.Issues token') :
    LatestToken (past ++ e :: later) (some token)

/-- The token that is taken last from the answers to errands. -/
def obtained (es : List Errand) : Option String := es.reverse.findSome? (·.issued?)

@[simp] theorem obtained_nil : obtained [] = none := rfl

theorem obtained_append (es es' : List Errand) :
    obtained (es ++ es') = (obtained es').or (obtained es) := by
  rw [obtained, List.reverse_append, List.findSome?_append]
  rfl

theorem obtained_cons (e : Errand) (es : List Errand) :
    obtained (e :: es) = (obtained es).or e.issued? := by
  rw [← List.singleton_append, obtained_append]
  simp [obtained]

theorem obtained_eq_none_iff {es : List Errand} :
    obtained es = none ↔ ∀ e ∈ es, ∀ token, ¬ e.Issues token := by
  rw [obtained, List.findSome?_eq_none_iff]
  simp only [List.mem_reverse, Option.eq_none_iff_forall_ne_some, ne_eq,
    Errand.issued?_eq_some_iff]

/-- The token that is taken last is the one that was issued last. -/
theorem latestToken_iff {es : List Errand} {token : Option String} :
    LatestToken es token ↔ obtained es = token := by
  constructor
  · rintro (h | ⟨h, hlater⟩)
    · exact obtained_eq_none_iff.2 h
    · rw [obtained_append, obtained_cons, obtained_eq_none_iff.2 hlater,
        Errand.issued?_eq_some_iff.2 h]
      rfl
  · rintro rfl
    cases htoken : obtained es with
    | none => exact .none (obtained_eq_none_iff.1 htoken)
    | some token =>
      obtain ⟨later, e, past, hsplit, he, hlater⟩ := List.findSome?_eq_some_iff.1 htoken
      have hes : es = past.reverse ++ e :: later.reverse := by
        rw [← List.reverse_inj, hsplit]
        simp
      rw [hes]
      refine .issued (Errand.issued?_eq_some_iff.1 he) fun e' he' token' h => ?_
      exact nomatch (hlater e' (List.mem_reverse.1 he')).symm.trans (Errand.issued?_eq_some_iff.2 h)

/-! ### Proofs of the client -/

/-- How a client has to prove itself on an errand, by the token that it got last and by what it is
configured with. -/
def Errand.ProvedBy (e : Errand) (token : Option String) (auth : RegistryAuth) : Prop :=
  match e.purpose with
  | .content => ProvesContent e.url token auth e.exchange.request.authorization
  | .token => ProvesToken e.url auth e.exchange.request.authorization

/-- No token is shown to a token service. -/
theorem Errand.ProvedBy.ne_bearer {e : Errand} {token : Option String} {auth : RegistryAuth}
    (h : e.ProvedBy token auth) (hpurpose : e.purpose = .token) :
    ∀ value ∈ e.exchange.request.authorization, ∀ t, value ≠ "Bearer " ++ t := by
  unfold ProvedBy at h
  rw [hpurpose] at h
  exact fun _ hvalue => h.ne_bearer hvalue

/-- On each errand the client proves itself by the token that it holds at that time. -/
def ProvedAlong (auth : RegistryAuth) : Option String → List Errand → Prop
  | _, [] => True
  | token, e :: es => e.ProvedBy token auth ∧ ProvedAlong auth (e.issued?.or token) es

theorem provedAlong_append {auth : RegistryAuth} (es es' : List Errand) (token : Option String) :
    ProvedAlong auth token (es ++ es') ↔
      ProvedAlong auth token es ∧ ProvedAlong auth ((obtained es).or token) es' := by
  induction es generalizing token with
  | nil => exact (and_iff_right trivial).symm
  | cons e es ih =>
    rw [List.cons_append, ProvedAlong, ProvedAlong, ih, and_assoc, obtained_cons, Option.or_assoc]

theorem ProvedAlong.provedBy {auth : RegistryAuth} {token : Option String}
    {es past later : List Errand} {e : Errand} (h : ProvedAlong auth token es)
    (hsplit : es = past ++ e :: later) : e.ProvedBy ((obtained past).or token) auth := by
  rw [hsplit, provedAlong_append] at h
  exact h.2.1

/-! ### Visits -/

/-- The errands for what lies at a URL, and what comes of them. -/
structure Visit where
  url : String
  accept : Option String
  errands : List Errand
  outcome : Except RegistryError Response

/-- The exchanges of a visit. -/
def Visit.exchanges (v : Visit) : List Exchange := v.errands.map (·.exchange)

/-- The visit finds that nothing lies at the URL. -/
def Visit.IsMissing (v : Visit) : Prop := ∃ r, v.outcome = .ok r ∧ r.status = 404

/-- The answer refuses a request, and names a token service where the token is to be asked for. -/
def Refuses (config : RegistryConfig) (answer : Except Failure Response) (service : Url) : Prop :=
  ∃ r realm name scope address, answer = .ok r ∧ r.status = 401 ∧
    (r.headerText? "www-authenticate").bind Challenge.ofHeader? =
      some (.bearer realm name scope) ∧
    (Challenge.bearer realm name scope).tokenUrl
      ("repository:" ++ config.repository.path ++ ":pull") = .ok address ∧
    Url.ofString? address.text = some service

/-- The content is asked for twice at most, and at most one token is asked for, where the refusal of
the content says. A response is an answer that was given last, and does not refuse. -/
structure Visit.Proper (config : RegistryConfig) (v : Visit) : Prop where
  contents_le : (v.errands.filter (·.purpose = .content)).length ≤ 2
  tokens_le : (v.errands.filter (·.purpose = .token)).length ≤ 1
  content : ∀ e ∈ v.errands, e.purpose = .content →
    Url.ofString? v.url = some e.url ∧ e.exchange.request.accept = v.accept
  token : ∀ e ∈ v.errands, e.purpose = .token →
    ∃ first ∈ v.errands.head?, Refuses config first.exchange.answer e.url
  outcome : ∀ r, v.outcome = .ok r → r.status ≠ 401 ∧
    ∃ last ∈ v.errands.getLast?, last.purpose = .content ∧ last.exchange.answer = .ok r

/-! ### Errands of a client -/

/-- An errand for what lies at a URL, with the token that is held. -/
structure Errand.IsContent (e : Errand) (config : RegistryConfig) (url : String)
    (accept token : Option String) : Prop where
  purpose_eq : e.purpose = .content
  asked_eq : Url.ofString? url = some e.url
  accept_eq : e.exchange.request.accept = accept
  authorization_eq : e.exchange.request.authorization =
    RegistryClient.contentProofs (RegistryClient.authorization token config.auth) e.url

theorem Errand.IsContent.provedBy {e : Errand} {config : RegistryConfig} {url : String}
    {accept token : Option String} (h : e.IsContent config url accept token) :
    e.ProvedBy token config.auth := by
  unfold ProvedBy
  rw [h.purpose_eq, h.authorization_eq]
  exact provesContent e.url token config.auth

theorem Errand.IsContent.issued?_eq_none {e : Errand} {config : RegistryConfig} {url : String}
    {accept token : Option String} (h : e.IsContent config url accept token) :
    e.issued? = none := by
  rw [issued?, h.purpose_eq]

/-- An errand for a token, where it is to be asked for. -/
structure Errand.IsToken (e : Errand) (config : RegistryConfig) (c : Challenge) : Prop where
  purpose_eq : e.purpose = .token
  asked_eq : ∃ address,
    c.tokenUrl ("repository:" ++ config.repository.path ++ ":pull") = .ok address ∧
      Url.ofString? address.text = some e.url
  authorization_eq :
    e.exchange.request.authorization = RegistryClient.tokenProofs config.auth e.url

theorem Errand.IsToken.provedBy {e : Errand} {config : RegistryConfig} {c : Challenge}
    (h : e.IsToken config c) (token : Option String) : e.ProvedBy token config.auth := by
  unfold ProvedBy
  rw [h.purpose_eq, h.authorization_eq]
  exact provesToken e.url config.auth

section

variable {config : RegistryConfig} {url : String} {accept token token' : Option String}
  {e₁ e₂ e₃ : Errand} {realm : String} {name scope : Option String} {r : Response}
  {outcome : Except RegistryError Response}

theorem Errand.IsToken.refuses {e : Errand} (he : e.IsToken config (.bearer realm name scope))
    {answer : Except Failure Response} (hanswer : answer = .ok r) (hstatus : r.status = 401)
    (hchallenge : (r.headerText? "www-authenticate").bind Challenge.ofHeader? =
      some (.bearer realm name scope)) : Refuses config answer e.url := by
  obtain ⟨address, haddress, hurl⟩ := he.asked_eq
  exact ⟨r, realm, name, scope, address, hanswer, hstatus, hchallenge, haddress, hurl⟩

namespace Visit

/-- No request is made. -/
theorem proper_nil (failed : RegistryError) : Proper config ⟨url, accept, [], .error failed⟩ where
  contents_le := Nat.zero_le 2
  tokens_le := Nat.zero_le 1
  content _ he := absurd he List.not_mem_nil
  token _ he := absurd he List.not_mem_nil
  outcome _ hr := nomatch hr

/-- The content is asked for once. -/
theorem proper_singleton (he₁ : e₁.IsContent config url accept token)
    (houtcome : ∀ r, outcome = .ok r → r.status ≠ 401 ∧ e₁.exchange.answer = .ok r) :
    Proper config ⟨url, accept, [e₁], outcome⟩ where
  contents_le := by simp [he₁.purpose_eq]
  tokens_le := by simp [he₁.purpose_eq]
  content := by simp [he₁.purpose_eq, he₁.asked_eq, he₁.accept_eq]
  token := by simp [he₁.purpose_eq]
  outcome r hr := ⟨(houtcome r hr).1, e₁, rfl, he₁.purpose_eq, (houtcome r hr).2⟩

/-- After the content, a token is asked for in vain. -/
theorem proper_pair (he₁ : e₁.IsContent config url accept token)
    (he₂ : e₂.IsToken config (.bearer realm name scope))
    (hrefused : Refuses config e₁.exchange.answer e₂.url)
    (failed : RegistryError) : Proper config ⟨url, accept, [e₁, e₂], .error failed⟩ where
  contents_le := by simp [he₁.purpose_eq, he₂.purpose_eq]
  tokens_le := by simp [he₁.purpose_eq, he₂.purpose_eq]
  content := by simp [he₁.purpose_eq, he₂.purpose_eq, he₁.asked_eq, he₁.accept_eq]
  token := by simp [he₁.purpose_eq, he₂.purpose_eq, hrefused]
  outcome _ hr := nomatch hr

/-- The content is asked for once more with a new token. -/
theorem proper_triple (he₁ : e₁.IsContent config url accept token)
    (he₂ : e₂.IsToken config (.bearer realm name scope))
    (hrefused : Refuses config e₁.exchange.answer e₂.url)
    (he₃ : e₃.IsContent config url accept token')
    (houtcome : ∀ r, outcome = .ok r → r.status ≠ 401 ∧ e₃.exchange.answer = .ok r) :
    Proper config ⟨url, accept, [e₁, e₂, e₃], outcome⟩ where
  contents_le := by simp [he₁.purpose_eq, he₂.purpose_eq, he₃.purpose_eq]
  tokens_le := by simp [he₁.purpose_eq, he₂.purpose_eq, he₃.purpose_eq]
  content e he hpurpose := by
    simp only [List.mem_cons, List.not_mem_nil, or_false] at he
    rcases he with rfl | rfl | rfl
    · exact ⟨he₁.asked_eq, he₁.accept_eq⟩
    · exact absurd (he₂.purpose_eq.symm.trans hpurpose) nofun
    · exact ⟨he₃.asked_eq, he₃.accept_eq⟩
  token := by simp [he₁.purpose_eq, he₂.purpose_eq, he₃.purpose_eq, hrefused]
  outcome r hr := ⟨(houtcome r hr).1, e₃, rfl, he₃.purpose_eq, (houtcome r hr).2⟩

end Visit

end

end ImageDiscovery
