import ImageDiscovery.Proofs.Registry.Visit

/-!
# Reading a URL

What a client exchanges when it reads a URL, step by step: a request for the content, a request for
a token where the content is refused, and the request for the content with the new token. Each
request may also not be made at all, since the URL or the proof of the client is not fit for one.

## Main definitions

* `RegistryClient.Sends`, `RegistryClient.Fetches`, `RegistryClient.Reads` — what a client
  exchanges.
* `RegistryClient.Visits` — a client reads a URL by a visit.

## Main results

* `RegistryClient.exists_sends`, `RegistryClient.exists_fetches` — requests for content and tokens.
* `RegistryClient.exists_visits` — a client reads each URL by a proper visit.
* `RegistryClient.exists_visits_makes` — so it does where it goes on with what it read.
-/

namespace ImageDiscovery

open Document Http Net

variable {σ α : Type} (c : RegistryClient (StateM σ))

namespace RegistryClient

/-- A request is either not made at all, or exchanged with the proofs that belong to its URL. -/
theorem makes_request (url : String) (accept : Option String) (proofs : Url → List String)
    (s : Option String × σ) :
    Makes (c.request url accept proofs).run (c.recorded.request url accept proofs).run s []
      (.error .incomplete) s ∨
    ∃ (u : Url) (e : Exchange) (y : σ), Url.ofString? url = some u ∧
      e.request.url = requestUrl u ∧ e.request.accept = accept ∧
      e.request.authorization = proofs u ∧
      Makes (c.request url accept proofs).run (c.recorded.request url accept proofs).run s [e]
        (e.answer.mapError failure) (s.1, y) := by
  unfold request
  cases hurl : (Url.ofString? url).filter isWebScheme with
  | none => exact .inl (makes_throw _ s)
  | some u =>
    obtain ⟨answer, y, h⟩ :=
      c.makes_exchange ⟨requestUrl u, accept, proofs u, c.config.options.userAgent⟩ s
    exact .inr ⟨u, _, y, (Option.filter_eq_some_iff.1 hurl).1, rfl, rfl, rfl, h⟩

/-- From a token and a state of the world, the client asks once for what lies at a URL. -/
abbrev Sends (url : String) (accept : Option String) (s : Option String × σ)
    (es : List Exchange) (outcome : Except RegistryError Response) (s' : Option String × σ) :
    Prop :=
  Makes (c.send url accept).run (c.recorded.send url accept).run s es outcome s'

/-- From a token and a state of the world, the client asks for a new token. -/
abbrev Fetches (challenge : Challenge) (s : Option String × σ) (es : List Exchange)
    (outcome : Except RegistryError String) (s' : Option String × σ) : Prop :=
  Makes (c.fetchToken challenge).run (c.recorded.fetchToken challenge).run s es outcome s'

/-- From a token and a state of the world, the client reads a URL. -/
abbrev Reads (url : String) (accept : Option String) (s : Option String × σ)
    (es : List Exchange) (outcome : Except RegistryError Response) (s' : Option String × σ) :
    Prop :=
  Makes (c.get url accept).run (c.recorded.get url accept).run s es outcome s'

/-- A request with the proof of the client is either not made at all, or for content. -/
theorem exists_sends (url : String) (accept : Option String) (s : Option String × σ) :
    (∃ failed, c.Sends url accept s [] (.error failed) s) ∨
    ∃ e y, Errand.IsContent e c.config url accept s.1 ∧
      c.Sends url accept s [e.exchange] (e.exchange.answer.mapError failure) (s.1, y) := by
  unfold Sends send
  rw [recorded_config]
  by_cases hproof : (authorization s.1 c.config.auth).all isHeaderValue = true
  · rcases c.makes_request url accept (contentProofs (authorization s.1 c.config.auth)) s with
      h | ⟨u, e, y, hurl, hrequest, haccept, hauthorization, h⟩
    · refine .inl ⟨.incomplete, (makes_get s).bind_quiet ?_⟩
      rwa [if_pos hproof, if_pos hproof]
    · refine .inr ⟨⟨.content, u, e, hrequest⟩, y, ⟨rfl, hurl, haccept, hauthorization⟩,
        (makes_get s).bind_quiet ?_⟩
      rwa [if_pos hproof, if_pos hproof]
  · refine .inl ⟨.authenticationFailed "Invalid credentials", (makes_get s).bind_quiet ?_⟩
    rw [if_neg hproof, if_neg hproof]
    exact makes_throw _ s

theorem liftM_bind {m : Type → Type} [Monad m] [LawfulMonad m] {α β : Type}
    (x : Except RegistryError α) (f : α → Except RegistryError β) :
    (liftM (x >>= f) : ClientM m β) = liftM x >>= fun a => liftM (f a) := by
  refine ExceptT.ext ?_
  rw [ExceptT.run_bind]
  change _ = pure x >>= _
  rw [pure_bind]
  cases x <;> rfl

/-- What a client makes of the answer of a token service is settled by the answer. -/
theorem ite_issued_eq_liftM {m : Type → Type} [Monad m] [LawfulMonad m] (r : Response)
    (failed : RegistryError) :
    (if r.isSuccess then liftM (responseDocument TokenAnswer.read r) >>= fun a => liftM a.issued
      else throw failed : ClientM m String) =
    liftM (if r.isSuccess then responseDocument TokenAnswer.read r >>= (·.issued)
      else .error failed) := by
  cases r.isSuccess with
  | false => rfl
  | true => rw [if_pos rfl, if_pos rfl, liftM_bind]

/-- A token is either not asked for at all, or once, and it is the one that the answer issues. -/
theorem exists_fetches (challenge : Challenge) (s : Option String × σ) :
    (∃ failed, c.Fetches challenge s [] (.error failed) s) ∨
    ∃ e outcome y, Errand.IsToken e c.config challenge ∧ outcome.toOption = e.issued? ∧
      c.Fetches challenge s [e.exchange] outcome (s.1, y) := by
  unfold Fetches fetchToken
  rw [recorded_config]
  cases haddress : challenge.tokenUrl ("repository:" ++ c.config.repository.path ++ ":pull") with
  | error failed => exact .inl ⟨failed, (makes_liftM (.error failed) s).bind_error⟩
  | ok address =>
    rcases c.makes_request address.text none (tokenProofs c.config.auth) s with
      h | ⟨u, e, y, hurl, hrequest, -, hauthorization, h⟩
    · exact .inl ⟨.incomplete, (makes_liftM (.ok address) s).bind_ok h.bind_error⟩
    · have he : Errand.IsToken ⟨.token, u, e, hrequest⟩ c.config challenge :=
        ⟨rfl, ⟨address, haddress, hurl⟩, hauthorization⟩
      cases hanswer : e.answer with
      | error f =>
        rw [hanswer] at h
        have hissued : issuedToken? e.answer = none := by rw [hanswer, issuedToken?]
        exact .inr ⟨_, .error (failure f), y, he, hissued.symm,
          (makes_liftM (.ok address) s).bind_quiet h.bind_error⟩
      | ok r =>
        rw [hanswer] at h
        let outcome := if r.isSuccess then responseDocument TokenAnswer.read r >>= (·.issued)
          else .error (.authenticationFailed ("token request to " ++
            (address.host.map (·.text)).getD "realm" ++ " failed with " ++ statusText r.status))
        refine .inr ⟨_, outcome, y, he, ?_, (makes_liftM (.ok address) s).bind_quiet ?_⟩
        · change outcome.toOption = issuedToken? e.answer
          rw [hanswer, issuedToken?_ok, apply_ite Except.toOption]
          rfl
        · simp only [ite_issued_eq_liftM]
          exact h.bind_ok (makes_liftM _ (s.1, y))

section

variable {c} {url : String} {accept : Option String} {s s₁ s₂ s₃ : Option String × σ}
  {es es' es'' : List Exchange} {r : Response} {realm : String} {name scope : Option String}

/-- A response that does not refuse is what the client reads. -/
theorem Sends.reads (h : c.Sends url accept s es (.ok r) s₁) (hstatus : r.status ≠ 401) :
    c.Reads url accept s es (.ok r) s₁ := by
  refine h.bind_rest ?_
  rw [if_pos hstatus, if_pos hstatus]
  exact makes_pure _ s₁

/-- A refusal that asks for no token is a failure. -/
theorem Sends.exists_reads_error (h : c.Sends url accept s es (.ok r) s₁)
    (hstatus : r.status = 401)
    (hchallenge : ∀ realm name scope, (r.headerText? "www-authenticate").bind Challenge.ofHeader? ≠
      some (.bearer realm name scope)) :
    ∃ failed, c.Reads url accept s es (.error failed) s₁ := by
  refine ⟨.authenticationFailed
    ("registry rejected credentials for " ++ c.config.repository.text), ?_⟩
  refine h.bind_rest ?_
  rw [if_neg (not_not.2 hstatus), if_neg (not_not.2 hstatus)]
  split
  · next hbearer => exact absurd hbearer (hchallenge _ _ _)
  · exact makes_throw _ s₁

section

variable (h : c.Sends url accept s es (.ok r) s₁) (hstatus : r.status = 401)
  (hchallenge : (r.headerText? "www-authenticate").bind Challenge.ofHeader? =
    some (.bearer realm name scope))
include h hstatus hchallenge

/-- Without a new token the client fails. -/
theorem Sends.reads_of_fetches_error {failed : RegistryError}
    (htoken : c.Fetches (.bearer realm name scope) s₁ es' (.error failed) s₂) :
    c.Reads url accept s (es ++ es') (.error failed) s₂ := by
  refine h.bind_ok ?_
  rw [if_neg (not_not.2 hstatus), if_neg (not_not.2 hstatus), hchallenge]
  exact htoken.bind_error

/-- With a new token the client asks once more, and reads no other refusal. -/
theorem Sends.exists_reads_of_fetches {token : String}
    {outcome : Except RegistryError Response}
    (htoken : c.Fetches (.bearer realm name scope) s₁ es' (.ok token) s₂)
    (h' : c.Sends url accept (some token, s₂.2) es'' outcome s₃) :
    ∃ outcome', c.Reads url accept s (es ++ (es' ++ es'')) outcome' s₃ ∧
      ∀ r, outcome' = .ok r → r.status ≠ 401 ∧ outcome = .ok r := by
  let checked : Except RegistryError Response := outcome >>= fun last =>
    if last.status = 401 then
      .error (.authenticationFailed ("registry rejected token for " ++ c.config.repository.text))
    else .ok last
  refine ⟨checked, h.bind_ok ?_, ?_⟩
  · rw [if_neg (not_not.2 hstatus), if_neg (not_not.2 hstatus), hchallenge]
    refine htoken.bind_ok ((makes_set (some token) s₂).bind_quiet ?_)
    cases outcome with
    | error failed => exact h'.bind_error
    | ok last =>
      refine h'.bind_rest ?_
      change Makes _ _ s₃ [] (if last.status = 401 then _ else _) s₃
      by_cases hlast : last.status = 401
      · rw [if_pos hlast, if_pos hlast, if_pos hlast]
        exact (makes_throw _ s₃).bind_error
      · rw [if_neg hlast, if_neg hlast, if_neg hlast]
        exact makes_pure _ s₃
  · intro r hr
    cases outcome with
    | error failed => exact nomatch hr
    | ok last =>
      change (if last.status = 401 then _ else _) = _ at hr
      split at hr
      · exact nomatch hr
      · next hlast =>
        obtain rfl := Except.ok.inj hr
        exact ⟨hlast, rfl⟩

end

end

/-! ### Visits of a client -/

/-- From a token and a state of the world, the client reads a URL by a visit. -/
structure Visits (s : Option String × σ) (v : Visit) (s' : Option String × σ) : Prop where
  makes : c.Reads v.url v.accept s v.exchanges v.outcome s'
  proper : v.Proper c.config
  proved : ProvedAlong c.config.auth s.1 v.errands
  token_eq : s'.1 = (obtained v.errands).or s.1

section

variable {c} {url : String} {accept : Option String} {s : Option String × σ} {y : σ}
  {e₁ e₂ e₃ : Errand} {realm : String} {name scope : Option String}
  {outcome : Except RegistryError Response}

theorem Reads.visits_singleton (he₁ : e₁.IsContent c.config url accept s.1)
    (h : c.Reads url accept s [e₁.exchange] outcome (s.1, y))
    (houtcome : ∀ r, outcome = .ok r → r.status ≠ 401 ∧ e₁.exchange.answer = .ok r) :
    c.Visits s ⟨url, accept, [e₁], outcome⟩ (s.1, y) where
  makes := h
  proper := Visit.proper_singleton he₁ houtcome
  proved := ⟨he₁.provedBy, trivial⟩
  token_eq := by simp [obtained_cons, he₁.issued?_eq_none]

theorem Reads.visits_pair (he₁ : e₁.IsContent c.config url accept s.1)
    (he₂ : e₂.IsToken c.config (.bearer realm name scope))
    (hrefused : Refuses c.config e₁.exchange.answer e₂.url)
    {failed : RegistryError}
    (h : c.Reads url accept s [e₁.exchange, e₂.exchange] (.error failed)
      (e₂.issued?.or s.1, y)) :
    c.Visits s ⟨url, accept, [e₁, e₂], .error failed⟩ (e₂.issued?.or s.1, y) where
  makes := h
  proper := Visit.proper_pair he₁ he₂ hrefused failed
  proved := ⟨he₁.provedBy, he₂.provedBy _, trivial⟩
  token_eq := by simp [obtained_cons, he₁.issued?_eq_none]

theorem Reads.visits_triple {token : String} (he₁ : e₁.IsContent c.config url accept s.1)
    (he₂ : e₂.IsToken c.config (.bearer realm name scope))
    (hrefused : Refuses c.config e₁.exchange.answer e₂.url)
    (hissued : e₂.issued? = some token)
    (he₃ : e₃.IsContent c.config url accept (some token))
    (h : c.Reads url accept s [e₁.exchange, e₂.exchange, e₃.exchange] outcome (some token, y))
    (houtcome : ∀ r, outcome = .ok r → r.status ≠ 401 ∧ e₃.exchange.answer = .ok r) :
    c.Visits s ⟨url, accept, [e₁, e₂, e₃], outcome⟩ (some token, y) where
  makes := h
  proper := Visit.proper_triple he₁ he₂ hrefused he₃ houtcome
  proved := by
    refine ⟨he₁.provedBy, he₂.provedBy _, ?_, trivial⟩
    rw [hissued, Option.some_or]
    exact he₃.provedBy
  token_eq := by simp [obtained_cons, he₃.issued?_eq_none, hissued]

theorem ok_of_mapError_failure {answer : Except Failure Response} {r : Response}
    (h : answer.mapError failure = .ok r) : answer = .ok r := by
  cases answer with
  | error f => exact nomatch h
  | ok last => exact congrArg Except.ok (Except.ok.inj h)

section

variable {r : Response} {y₁ y₂ : σ} (he₁ : e₁.IsContent c.config url accept s.1)
  (hanswer : e₁.exchange.answer = .ok r)
  (h₁ : c.Sends url accept s [e₁.exchange] (.ok r) (s.1, y₁)) (hstatus : r.status = 401)
include he₁ hanswer h₁ hstatus

/-- With the token that it got, the client asks once more. -/
theorem Sends.exists_visits_of_token {token : String}
    (hchallenge : (r.headerText? "www-authenticate").bind Challenge.ofHeader? =
      some (.bearer realm name scope))
    (he₂ : e₂.IsToken c.config (.bearer realm name scope)) (hissued : e₂.issued? = some token)
    (h₂ : c.Fetches (.bearer realm name scope) (s.1, y₁) [e₂.exchange] (.ok token) (s.1, y₂)) :
    ∃ v s', v.url = url ∧ v.accept = accept ∧ c.Visits s v s' := by
  have hrefused := he₂.refuses hanswer hstatus hchallenge
  rcases c.exists_sends url accept (some token, y₂) with ⟨failed, h₃⟩ | ⟨e₃, y₃, he₃, h₃⟩
  · -- the token cannot stand in a header
    obtain ⟨outcome, h, hread⟩ := h₁.exists_reads_of_fetches hstatus hchallenge h₂ h₃
    cases outcome with
    | ok r => exact nomatch (hread r rfl).2
    | error failed =>
      have htoken : some token = e₂.issued?.or s.1 := by rw [hissued, Option.some_or]
      exact ⟨_, _, rfl, rfl, Reads.visits_pair he₁ he₂ hrefused (htoken ▸ h)⟩
  · obtain ⟨outcome, h, hread⟩ := h₁.exists_reads_of_fetches hstatus hchallenge h₂ h₃
    refine ⟨_, _, rfl, rfl,
      Reads.visits_triple he₁ he₂ hrefused hissued he₃ h fun last hlast => ?_⟩
    obtain ⟨hne, hanswer₃⟩ := hread last hlast
    exact ⟨hne, ok_of_mapError_failure hanswer₃⟩

/-- If it is refused, the client asks for a token if it is told to. -/
theorem Sends.exists_visits_of_refused :
    ∃ v s', v.url = url ∧ v.accept = accept ∧ c.Visits s v s' := by
  by_cases hchallenge : ∃ realm name scope,
    (r.headerText? "www-authenticate").bind Challenge.ofHeader? = some (.bearer realm name scope)
  · obtain ⟨realm, name, scope, hchallenge⟩ := hchallenge
    rcases c.exists_fetches (.bearer realm name scope) (s.1, y₁) with
      ⟨failed, h₂⟩ | ⟨e₂, outcome, y₂, he₂, hissued, h₂⟩
    · have h := h₁.reads_of_fetches_error hstatus hchallenge h₂
      exact ⟨_, _, rfl, rfl, Reads.visits_singleton he₁ h nofun⟩
    cases outcome with
    | error failed =>
      have h := h₁.reads_of_fetches_error hstatus hchallenge h₂
      have hrefused := he₂.refuses hanswer hstatus hchallenge
      have htoken : s.1 = e₂.issued?.or s.1 := by rw [← hissued]; rfl
      exact ⟨_, _, rfl, rfl, Reads.visits_pair he₁ he₂ hrefused (htoken ▸ h)⟩
    | ok token =>
      exact h₁.exists_visits_of_token he₁ hanswer hstatus hchallenge he₂ hissued.symm h₂
  · have hnone (realm : String) (name scope : Option String) :
        (r.headerText? "www-authenticate").bind Challenge.ofHeader? ≠
          some (.bearer realm name scope) :=
      fun h => hchallenge ⟨realm, name, scope, h⟩
    obtain ⟨failed, h⟩ := h₁.exists_reads_error hstatus hnone
    exact ⟨_, _, rfl, rfl, Reads.visits_singleton he₁ h nofun⟩

end

end

/-- **Reading a URL.** Whatever the servers answer, the client reads the URL by a proper visit. It
proves itself on each errand by the token that it holds at that time, and in the end it holds the
token that was issued last, if one was issued. -/
theorem exists_visits (url : String) (accept : Option String) (s : Option String × σ) :
    ∃ v s', v.url = url ∧ v.accept = accept ∧ c.Visits s v s' := by
  rcases c.exists_sends url accept s with ⟨failed, h₁⟩ | ⟨e₁, y₁, he₁, h₁⟩
  · exact ⟨⟨url, accept, [], .error failed⟩, s, rfl, rfl, h₁.bind_error,
      Visit.proper_nil failed, trivial, rfl⟩
  cases hanswer : e₁.exchange.answer with
  | error f =>
    rw [hanswer] at h₁
    exact ⟨_, _, rfl, rfl, Reads.visits_singleton he₁ h₁.bind_error nofun⟩
  | ok r =>
    rw [hanswer] at h₁
    by_cases hstatus : r.status = 401
    · exact h₁.exists_visits_of_refused he₁ hanswer hstatus
    · refine ⟨_, _, rfl, rfl, Reads.visits_singleton he₁ (h₁.reads hstatus) ?_⟩
      rintro last ⟨⟩
      exact ⟨hstatus, hanswer⟩

/-- What a client makes of the response at a URL, without another request, is made of the visit. -/
theorem exists_visits_makes (url : String) (accept : Option String)
    (f : Response → Except RegistryError α) (s : Option String × σ) :
    ∃ v s', v.url = url ∧ v.accept = accept ∧ c.Visits s v s' ∧
      Makes (c.get url accept >>= fun r => liftM (f r)).run
        (c.recorded.get url accept >>= fun r => liftM (f r)).run s v.exchanges (v.outcome >>= f)
        s' := by
  obtain ⟨v, s', rfl, rfl, hvisit⟩ := c.exists_visits url accept s
  refine ⟨v, s', rfl, rfl, hvisit, ?_⟩
  have hreads : c.Reads v.url v.accept s v.exchanges v.outcome s' := hvisit.makes
  cases houtcome : v.outcome with
  | error e =>
    rw [houtcome] at hreads
    exact hreads.bind_error
  | ok r =>
    rw [houtcome] at hreads
    exact hreads.bind_rest (makes_liftM (f r) s')

end RegistryClient

end ImageDiscovery
