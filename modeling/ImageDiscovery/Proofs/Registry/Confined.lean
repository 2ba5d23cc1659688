import ImageDiscovery.Http.Script
import ImageDiscovery.Proofs.Net.Origin
import ImageDiscovery.Proofs.Registry.Session

/-!
# Where a client proves itself

A client shows what it is configured with, or the token that it got, with each request for content.
As long as it reads its registry this stays there; a token service sees a user name and a password
only where a refusal has named the service. But a page of tags may link anywhere, and the client
proves itself there too. So its proof is confined to the registry in those sessions in which no link
that is followed leads away from it, and in no others.

## Main definitions

* `Repository.Serves` — a URL names the server of a repository.
* `Visit.Confined` — no request of a visit shows the proof of the client where it does not belong.
* `Visit.AtRegistry` — a visit asks for content only at the registry.

## Main results

* `Repository.IsApiUrl.serves` — the URLs of the registry name its server.
* `RegistryClient.Tour.confined_iff` — a visit is confined if it is made at the registry.
* `RegistryClient.confined_iff_links_at_registry` — sessions in which the proof is confined.
* `strayClient_shows_password` — a session in which it is not confined.
-/

namespace ImageDiscovery

open Http Net

variable {σ : Type}

/-! ### The server of a repository -/

/-- The URL names the server of the repository: its scheme, its host and its port. -/
def Repository.Serves (r : Repository) (u : Url) : Prop :=
  (Url.ofString? r.apiUrl).map Url.origin = some u.origin

instance (r : Repository) (u : Url) : Decidable (r.Serves u) :=
  inferInstanceAs (Decidable (_ = _))

/-- The URLs of the registry name its server. -/
theorem Repository.IsApiUrl.serves {r : Repository} {url : String} {u : Url} (h : r.IsApiUrl url)
    (hu : Url.ofString? url = some u) : r.Serves u := by
  obtain ⟨path, rfl⟩ := h
  unfold Serves apiUrl
  rw [Url.map_origin_ofString? r.baseUrl r.path path, hu]
  rfl

/-- A request goes to the server that its URL names. -/
theorem Repository.serves_requestUrl_iff {r : Repository} {u : Url} :
    r.Serves (requestUrl u) ↔ r.Serves u := by
  have horigin : (requestUrl u).origin = u.origin := by
    unfold requestUrl
    split <;> rfl
  rw [Serves, Serves, horigin]

/-! ### Visits -/

namespace Visit

/-- The client proves itself at the registry only, or with the request for a token at the service
that a refusal names. -/
def Confined (config : RegistryConfig) (v : Visit) : Prop :=
  ∀ e ∈ v.errands, e.exchange.request.authorization ≠ [] →
    config.repository.Serves e.exchange.request.url ∨
    e.purpose = .token ∧ ∃ first ∈ v.errands.head?,
      Refuses config first.exchange.answer e.url

/-- Content is asked for at the registry only. -/
def AtRegistry (config : RegistryConfig) (v : Visit) : Prop :=
  ∀ e ∈ v.errands, e.purpose = .content → config.repository.Serves e.exchange.request.url

variable {config : RegistryConfig} {v : Visit}

theorem Proper.atRegistry (h : v.Proper config) (hurl : config.repository.IsApiUrl v.url) :
    v.AtRegistry config :=
  fun e he hpurpose => by
    rw [e.url_eq, Repository.serves_requestUrl_iff]
    exact hurl.serves (h.content e he hpurpose).1

theorem Proper.confined (h : v.Proper config) (hv : v.AtRegistry config) : v.Confined config := by
  intro e he _
  cases hpurpose : e.purpose with
  | content => exact .inl (hv e he hpurpose)
  | token => exact .inr ⟨rfl, h.token e he hpurpose⟩

theorem Confined.atRegistry (h : v.Confined config)
    (hproved : ∀ e ∈ v.errands, e.purpose = .content → e.exchange.request.authorization ≠ []) :
    v.AtRegistry config := by
  intro e he hpurpose
  rcases h e he (hproved e he hpurpose) with hserves | ⟨htoken, -⟩
  · exact hserves
  · exact absurd (hpurpose.symm.trans htoken) nofun

end Visit

/-- A client that is configured to prove itself does so with each request for content. -/
theorem Errand.ProvedBy.authorization_ne_nil {e : Errand} {token : Option String}
    {auth : RegistryAuth} (h : e.ProvedBy token auth) (hauth : auth ≠ .anonymous)
    (hpurpose : e.purpose = .content) : e.exchange.request.authorization ≠ [] := by
  unfold ProvedBy at h
  rw [hpurpose] at h
  exact h.ne_nil hauth

/-! ### Sessions -/

namespace RegistryClient

theorem Tour.authorization_ne_nil {c : RegistryClient (StateM σ)} {s s' : Option String × σ}
    {visits : List Visit} {v : Visit} {e : Errand} (h : c.Tour s visits s')
    (hauth : c.config.auth ≠ .anonymous) (hv : v ∈ visits) (he : e ∈ v.errands)
    (hpurpose : e.purpose = .content) : e.exchange.request.authorization ≠ [] := by
  obtain ⟨past, later, hsplit⟩ := List.append_of_mem (List.mem_flatMap.2 ⟨v, hv, he⟩)
  exact (h.proved.provedBy hsplit).authorization_ne_nil hauth hpurpose

/-- On a tour of a client that proves itself, a visit is confined if it is made at the registry, and
only then. -/
theorem Tour.confined_iff {c : RegistryClient (StateM σ)} {s s' : Option String × σ}
    {visits : List Visit} {v : Visit} (h : c.Tour s visits s')
    (hauth : c.config.auth ≠ .anonymous) (hv : v ∈ visits) :
    v.Confined c.config ↔ v.AtRegistry c.config :=
  ⟨fun hconfined => hconfined.atRegistry fun _ he hpurpose =>
    h.authorization_ne_nil hauth hv he hpurpose, (h.proper v hv).confined⟩

variable (c : RegistryClient (StateM σ))

/-- **Where a client proves itself.** Whatever the servers answer, all that a client exchanges in a
session is a tour of proper visits. The client shows what it is configured with, and the tokens that
it got, to the registry of its repository only, and to token services that refusals name, if and
only if each page of tags that it reads by following a link is asked for at the registry. -/
theorem confined_iff_links_at_registry (hauth : c.config.auth ≠ .anonymous)
    (calls : List ClientCall) (x : σ) : ∃ visits replies token y,
    Makes (c.answers calls) (c.recorded.answers calls) (none, x)
      (visits.flatMap (·.exchanges)) replies (token, y) ∧
    c.Tour (none, x) visits (token, y) ∧
    (∀ v ∈ visits, v.Proper c.config) ∧
    ((∀ v ∈ visits, v.Confined c.config) ↔
      ∀ past u v later, visits = past ++ u :: v :: later → u.LinksTo v.url →
        v.AtRegistry c.config) := by
  obtain ⟨visits, replies, ⟨token, y⟩, hmakes, htour, hroute⟩ := c.routes_answers calls (none, x)
  refine ⟨visits, replies, token, y, hmakes, htour, htour.proper,
    fun h past u v later hsplit _ => ?_, fun h v hv => ?_⟩
  · have hv : v ∈ visits := by
      rw [hsplit]
      exact List.mem_append_right _ (List.mem_cons_of_mem u List.mem_cons_self)
    exact (htour.confined_iff hauth hv).1 (h v hv)
  · refine (htour.confined_iff hauth hv).2 ?_
    obtain ⟨past, later, hsplit⟩ := List.append_of_mem hv
    rcases (hsplit ▸ hroute).isApiUrl_or_linksTo with hurl | ⟨u, hu, hlink⟩
    · exact (htour.proper v hv).atRegistry hurl
    · rw [Option.or_none] at hu
      obtain ⟨past, rfl⟩ := List.getLast?_eq_some_iff.1 hu
      exact h past u v later (by rw [hsplit, List.append_assoc]; rfl) hlink

end RegistryClient

/-! ### A link that leads away -/

/-- A registry whose first page of tags links to a page on another server. -/
def strayScript : Script :=
  let body := "\x7b\x7d".toUTF8.toList
  let link := "<http://other.test/tags>; rel=\"next\"".toUTF8.toList
  [("http://reg.test/v2/acme/web/tags/list?n=1000", [some ⟨200, [("link", link)], body, true⟩]),
    ("http://other.test/tags", [some ⟨200, [], body, true⟩])]

/-- A client of that registry, with a user name and a password. -/
def strayClient : RegistryClient (StateM Journal) where
  config := ⟨⟨"http", "reg.test", "acme/web"⟩, .basic "user" "pass", .initial⟩
  transport := strayScript.transport.following

theorem strayClient_confined_iff : strayClient.config.auth ≠ .anonymous ∧
    ∃ visits replies token y,
      Makes (strayClient.answers [.listTags]) (strayClient.recorded.answers [.listTags])
        (none, []) (visits.flatMap (·.exchanges)) replies (token, y) ∧
      strayClient.Tour (none, []) visits (token, y) ∧
      (∀ v ∈ visits, v.Proper strayClient.config) ∧
      ((∀ v ∈ visits, v.Confined strayClient.config) ↔
        ∀ past u v later, visits = past ++ u :: v :: later → u.LinksTo v.url →
          v.AtRegistry strayClient.config) :=
  ⟨nofun, strayClient.confined_iff_links_at_registry nofun [.listTags] []⟩

/-- What the client exchanges to list the tags. -/
def strayExchanges : List Exchange :=
  ((((strayClient.recorded.answers [.listTags]).run none).run []).run []).1.2

/-- No request is refused, and still the other server gets to see the password. -/
theorem strayClient_shows_password :
    (∀ e ∈ strayExchanges, e.answer.toOption.map (·.status) = some 200) ∧
    ∃ e ∈ strayExchanges,
      e.request.authorization = ["Basic dXNlcjpwYXNz"] ∧
      e.request.url.text = "http://other.test/tags" ∧
      ¬ strayClient.config.repository.Serves e.request.url := by
  decide +kernel

end ImageDiscovery
