import ImageDiscovery.Proofs.Registry.Visit

/-!
# Routes

Most URLs that a client reads lie below the address of its registry. The others it takes from the
pages of tags: a page may link to the next one, wherever that lies. So visits that are made one
after another keep to a route on which each one goes to the registry, or to where the one just
before it links.

## Main definitions

* `Visit.LinksTo` — a page that was read links to a URL.
* `Repository.IsApiUrl` — a URL lies below the address of the registry.
* `OnRoute` — visits that keep to a route.

## Main results

* `OnRoute.append` — a route goes on with any route from the registry.
* `OnRoute.isApiUrl_or_linksTo` — where a visit on a route goes to.
-/

namespace ImageDiscovery

open Document Http Net

/-- The visit reads a page that links to the URL as the next page. -/
def Visit.LinksTo (v : Visit) (url : String) : Prop :=
  ∃ r, v.outcome = .ok r ∧ Link.nextPage v.url (r.headerText? "link") = .ok (some url)

/-- The URL lies below the address at which the registry of the repository is read. -/
def Repository.IsApiUrl (r : Repository) (url : String) : Prop :=
  ∃ path, url = r.baseUrl ++ "/v2/" ++ path

theorem Repository.isApiUrl_append (r : Repository) (s : String) : r.IsApiUrl (r.apiUrl ++ s) :=
  ⟨r.path ++ s, by rw [apiUrl, String.append_assoc]⟩

/-- Each visit reads a URL of the registry, or one to which the visit just before it links. -/
def OnRoute (repository : Repository) : Option Visit → List Visit → Prop
  | _, [] => True
  | before, v :: vs =>
    (repository.IsApiUrl v.url ∨ ∃ u ∈ before, u.LinksTo v.url) ∧ OnRoute repository (some v) vs

namespace OnRoute

variable {repository : Repository} {before : Option Visit} {vs vs' past later : List Visit}
  {v : Visit}

theorem of_none (h : OnRoute repository none vs) : OnRoute repository before vs := by
  cases vs with
  | nil => exact trivial
  | cons v vs => exact ⟨.inl (h.1.resolve_right fun ⟨_, hu, _⟩ => nomatch hu), h.2⟩

theorem append (h : OnRoute repository before vs) (h' : OnRoute repository none vs') :
    OnRoute repository before (vs ++ vs') := by
  induction vs generalizing before with
  | nil => exact h'.of_none
  | cons v vs ih => exact ⟨h.1, ih h.2⟩

theorem isApiUrl_or_linksTo (h : OnRoute repository before (past ++ v :: later)) :
    repository.IsApiUrl v.url ∨ ∃ u ∈ past.getLast?.or before, u.LinksTo v.url := by
  induction past generalizing before with
  | nil => exact h.1
  | cons u past ih =>
    have hlast : (u :: past).getLast?.or before = past.getLast?.or (some u) := by
      rw [List.getLast?_cons]
      cases past.getLast? <;> rfl
    rw [hlast]
    exact ih h.2

end OnRoute

end ImageDiscovery
