import Mathlib.Data.List.Chain
import ImageDiscovery.Proofs.Registry.LinkHeader
import ImageDiscovery.Proofs.Registry.Session

/-!
# Pages of tags

A client lists the tags of its repository page by page. Each page is read by a visit, and the next
one is read where the page links to; so a registry decides how the pages go on, and they need not
end. The client ends at a page without a link, at a page that does not exist, or when it has read as
many pages as it is ready to. What it lists then are the tags of all the pages that it read, and
where it fails on one page it lists nothing at all.

## Main definitions

* `Visit.Shows`, `Visit.FailsWith` — what a visit of a page of tags comes to.
* `ListsPages` — what a client reads in order to list tags, and what it lists.

## Main results

* `Visit.page_eq_ok_some_iff`, `Visit.page_eq_ok_none_iff`, `Visit.page_eq_error_iff` — what the
  client makes of a page.
* `ListsPages.cons` — one more page in front.
* `RegistryClient.exists_listsPages` — the pages from any address on.
* `RegistryClient.exists_listsPages_listTags` — the pages of a repository.
* `pagedClient_lists` — two pages and a third one that is not there.
-/

namespace ImageDiscovery

open Document Http Net

/-! ### One page -/

namespace Visit

/-- The visit reads a page which shows tags, none where they are missing or nothing, and whose
header of links leads to the next page, if there is one. -/
def Shows (v : Visit) (tags : List String) (next : Option String) : Prop :=
  ∃ r n, v.outcome = .ok r ∧ r.isSuccess = true ∧
    Link.Leads v.url (r.headerText? "link") (.ok next) ∧ r.complete = true ∧
    RegistryClient.bodyValue? r.body = some n ∧ SaysTags n tags

/-- The visit reads no page, and there may be one: the page is not read at all, the registry does
not give it, it links to what is no URL, or it is cut off or not a page of tags. -/
inductive FailsWith (v : Visit) : RegistryError → Prop
  | unread {e : RegistryError} (h : v.outcome = .error e) : FailsWith v e
  | refused {r : Response} (h : v.outcome = .ok r) (hmissing : r.status ≠ 404)
      (hstatus : r.isSuccess = false) : FailsWith v (.http r.status r.bodyText)
  | astray {r : Response} {e : RegistryError} (h : v.outcome = .ok r)
      (hstatus : r.isSuccess = true)
      (hlink : Link.Leads v.url (r.headerText? "link") (.error e)) : FailsWith v e
  | malformed {r : Response} {next : Option String} (h : v.outcome = .ok r)
      (hstatus : r.isSuccess = true)
      (hlink : Link.Leads v.url (r.headerText? "link") (.ok next))
      (hbody : r.complete = true → ∀ n tags, RegistryClient.bodyValue? r.body = some n →
        ¬ SaysTags n tags) :
      FailsWith v .incomplete

end Visit

section

variable {url : String} {r : Response}

theorem RegistryClient.pageOf_of_status (h : r.status = 404) : pageOf url r = .ok none :=
  if_pos h

/-- The tags that are read from a body are the ones that it shows. -/
theorem exists_bodyTags_iff {body : List UInt8} {tags : List String} :
    (∃ page, (RegistryClient.bodyValue? body).bind TagList.read = some page ∧
      page.tags.getD [] = tags) ↔
    ∃ n, RegistryClient.bodyValue? body = some n ∧ SaysTags n tags := by
  simp only [Option.bind_eq_some_iff, ← exists_tagList_iff]
  constructor
  · rintro ⟨page, ⟨n, hn, hread⟩, htags⟩
    exact ⟨n, hn, page, hread, htags⟩
  · rintro ⟨n, hn, page, hread, htags⟩
    exact ⟨page, ⟨n, hn, hread⟩, htags⟩

/-- Nothing is read from a body that shows no tags. -/
theorem bind_tagList_eq_none_iff {body : List UInt8} :
    (RegistryClient.bodyValue? body).bind TagList.read = none ↔
      ∀ n tags, RegistryClient.bodyValue? body = some n → ¬ SaysTags n tags := by
  have hnot : (∀ n tags, RegistryClient.bodyValue? body = some n → ¬ SaysTags n tags) ↔
      ∀ tags, ¬ ∃ n, RegistryClient.bodyValue? body = some n ∧ SaysTags n tags := by
    simp only [not_exists, not_and]
    exact forall_comm
  rw [hnot]
  simp only [← exists_bodyTags_iff, Option.eq_none_iff_forall_ne_some]
  exact ⟨fun h tags ⟨page, hpage, _⟩ => h page hpage, fun h page hpage => h _ ⟨page, hpage, rfl⟩⟩

/-- Where there is a page, the client takes its link and its tags. -/
theorem RegistryClient.pageOf_of_status_ne (h : r.status ≠ 404) :
    pageOf url r = checkStatus r >>= fun r =>
      Link.nextPage url (r.headerText? "link") >>= fun next =>
        responseDocument TagList.read r >>= fun page =>
          .ok (some (page.tags.getD [], next)) :=
  if_neg h

end

namespace Visit

variable {v : Visit} {tags : List String} {next : Option String} {e : RegistryError}

theorem page_eq_ok_none_iff : v.page = .ok none ↔ v.IsMissing := by
  unfold page IsMissing
  rw [bind_eq_ok_iff]
  refine exists_congr fun r => and_congr_right fun _ => ?_
  refine ⟨fun h => ?_, RegistryClient.pageOf_of_status⟩
  by_contra hstatus
  rw [RegistryClient.pageOf_of_status_ne hstatus] at h
  simp only [bind_eq_ok_iff] at h
  obtain ⟨_, -, _, -, _, -, h⟩ := h
  exact nomatch h

theorem page_eq_ok_some_iff : v.page = .ok (some (tags, next)) ↔ v.Shows tags next := by
  unfold page Shows
  rw [bind_eq_ok_iff]
  refine exists_congr fun r => ?_
  by_cases hstatus : r.status = 404
  · rw [RegistryClient.pageOf_of_status hstatus]
    refine iff_of_false (fun h => nomatch h.2) ?_
    rintro ⟨n, -, hsuccess, -⟩
    exact r.status_ne_of_isSuccess hsuccess hstatus
  · rw [RegistryClient.pageOf_of_status_ne hstatus]
    simp only [bind_eq_ok_iff, RegistryClient.checkStatus_eq_ok_iff, Link.nextPage_eq_iff,
      RegistryClient.responseDocument_eq_ok_iff, Except.ok.injEq, Option.some.injEq, Prod.mk.injEq]
    constructor
    · rintro ⟨h, _, ⟨hsuccess, rfl⟩, _, hlink, page, ⟨hcomplete, hread⟩, htags, rfl⟩
      obtain ⟨n, hn, hshows⟩ := exists_bodyTags_iff.1 ⟨page, hread, htags⟩
      exact ⟨n, h, hsuccess, hlink, hcomplete, hn, hshows⟩
    · rintro ⟨n, h, hsuccess, hlink, hcomplete, hn, hshows⟩
      obtain ⟨page, hread, htags⟩ := exists_bodyTags_iff.2 ⟨n, hn, hshows⟩
      exact ⟨h, r, ⟨hsuccess, rfl⟩, next, hlink, page, ⟨hcomplete, hread⟩, htags, rfl⟩

theorem page_eq_error_iff : v.page = .error e ↔ v.FailsWith e := by
  unfold page
  constructor
  · intro h
    rcases bind_eq_error_iff.1 h with h | ⟨r, hr, h⟩
    · exact .unread h
    by_cases hstatus : r.status = 404
    · rw [RegistryClient.pageOf_of_status hstatus] at h
      exact nomatch h
    rw [RegistryClient.pageOf_of_status_ne hstatus] at h
    rcases bind_eq_error_iff.1 h with h | ⟨checked, hchecked, h⟩
    · obtain ⟨hfailed, rfl⟩ := RegistryClient.checkStatus_eq_error_iff.1 h
      exact .refused hr hstatus hfailed
    obtain ⟨hsuccess, rfl⟩ := RegistryClient.checkStatus_eq_ok_iff.1 hchecked
    rcases bind_eq_error_iff.1 h with h | ⟨next, hlink, h⟩
    · exact .astray hr hsuccess (Link.nextPage_eq_iff.1 h)
    rcases bind_eq_error_iff.1 h with h | ⟨document, hdocument, h⟩
    · obtain ⟨hbody, rfl⟩ := RegistryClient.responseDocument_eq_error_iff.1 h
      exact .malformed hr hsuccess (Link.nextPage_eq_iff.1 hlink) fun hcomplete =>
        bind_tagList_eq_none_iff.1 (hbody hcomplete)
    · exact nomatch h
  · rintro (h | ⟨h, hmissing, hstatus⟩ | ⟨h, hstatus, hlink⟩ | ⟨h, hstatus, hlink, hbody⟩)
    · exact bind_eq_error_iff.2 (.inl h)
    all_goals refine bind_eq_error_iff.2 (.inr ⟨_, h, ?_⟩)
    · rw [RegistryClient.pageOf_of_status_ne hmissing]
      exact bind_eq_error_iff.2 (.inl (RegistryClient.checkStatus_eq_error_iff.2 ⟨hstatus, rfl⟩))
    all_goals
      rw [RegistryClient.pageOf_of_status_ne (Response.status_ne_of_isSuccess hstatus)]
      refine bind_eq_error_iff.2 (.inr
        ⟨_, RegistryClient.checkStatus_eq_ok_iff.2 ⟨hstatus, rfl⟩, bind_eq_error_iff.2 ?_⟩)
    · exact .inl (Link.nextPage_eq_iff.2 hlink)
    · have hread := RegistryClient.responseDocument_eq_error_iff.2
        ⟨fun hcomplete => bind_tagList_eq_none_iff.2 (hbody hcomplete), rfl⟩
      exact .inr ⟨_, Link.nextPage_eq_iff.2 hlink, bind_eq_error_iff.2 (.inl hread)⟩

end Visit

/-! ### Page after page -/

/-- What a client reads in order to list the tags of at most `limit` pages from an address on, and
what it lists. It ends with the last page, before a page that is missing, or with as many pages as
it may read; then it lists the tags of all the pages that it read, in their order. -/
structure ListsPages (limit : Nat) (first : String) (visits : List Visit)
    (r : Except RegistryError (List String)) : Prop where
  length_le : visits.length ≤ limit
  starts : ∀ v ∈ visits.head?, v.url = first
  /-- Each page after the first one is read where the page before it links to. -/
  linked : visits.IsChain fun u v => ∃ tags, u.Shows tags (some v.url)
  lists : ∀ tags, r = .ok tags → ∃ shown pages,
    List.Forall₂ (fun v page => ∃ next, v.Shows page next) shown pages ∧ tags = pages.flatten ∧
    ((visits = shown ∧ (shown.length = limit ∨ ∃ v ∈ shown.getLast?, ∃ page, v.Shows page none)) ∨
      ∃ v, v.IsMissing ∧ visits = shown ++ [v])
  fails_iff : ∀ e, r = .error e ↔ ∃ v ∈ visits, v.FailsWith e

namespace ListsPages

variable {n : Nat} {url next : String} {v : Visit} {vs : List Visit} {tags : List String}
  {e : RegistryError} {r : Except RegistryError (List String)}

/-- A client that may read no page lists nothing. -/
theorem nil : ListsPages 0 url [] (.ok []) where
  length_le := Nat.le_refl 0
  starts _ hv := nomatch hv
  linked := .nil
  lists _ h := ⟨[], [], .nil, (Except.ok.inj h).symm, .inl ⟨rfl, .inl rfl⟩⟩
  fails_iff _ := ⟨nofun, fun ⟨_, hv, _⟩ => absurd hv List.not_mem_nil⟩

section

variable (hlimit : 0 < n)
include hlimit

theorem missing (h : v.IsMissing) : ListsPages n v.url [v] (.ok []) where
  length_le := hlimit
  starts _ hv := by rw [← Option.some.inj hv]
  linked := .singleton v
  lists _ htags := ⟨[], [], .nil, (Except.ok.inj htags).symm, .inr ⟨v, h, rfl⟩⟩
  fails_iff e := by
    have hne : v.page ≠ .error e := by rw [Visit.page_eq_ok_none_iff.2 h]; exact nofun
    simp [← Visit.page_eq_error_iff, hne]

theorem last (h : v.Shows tags none) : ListsPages n v.url [v] (.ok tags) where
  length_le := hlimit
  starts _ hv := by rw [← Option.some.inj hv]
  linked := .singleton v
  lists _ htags := by
    obtain rfl := Except.ok.inj htags
    exact ⟨[v], [tags], .cons ⟨none, h⟩ .nil, (List.append_nil tags).symm,
      .inl ⟨rfl, .inr ⟨v, rfl, tags, h⟩⟩⟩
  fails_iff e := by
    have hne : v.page ≠ .error e := by rw [Visit.page_eq_ok_some_iff.2 h]; exact nofun
    simp [← Visit.page_eq_error_iff, hne]

theorem failed (h : v.FailsWith e) : ListsPages n v.url [v] (.error e) where
  length_le := hlimit
  starts _ hv := by rw [← Option.some.inj hv]
  linked := .singleton v
  lists _ htags := nomatch htags
  fails_iff e' := by
    have hpage : v.page = .error e := Visit.page_eq_error_iff.2 h
    simp [← Visit.page_eq_error_iff, hpage]

end

/-- One more page in front of the ones that it links to. -/
theorem cons (h : v.Shows tags (some next)) (hr : ListsPages n next vs r) :
    ListsPages (n + 1) v.url (v :: vs) (r.map (tags ++ ·)) where
  length_le := Nat.succ_le_succ hr.length_le
  starts _ hv := by rw [← Option.some.inj hv]
  linked := List.isChain_cons.2 ⟨fun u hu => ⟨tags, hr.starts u hu ▸ h⟩, hr.linked⟩
  lists all hall := by
    cases r with
    | error e => exact nomatch hall
    | ok rest =>
      obtain rfl : tags ++ rest = all := Except.ok.inj hall
      obtain ⟨shown, pages, hshown, rfl, hend⟩ := hr.lists rest rfl
      refine ⟨v :: shown, tags :: pages, .cons ⟨_, h⟩ hshown, rfl, ?_⟩
      -- the pages end where those after the first one end
      rcases hend with ⟨rfl, hlength | ⟨last, hlast, hnone⟩⟩ | ⟨last, hmissing, rfl⟩
      · exact .inl ⟨rfl, .inl (congrArg (· + 1) hlength)⟩
      · refine .inl ⟨rfl, .inr ⟨last, ?_, hnone⟩⟩
        rw [List.getLast?_cons, hlast]
        rfl
      · exact .inr ⟨last, hmissing, rfl⟩
  fails_iff e := by
    have hne : ¬ v.FailsWith e := by
      rw [← Visit.page_eq_error_iff, Visit.page_eq_ok_some_iff.2 h]
      exact nofun
    rw [List.exists_mem_cons_iff, or_iff_right hne, ← hr.fails_iff e]
    cases r <;> simp [Except.map]

end ListsPages

namespace RegistryClient

variable {σ : Type} (c : RegistryClient (StateM σ))

/-- **Listing page after page.** Whatever the servers answer, and wherever the pages link to, the
client comes to an end: from any address on it reads the pages that follow one another, each of them
by one visit. -/
theorem exists_listsPages (n : Nat) (url : String) (s : Option String × σ) :
    ∃ visits r s', Makes (c.tagsFrom n url).run (c.recorded.tagsFrom n url).run s
        (visits.flatMap (·.exchanges)) r s' ∧
      c.Tour s visits s' ∧ ListsPages n url visits r := by
  -- by induction on the pages that may still be read, from whatever URL the last one links to
  induction n generalizing url s with
  | zero => exact ⟨[], .ok [], s, makes_pure _ s, .nil s, .nil⟩
  | succ n ih =>
    obtain ⟨v, s₁, rfl, hvisit, hmakes⟩ := c.exists_tagPage url s
    have htour : c.Tour s [v] s₁ := .cons hvisit (.nil s₁)
    rcases hpage : v.page with e | _ | ⟨tags, _ | next⟩
    · have hfails : v.FailsWith e := Visit.page_eq_error_iff.1 hpage
      rw [hpage] at hmakes
      refine ⟨[v], .error e, s₁, ?_, htour, .failed n.succ_pos hfails⟩
      rw [List.flatMap_singleton]
      exact hmakes.bind_error
    · have hmissing : v.IsMissing := Visit.page_eq_ok_none_iff.1 hpage
      rw [hpage] at hmakes
      exact ⟨[v], .ok [], s₁, hmakes.bind_ok (makes_pure _ s₁), htour,
        .missing n.succ_pos hmissing⟩
    · have hshows : v.Shows tags none := Visit.page_eq_ok_some_iff.1 hpage
      rw [hpage] at hmakes
      exact ⟨[v], .ok tags, s₁, hmakes.bind_ok (makes_pure _ s₁), htour, .last n.succ_pos hshows⟩
    · have hshows : v.Shows tags (some next) := Visit.page_eq_ok_some_iff.1 hpage
      rw [hpage] at hmakes
      obtain ⟨vs, r, s₂, hrest, htour', hpages⟩ := ih next s₁
      refine ⟨v :: vs, r.map (tags ++ ·), s₂, hmakes.bind_ok ?_, .cons hvisit htour',
        .cons hshows hpages⟩
      cases r with
      | error e => exact hrest.bind_error
      | ok rest => exact hrest.bind_rest (makes_pure _ s₂)

/-- **Listing the tags of a repository.** Whatever the servers answer, also where the links between
pages form a cycle or never end, the client ends after at most a thousand pages. The first page is
the one of the repository with the page size of the client, and each other page is the one to which
the page before it links. Unless a page fails, the client lists the tags of all pages that it read,
in their order and nothing else, up to the first page without a link, the first missing page, or the
thousandth page. If any page fails, so does the whole listing, with the same error. -/
theorem exists_listsPages_listTags (s : Option String × σ) :
    ∃ visits r s', Makes c.listTags.run c.recorded.listTags.run s
        (visits.flatMap (·.exchanges)) r s' ∧
      c.Tour s visits s' ∧ (∀ v ∈ visits, v.Proper c.config) ∧
      ListsPages 1000 (c.config.repository.apiUrl ++ "/tags/list?n=" ++
        toString c.config.options.effectivePageSize) visits r := by
  obtain ⟨visits, r, s', hmakes, htour, hpages⟩ :=
    c.exists_listsPages maxTagPages c.firstPage s
  exact ⟨visits, r, s', hmakes, htour, htour.proper, hpages⟩

end RegistryClient

/-! ### A registry with three pages -/

/-- A registry with three pages of tags, of which the second one has no tags. -/
def pagedScript : Script :=
  let page (tags : String) : List UInt8 := ("\x7b\"tags\":" ++ tags ++ "\x7d").toUTF8.toList
  let link (target : String) : List UInt8 := ("<" ++ target ++ ">; rel=\"next\"").toUTF8.toList
  [("http://reg.test/v2/acme/web/tags/list?n=1000",
      [some ⟨200, [("link", link "?last=v2")], page "[\"v1\",\"v2\"]", true⟩]),
    ("http://reg.test/v2/acme/web/tags/list?last=v2",
      [some ⟨200, [("link", link "/more")], page "null", true⟩]),
    ("http://reg.test/more", [some ⟨200, [], page "[\"v3\",\"v1\"]", true⟩])]

/-- A client of that registry. -/
def pagedClient : RegistryClient (StateM Journal) where
  config := ⟨⟨"http", "reg.test", "acme/web"⟩, .anonymous, .initial⟩
  transport := pagedScript.transport.following

/-- The pages are read one after another, and nothing that they show is dropped or repeated. -/
theorem pagedClient_lists : ∃ (visits : List Visit) (r : Except RegistryError (List String))
    (s' : Option String × Journal),
    Makes pagedClient.listTags.run pagedClient.recorded.listTags.run (none, [])
      (visits.flatMap (·.exchanges)) r s' ∧
    ListsPages 1000 "http://reg.test/v2/acme/web/tags/list?n=1000" visits r ∧
    r = .ok ["v1", "v2", "v3", "v1"] ∧
    (visits.flatMap (·.exchanges)).map (·.request.url.text) =
      ["http://reg.test/v2/acme/web/tags/list?n=1000",
        "http://reg.test/v2/acme/web/tags/list?last=v2", "http://reg.test/more"] := by
  obtain ⟨visits, r, s', hmakes, -, -, hpages⟩ := pagedClient.exists_listsPages_listTags (none, [])
  have hrun := congrArg (fun run => (run.1.1.1, run.1.2.map (·.request.url.text)))
    (hmakes.run_recorded_eq [])
  refine ⟨visits, r, s', hmakes, hpages, Prod.mk.inj (hrun.symm.trans ?_)⟩
  decide +kernel

end ImageDiscovery
