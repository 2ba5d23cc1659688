import ImageDiscovery.Credentials.Store
import ImageDiscovery.Pattern.Reader
import ImageDiscovery.Proofs.Outcome

/-!
# Searching a credential store

A store is made of entries that are all valid: each names its repositories exactly or by a pattern,
not in both ways, and the pattern is one. Otherwise the first entry that is not valid is what is
wrong. In one pass over the entries of a namespace and a kind of repository, a search finds what two
searches would find: first one for the exact name, and if that fails, one for a pattern that occurs
in the name. All this holds of every engine for patterns, whatever it takes for a pattern and
wherever it finds one.

## Main definitions

* `CredentialEntry.isFor`, `CredentialEntry.names`, `CredentialEntry.covers` — what an entry is for.
* `CredentialEntry.IsValid`, `CredentialEntry.HasFault` — entries that can be in a store, and what
  is wrong with the others.
* `RepositoryMatcher.IsOf` — how a valid entry finds its repositories.

## Main results

* `CredentialStore.matchersFrom_eq_error_iff` — what is wrong with a list of entries.
* `CredentialStore.search_eq_or` — a search is two searches.
* `CredentialStore.find?_of_ofEntries` — which entries make a store, and what is found in it.
-/

namespace ImageDiscovery

namespace CredentialEntry

/-- The entry is for the namespace and the kind of repository. -/
def isFor (e : CredentialEntry) (ns : String) (type : CredentialType) : Bool :=
  e.ns = ns ∧ e.type = type

/-- The entry names the repository exactly. -/
def names (e : CredentialEntry) (repoUrl : String) : Bool := e.repoUrl = some repoUrl

section

variable [PatternEngine]

/-- The entry has a pattern that occurs in the name of the repository. -/
def covers (e : CredentialEntry) (repoUrl : String) : Bool :=
  (e.repoUrlPattern.bind PatternEngine.compile?).any (PatternEngine.occursIn · repoUrl)

/-- The entry names its repositories in exactly one of two ways, and its pattern is one. -/
structure IsValid (e : CredentialEntry) : Prop where
  exactly_one : e.repoUrl.isSome ≠ e.repoUrlPattern.isSome
  pattern : ∀ p ∈ e.repoUrlPattern, (PatternEngine.compile? p).isSome

/-- What is wrong with an entry at an index: it names its repositories in both ways or in none, or
its pattern is no pattern. -/
inductive HasFault (e : CredentialEntry) (index : Nat) : CredentialStore.Fault → Prop
  | notExactlyOne (h : e.repoUrl.isSome = e.repoUrlPattern.isSome) :
      HasFault e index (.notExactlyOne index)
  | invalidPattern {p : String} (hurl : e.repoUrl = none) (hp : e.repoUrlPattern = some p)
      (h : PatternEngine.compile? p = none) : HasFault e index (.invalidPattern index p)

end

end CredentialEntry

section

variable [PatternEngine]

/-- How a valid entry finds its repositories. -/
inductive RepositoryMatcher.IsOf (e : CredentialEntry) : RepositoryMatcher → Prop
  | exact {url : String} (hurl : e.repoUrl = some url) (hp : e.repoUrlPattern = none) :
      IsOf e (.exact url)
  | pattern {text : String} {p : PatternEngine.Compiled} (hurl : e.repoUrl = none)
      (htext : e.repoUrlPattern = some text) (h : PatternEngine.compile? text = some p) :
      IsOf e (.pattern p)

namespace RepositoryMatcher.IsOf

variable {e : CredentialEntry} (repoUrl : String)

theorem names_and_covers_of_exact {url : String} (h : IsOf e (.exact url)) :
    e.names repoUrl = decide (url = repoUrl) ∧ e.covers repoUrl = false := by
  obtain ⟨hurl, hp⟩ := h
  refine ⟨decide_eq_decide.2 ?_, ?_⟩
  · rw [hurl, Option.some_inj]
  · rw [CredentialEntry.covers, hp]
    rfl

theorem names_and_covers_of_pattern {p : PatternEngine.Compiled} (h : IsOf e (.pattern p)) :
    e.names repoUrl = false ∧ e.covers repoUrl = PatternEngine.occursIn p repoUrl := by
  obtain _ | ⟨hurl, htext, hp⟩ := h
  refine ⟨decide_eq_false ?_, ?_⟩
  · rw [hurl]
    exact nofun
  · rw [CredentialEntry.covers, htext, Option.bind_some, hp]
    rfl

end RepositoryMatcher.IsOf

namespace CredentialStore

/-! ### Entries that make a store -/

section

variable {e : CredentialEntry} {index : Nat}

theorem matcher_eq_ok_iff {m : RepositoryMatcher} :
    matcher index e = .ok m ↔ RepositoryMatcher.IsOf e m := by
  constructor
  · intro h
    unfold matcher at h
    split at h
    · next url hurl hp =>
      obtain rfl := Except.ok.inj h
      exact .exact hurl hp
    · next text hurl hp =>
      split at h
      · next p htext =>
        obtain rfl := Except.ok.inj h
        exact .pattern hurl hp htext
      · exact nomatch h
    · exact nomatch h
  · rintro (⟨hurl, hp⟩ | ⟨hurl, hp, h⟩)
    · simp only [matcher, hurl, hp]
    · simp only [matcher, hurl, hp, h]

theorem matcher_eq_error_iff {fault : Fault} :
    matcher index e = .error fault ↔ e.HasFault index fault := by
  constructor
  · intro h
    unfold matcher at h
    split at h
    · exact nomatch h
    · next text hurl hp =>
      split at h
      · exact nomatch h
      · next hnone =>
        obtain rfl := Except.error.inj h
        exact .invalidPattern hurl hp hnone
    · next hexact hpattern =>
      obtain rfl := Except.error.inj h
      refine .notExactlyOne ?_
      cases hurl : e.repoUrl with
      | some url =>
        cases hp : e.repoUrlPattern with
        | some text => rfl
        | none => exact absurd hp (hexact url hurl)
      | none =>
        cases hp : e.repoUrlPattern with
        | some text => exact absurd hp (hpattern text hurl)
        | none => rfl
  · rintro (h | ⟨hurl, hp, h⟩)
    · unfold matcher
      split
      · next url hurl hp =>
        rw [hurl, hp] at h
        exact nomatch h
      · next text hurl hp =>
        rw [hurl, hp] at h
        exact nomatch h
      · rfl
    · simp only [matcher, hurl, hp, h]

theorem isValid_iff_exists_matcher (index : Nat) : e.IsValid ↔ ∃ m, matcher index e = .ok m := by
  constructor
  · intro h
    cases hm : matcher index e with
    | ok m => exact ⟨m, rfl⟩
    | error fault =>
      exfalso
      rcases matcher_eq_error_iff.1 hm with hboth | ⟨hurl, hp, hnone⟩
      · exact h.exactly_one hboth
      · have hsome := h.pattern _ hp
        rw [hnone] at hsome
        exact nomatch hsome
  · rintro ⟨m, hm⟩
    rcases matcher_eq_ok_iff.1 hm with ⟨hurl, hp⟩ | ⟨hurl, hp, h⟩
    · exact ⟨by rw [hurl, hp]; nofun, by rw [hp]; nofun⟩
    · refine ⟨by rw [hurl, hp]; nofun, ?_⟩
      rw [hp]
      rintro p ⟨⟩
      exact Option.isSome_iff_exists.2 ⟨_, h⟩

/-- The entries of a store are the given ones, each with how it finds its repositories. -/
theorem matchersFrom_eq_ok_iff (index : Nat) {es : List CredentialEntry}
    {ms : List (RepositoryMatcher × CredentialEntry)} :
    matchersFrom index es = .ok ms ↔
      ms.map (·.2) = es ∧ ∀ p ∈ ms, RepositoryMatcher.IsOf p.2 p.1 := by
  induction es generalizing index ms with
  | nil =>
    rw [matchersFrom, Except.ok.injEq, List.map_eq_nil_iff]
    constructor
    · rintro rfl
      exact ⟨rfl, List.forall_mem_nil _⟩
    · exact fun h => h.1.symm
  | cons e es ih =>
    simp only [matchersFrom, bind_eq_ok_iff, matcher_eq_ok_iff, ih]
    constructor
    · rintro ⟨m, hm, rest, ⟨rfl, hrest⟩, ⟨⟩⟩
      exact ⟨rfl, List.forall_mem_cons.2 ⟨hm, hrest⟩⟩
    · rintro ⟨hmap, hms⟩
      obtain ⟨⟨m, e'⟩, rest, rfl, rfl, rfl⟩ := List.map_eq_cons_iff.1 hmap
      obtain ⟨hm, hrest⟩ := List.forall_mem_cons.1 hms
      exact ⟨m, hm, rest, ⟨rfl, hrest⟩, rfl⟩

/-- What is wrong with a list of entries is what is wrong with the first that is not valid. -/
theorem matchersFrom_eq_error_iff (index : Nat) {es : List CredentialEntry} {fault : Fault} :
    matchersFrom index es = .error fault ↔ ∃ before e after, es = before ++ e :: after ∧
      (∀ b ∈ before, b.IsValid) ∧ e.HasFault (index + before.length) fault := by
  induction es generalizing index with
  | nil =>
    refine iff_of_false nofun ?_
    rintro ⟨before, e, after, hes, -⟩
    exact nomatch List.append_eq_nil_iff.1 hes.symm
  | cons e es ih =>
    simp only [matchersFrom, bind_eq_error_iff, matcher_eq_error_iff, ih]
    constructor
    · rintro (h | ⟨m, hm, ⟨before, e', after, rfl, hbefore, h⟩ | ⟨ms, -, hpure⟩⟩)
      · exact ⟨[], e, es, rfl, List.forall_mem_nil _, h⟩
      · refine ⟨e :: before, e', after, rfl, List.forall_mem_cons.2 ⟨?_, hbefore⟩, ?_⟩
        · exact (isValid_iff_exists_matcher index).2 ⟨m, hm⟩
        · rwa [List.length_cons, Nat.add_comm before.length, ← Nat.add_assoc]
      · exact nomatch hpure
    · rintro ⟨before, e', after, hes, hbefore, h⟩
      rcases List.cons_eq_append_iff.1 hes with ⟨rfl, hcons⟩ | ⟨rest, rfl, rfl⟩
      · obtain ⟨rfl, rfl⟩ := List.cons.inj hcons
        exact .inl h
      · obtain ⟨hvalid, hrest⟩ := List.forall_mem_cons.1 hbefore
        obtain ⟨m, hm⟩ := (isValid_iff_exists_matcher index).1 hvalid
        refine .inr ⟨m, hm, .inl ⟨rest, e', after, rfl, hrest, ?_⟩⟩
        rwa [List.length_cons, Nat.add_comm rest.length, ← Nat.add_assoc] at h

/-- A store has the given entries, each with how it finds its repositories. -/
theorem ofEntries_eq_ok_iff {es : List CredentialEntry} {store : CredentialStore} :
    ofEntries es = .ok store ↔
      store.entries.map (·.2) = es ∧ ∀ p ∈ store.entries, RepositoryMatcher.IsOf p.2 p.1 := by
  rw [ofEntries, bind_eq_ok_iff, ← matchersFrom_eq_ok_iff 0]
  constructor
  · rintro ⟨ms, hms, ⟨⟩⟩
    exact hms
  · exact fun h => ⟨_, h, rfl⟩

theorem ofEntries_eq_error_iff {es : List CredentialEntry} {fault : Fault} :
    ofEntries es = .error fault ↔ ∃ before e after, es = before ++ e :: after ∧
      (∀ b ∈ before, b.IsValid) ∧ e.HasFault before.length fault := by
  have hmatchers : matchersFrom 0 es = .error fault ↔ _ := matchersFrom_eq_error_iff 0
  simp only [Nat.zero_add] at hmatchers
  rw [← hmatchers, ofEntries, bind_eq_error_iff]
  exact or_iff_left nofun

/-- There is a store of entries that are all valid, and of no others. -/
theorem exists_ofEntries_eq_error_iff {es : List CredentialEntry} :
    (∃ fault, ofEntries es = .error fault) ↔ ∃ e ∈ es, ¬ e.IsValid := by
  constructor
  · rintro ⟨fault, h⟩
    obtain ⟨before, e, after, rfl, -, hfault⟩ := ofEntries_eq_error_iff.1 h
    refine ⟨e, List.mem_append_right _ List.mem_cons_self, fun hvalid => ?_⟩
    obtain ⟨m, hm⟩ := (isValid_iff_exists_matcher before.length).1 hvalid
    exact nomatch hm.symm.trans (matcher_eq_error_iff.2 hfault)
  · rintro ⟨e, he, hnot⟩
    cases h : ofEntries es with
    | error fault => exact ⟨fault, rfl⟩
    | ok store =>
      obtain ⟨rfl, hms⟩ := ofEntries_eq_ok_iff.1 h
      obtain ⟨p, hp, rfl⟩ := List.mem_map.1 he
      have hm : matcher 0 p.2 = .ok p.1 := matcher_eq_ok_iff.2 (hms p hp)
      exact absurd ((isValid_iff_exists_matcher 0).2 ⟨_, hm⟩) hnot

end

/-! ### Searching -/

variable (ns : String) (type : CredentialType) (repoUrl : String)

/-- A search is two searches among the entries for the namespace and the kind of repository: one for
the exact name, and, unless an entry was found by its pattern before, one for a pattern. -/
theorem search_eq_or {ms : List (RepositoryMatcher × CredentialEntry)}
    (h : ∀ p ∈ ms, RepositoryMatcher.IsOf p.2 p.1) (byPattern : Option CredentialEntry) :
    search ns type repoUrl byPattern ms =
      (((ms.map (·.2)).filter (·.isFor ns type)).find? (·.names repoUrl)).or
        (byPattern.or (((ms.map (·.2)).filter (·.isFor ns type)).find? (·.covers repoUrl))) := by
  induction ms generalizing byPattern with
  | nil => exact (Option.or_none ..).symm
  | cons p ms ih =>
    obtain ⟨m, e⟩ := p
    obtain ⟨hm, hms⟩ := List.forall_mem_cons.1 h
    rw [List.map_cons, List.filter_cons]
    by_cases hfor : e.ns = ns ∧ e.type = type
    · have hisFor : e.isFor ns type = true := decide_eq_true hfor
      rw [if_pos hisFor, List.find?_cons, List.find?_cons]
      cases m with
      | exact url =>
        obtain ⟨hnames, hcovers⟩ := hm.names_and_covers_of_exact repoUrl
        simp only [search, if_pos hfor, hnames, hcovers]
        by_cases hname : url = repoUrl
        · simp [hname]
        · simp [hname, ih hms]
      | pattern p =>
        obtain ⟨hnames, hcovers⟩ := hm.names_and_covers_of_pattern repoUrl
        simp only [search, if_pos hfor, hnames, hcovers, ih hms]
        -- An entry that was found by its pattern before is kept.
        cases byPattern with
        | some found => rfl
        | none => cases PatternEngine.occursIn p repoUrl <;> rfl
    · have hisFor : ¬ e.isFor ns type = true := fun h => hfor (of_decide_eq_true h)
      rw [if_neg hisFor, ← ih hms]
      cases m <;> rw [search, if_neg hfor]

/-- **Searching a credential store.** A list of entries makes a store unless one of them is not
valid; then the first of these, with its index, is what is wrong. In a store, the entry that is
found for a repository is the first of the entries for its namespace and kind that has its exact
name, or else the first of them whose pattern occurs in it. What other entries there are makes no
difference. -/
theorem find?_of_ofEntries (es : List CredentialEntry) :
    ((∃ fault, ofEntries es = .error fault) ↔ ∃ e ∈ es, ¬ e.IsValid) ∧
    (∀ fault, ofEntries es = .error fault ↔ ∃ before e after, es = before ++ e :: after ∧
      (∀ b ∈ before, b.IsValid) ∧ e.HasFault before.length fault) ∧
    ∀ store, ofEntries es = .ok store →
      store.find? ns type repoUrl =
        ((es.filter (·.isFor ns type)).find? (·.names repoUrl)).or
          ((es.filter (·.isFor ns type)).find? (·.covers repoUrl)) ∧
      ∀ es' store', ofEntries es' = .ok store' →
        es'.filter (·.isFor ns type) = es.filter (·.isFor ns type) →
        store'.find? ns type repoUrl = store.find? ns type repoUrl := by
  have hfound {es : List CredentialEntry} {store : CredentialStore} (h : ofEntries es = .ok store) :
      store.find? ns type repoUrl =
        ((es.filter (·.isFor ns type)).find? (·.names repoUrl)).or
          ((es.filter (·.isFor ns type)).find? (·.covers repoUrl)) := by
    obtain ⟨rfl, hms⟩ := ofEntries_eq_ok_iff.1 h
    exact search_eq_or ns type repoUrl hms none
  refine ⟨exists_ofEntries_eq_error_iff, fun _ => ofEntries_eq_error_iff,
    fun store h => ⟨hfound h, fun es' store' h' hsame => ?_⟩⟩
  rw [hfound h, hfound h', hsame]

end CredentialStore

end

namespace CredentialStore

/-- The exact name wins over a pattern that is declared before it, and the entry of another
namespace is not found. -/
theorem find?_of_ofEntries_exact :
    let stranger := CredentialEntry.exact "other" .image "ghcr.io/acme/web" ⟨"stranger", "secret"⟩
    let robot := CredentialEntry.ofPattern "team" .image "acme" ⟨"robot", "secret"⟩
    let web := CredentialEntry.exact "team" .image "ghcr.io/acme/web" ⟨"web", "secret"⟩
    ∃ store, ofEntries [stranger, robot, web] = .ok store ∧
      store.find? "team" .image "ghcr.io/acme/web" = some web ∧
      store.find? "team" .image "ghcr.io/acme/api" = some robot := by
  intro stranger robot web
  obtain ⟨store, hstore⟩ : ∃ store, ofEntries [stranger, robot, web] = .ok store := ⟨_, rfl⟩
  have hfound (repoUrl : String) :=
    ((find?_of_ofEntries "team" .image repoUrl [stranger, robot, web]).2.2 store hstore).1
  refine ⟨store, hstore, ?_, ?_⟩
  · rw [hfound]
    decide +kernel
  · rw [hfound]
    decide +kernel

end CredentialStore

end ImageDiscovery
