import Mathlib.Data.List.Chain
import Mathlib.Data.List.Forall2
import ImageDiscovery.Discovery.Pass
import ImageDiscovery.Proofs.Journal

/-!
# The calls of a pass

A pass calls its collaborators one after another. Where there are subscriptions to images, it first
asks for the active freight if it has to; then it looks up the credentials for each subscription,
has a selection made with what was found, and lets it select. A journal of the calls says how each
of them ended. The pass makes all calls of this plan, in their order, unless one fails: that one is
then the last, and the pass fails with the error that stands for it.

## Main definitions

* `ImagesAmong` — the subscriptions to images among declared ones, in their order.
* `Call`, `Warehouse.plan` — the calls to collaborators, and those that a pass is to make.
* `Note`, `Note.Follows` — a call with how it ended, and what has to stand before it.
* `Collaborators.noted` — collaborators whose calls are put into a journal.
* `Tells` — a journal follows a plan, up to a failure if there is one.
* `Plays` — the journal of a computation follows a plan.

## Main results

* `Plays.bind` — the plans of successive computations.
* `imagesAmong_iff` — what the declared subscriptions to images are.
* `Collaborators.exists_tells_discoverImages` — the journal of a pass.
-/

namespace ImageDiscovery

/-! ### Subscriptions to images -/

/-- The first list declares the subscriptions to images of the second one, in this order, and
between them others that are not to images. -/
inductive ImagesAmong : List RepoSubscription → List ImageSubscription → Prop where
  | nil : ImagesAmong [] []
  | image {r : RepoSubscription} {s : ImageSubscription} {rs : List RepoSubscription}
      {ss : List ImageSubscription} (h : r.image = some s) (hs : ImagesAmong rs ss) :
      ImagesAmong (r :: rs) (s :: ss)
  | other {r : RepoSubscription} {rs : List RepoSubscription} {ss : List ImageSubscription}
      (h : r.image = none) (hs : ImagesAmong rs ss) : ImagesAmong (r :: rs) ss

theorem imagesAmong_iff {rs : List RepoSubscription} {ss : List ImageSubscription} :
    ImagesAmong rs ss ↔ rs.filterMap (·.image) = ss := by
  constructor
  · intro h
    induction h with
    | nil => rfl
    | image h hs ih => rw [List.filterMap_cons_some h, ih]
    | other h hs ih => rw [List.filterMap_cons_none h, ih]
  · rintro rfl
    induction rs with
    | nil => exact .nil
    | cons r rs ih =>
      cases h : r.image with
      | none =>
        rw [List.filterMap_cons_none h]
        exact .other h ih
      | some s =>
        rw [List.filterMap_cons_some h]
        exact .image h ih

/-! ### Calls -/

/-- A call to a collaborator. -/
inductive Call where
  /-- The active freight of a warehouse is asked for. -/
  | activity (ns warehouse : String)
  /-- The credentials for a repository are looked up. -/
  | credentials (ns : String) (type : CredentialType) (repoUrl : String)
  /-- The selection for a subscription is made. -/
  | selection (s : ImageSubscription)
  /-- The selection for a subscription selects. -/
  | select (s : ImageSubscription)
  deriving DecidableEq

/-- The repository that a call is made for; the query for freight belongs to none. -/
def Call.repoUrl? : Call → Option String
  | activity _ _ => none
  | credentials _ _ repoUrl => some repoUrl
  | selection s => some s.repoUrl
  | select s => some s.repoUrl

/-- The calls for one subscription. -/
def ImageSubscription.plan (ns : String) (s : ImageSubscription) : List Call :=
  [.credentials ns .image s.repoUrl, .selection s, .select s]

/-- The calls of a pass in which none of them fails. -/
def Warehouse.plan (w : Warehouse) : List Call :=
  if w.imageSubscriptions.isEmpty then []
  else (if w.needsFreshActivity then [.activity w.metadata.ns w.metadata.name] else []) ++
    w.imageSubscriptions.flatMap (·.plan w.metadata.ns)

/-- A call and how it ended. -/
inductive Note where
  | activity (ns warehouse : String) (answer : Except String (List Freight))
  | credentials (ns : String) (type : CredentialType) (repoUrl : String)
    (answer : Except String (Option Credentials))
  | selection (s : ImageSubscription) (found : Option Credentials)
    (answer : Except RegistryError Unit)
  | select (s : ImageSubscription) (answer : Except RegistryError (List ImageReference))

namespace Note

/-- The call that was made. -/
def call : Note → Call
  | activity ns warehouse _ => .activity ns warehouse
  | credentials ns type repoUrl _ => .credentials ns type repoUrl
  | selection s _ _ => .selection s
  | select s _ => .select s

/-- The error of a pass that ends with the call, if the call failed. -/
def failure? : Note → Option DiscoveryError
  | activity ns warehouse (.error reason) => some (.activityQuery ns warehouse reason)
  | credentials _ _ repoUrl (.error reason) => some (.credentialLookup repoUrl reason)
  | selection s _ (.error cause) => some (.selectorConstruction s.repoUrl cause)
  | select s (.error cause) => some (.registry s.repoUrl cause)
  | _ => none

/-- An error is attributed to the repository that the call was made for. -/
theorem repoUrl?_of_failure? {n : Note} {e : DiscoveryError} (h : n.failure? = some e) :
    e.repoUrl? = n.call.repoUrl? := by
  unfold failure? at h
  split at h
  · obtain rfl := Option.some.inj h
    rfl
  · obtain rfl := Option.some.inj h
    rfl
  · obtain rfl := Option.some.inj h
    rfl
  · obtain rfl := Option.some.inj h
    rfl
  · cases h

/-- A call follows one that did not fail, and a selection is made with the credentials that were
found just before. -/
def Follows (earlier later : Note) : Prop :=
  earlier.failure? = none ∧ ∀ s found answer, later = .selection s found answer →
    ∃ ns, earlier = .credentials ns .image s.repoUrl (.ok found)

theorem follows_credentials (ns : String) (s : ImageSubscription) (found : Option Credentials)
    (answer : Except RegistryError Unit) :
    Follows (.credentials ns .image s.repoUrl (.ok found)) (.selection s found answer) := by
  refine ⟨rfl, ?_⟩
  rintro s' found' answer' ⟨⟩
  exact ⟨ns, rfl⟩

theorem follows_selection (s : ImageSubscription) (found : Option Credentials)
    (answer : Except RegistryError (List ImageReference)) :
    Follows (.selection s found (.ok ())) (.select s answer) := by
  refine ⟨rfl, fun s' found' answer' h => ?_⟩
  cases h

end Note

/-! ### Journals of passes -/

/-- The journal has the calls of the plan in their order, each of them after calls that did not
fail. It has all of them, or ends with one that failed. -/
structure Tells (plan : List Call) (notes : List Note) (failure? : Option DiscoveryError) :
    Prop where
  calls_prefix : notes.map (·.call) <+: plan
  follows : notes.IsChain Note.Follows
  last : notes.getLast?.bind (·.failure?) = failure?
  complete : failure? = none → notes.map (·.call) = plan

namespace Tells

variable {plan plan' : List Call} {notes notes' : List Note} {failure? : Option DiscoveryError}
  {e : DiscoveryError}

theorem nil : Tells [] [] none :=
  ⟨List.prefix_rfl, List.isChain_nil, rfl, fun _ => rfl⟩

/-- A failure ends the journal. -/
theorem fail (h : Tells plan notes (some e)) (plan' : List Call) :
    Tells (plan ++ plan') notes (some e) :=
  ⟨h.calls_prefix.trans (List.prefix_append ..), h.follows, h.last, nofun⟩

/-- After a journal without failure comes another one, if it does not begin in the middle of a
subscription. -/
theorem append (h : Tells plan notes none) (h' : Tells plan' notes' failure?)
    (hplan : ∀ s, plan'.head? ≠ some (.selection s)) :
    Tells (plan ++ plan') (notes ++ notes') failure? := by
  have hcalls := h.complete rfl
  refine ⟨?_, List.isChain_append.2 ⟨h.follows, h'.follows, fun a ha b hb => ⟨?_, ?_⟩⟩, ?_, ?_⟩
  · rw [List.map_append, hcalls]
    exact (List.prefix_append_right_inj plan).2 h'.calls_prefix
  · have hlast := h.last
    rw [Option.mem_def.1 ha] at hlast
    exact hlast
  · rintro s found answer rfl
    obtain ⟨rest, hrest⟩ := h'.calls_prefix
    refine absurd ?_ (hplan s)
    rw [← hrest, List.head?_append, List.head?_map, Option.mem_def.1 hb]
    rfl
  · rw [List.getLast?_append]
    cases hlast : notes'.getLast? with
    | none =>
      rw [Option.none_or, h.last, ← h'.last, hlast]
      rfl
    | some n =>
      rw [Option.some_or, ← h'.last, hlast]
  · intro hnone
    rw [List.map_append, hcalls, h'.complete hnone]

/-- Where the last call did not fail, none did. -/
theorem forall_failure? (h : Tells plan notes none) : ∀ n ∈ notes, n.failure? = none := by
  obtain ⟨-, hfollows, hlast, -⟩ := h
  induction notes with
  | nil => exact fun n hn => absurd hn List.not_mem_nil
  | cons n ns ih =>
    cases ns with
    | nil =>
      rw [List.forall_mem_singleton]
      exact hlast
    | cons m ms =>
      obtain ⟨hfirst, hrest⟩ := List.isChain_cons_cons.1 hfollows
      exact List.forall_mem_cons.2 ⟨hfirst.1, ih hrest hlast⟩

/-- The error of a journal is that of its last call, and is attributed to its repository. -/
theorem exists_failure? (h : Tells plan notes (some e)) :
    ∃ n ∈ notes.getLast?, n.failure? = some e ∧ e.repoUrl? = n.call.repoUrl? := by
  obtain ⟨n, hn, hfailure⟩ := Option.bind_eq_some_iff.1 h.last
  exact ⟨n, hn, hfailure, Note.repoUrl?_of_failure? hfailure⟩

end Tells

/-- The journal of a computation with a result follows the plan, and a value is as it should be. -/
def Concludes {α : Type} (plan : List Call) (notes : List Note) (P : α → Prop) :
    Except DiscoveryError α → Prop
  | .ok a => Tells plan notes none ∧ P a
  | .error e => Tells plan notes (some e)

/-- The result names the repository and the platform of the subscription. -/
structure ImageResult.IsFor (r : ImageResult) (s : ImageSubscription) : Prop where
  repoUrl_eq : r.repoUrl = s.repoUrl
  platform_eq : r.platform = s.platform

/-! ### Computations that follow a plan -/

/-- From each state of the world, the computation mirrors its counterpart; the journal follows the
plan, and a value is as it should be. -/
def Plays {σ α : Type} (plan : List Call) (c : ExceptT DiscoveryError (StateM σ) α)
    (c' : ExceptT DiscoveryError (StateM (σ × List Note)) α) (P : α → Prop) : Prop :=
  ∀ x, ∃ r y notes, Mirrors id c c' x r y notes ∧ Concludes plan notes P r

namespace Plays

variable {σ α β : Type} {plan plan' : List Call} {c : ExceptT DiscoveryError (StateM σ) α}
  {c' : ExceptT DiscoveryError (StateM (σ × List Note)) α} {P : α → Prop} {Q : β → Prop}

theorem pure {a : α} (h : P a) :
    Plays [] (Pure.pure a : ExceptT DiscoveryError (StateM σ) α) (Pure.pure a) P :=
  fun x => ⟨_, _, _, mirrors_pure id a x, .nil, h⟩

/-- Plans are followed one after the other. -/
theorem bind {f : α → ExceptT DiscoveryError (StateM σ) β}
    {f' : α → ExceptT DiscoveryError (StateM (σ × List Note)) β} (h : Plays plan c c' P)
    (hf : ∀ a, P a → Plays plan' (f a) (f' a) Q)
    (hplan : ∀ s, plan'.head? ≠ some (.selection s)) :
    Plays (plan ++ plan') (c >>= f) (c' >>= f') Q := by
  intro x
  obtain ⟨r, y, notes, hm, hr⟩ := h x
  cases r with
  | error e => exact ⟨_, _, _, hm.fail f f', hr.fail plan'⟩
  | ok a =>
    obtain ⟨r', z, notes', hm', hr'⟩ := hf a hr.2 y
    refine ⟨r', z, _, hm.bind hm', ?_⟩
    cases r' with
    | error e => exact hr.1.append hr' hplan
    | ok b => exact ⟨hr.1.append hr'.1 hplan, hr'.2⟩

/-- Nothing is called for a value that is made of another one. -/
theorem map {f : α → β} (h : Plays plan c c' P) (hf : ∀ a, P a → Q (f a)) :
    Plays plan (c >>= fun a => Pure.pure (f a)) (c' >>= fun a => Pure.pure (f a)) Q := by
  have hnil (s : ImageSubscription) : ([] : List Call).head? ≠ some (.selection s) := by
    rintro ⟨⟩
  have hbind := h.bind (fun a ha => Plays.pure (hf a ha)) hnil
  rwa [List.append_nil] at hbind

end Plays

/-! ### Collaborators whose calls are noted -/

section

variable {σ : Type}

/-- The selection with notes of what it selects. -/
def Selection.noted (s : ImageSubscription) (selection : Selection (StateM σ)) :
    Selection (StateM (σ × List Note)) where
  admits := selection.admits
  select := noting (.select s) id selection.select

/-- The collaborators with notes of what they answer. -/
def Collaborators.noted (c : Collaborators (StateM σ)) :
    Collaborators (StateM (σ × List Note)) where
  credentials ns type repoUrl :=
    noting (.credentials ns type repoUrl) id (c.credentials ns type repoUrl)
  activity ns warehouse := noting (.activity ns warehouse) id (c.activity ns warehouse)
  selection s found :=
    noting (fun r => .selection s found (r.map fun _ => ())) (.noted s) (c.selection s found)

end

namespace Collaborators

variable {σ : Type} (c : Collaborators (StateM σ)) (policy : RetentionPolicy) (w : Warehouse)
  (active : Option (List Freight))

/-- What is called for one subscription. -/
theorem plays_discoverImage (s : ImageSubscription) :
    Plays (s.plan w.metadata.ns) (c.discoverImage policy w active s)
      (c.noted.discoverImage policy w active s) (·.IsFor s) := by
  intro x
  obtain ⟨r₁, y₁, h₁⟩ := exists_ends (c.credentials w.metadata.ns .image s.repoUrl) x
  have m₁ := (mirrors_noting (Note.credentials w.metadata.ns .image s.repoUrl) id h₁).adapt
    (DiscoveryError.credentialLookup s.repoUrl)
  cases r₁ with
  | error reason =>
    exact ⟨_, _, _, m₁.fail _ _,
      ⟨⟨[.selection s, .select s], rfl⟩, List.isChain_singleton _, rfl, nofun⟩⟩
  | ok found =>
    obtain ⟨r₂, y₂, h₂⟩ := exists_ends (c.selection s found) y₁
    have m₂ := (mirrors_noting (fun r => Note.selection s found (r.map fun _ => ()))
      (Selection.noted s) h₂).adapt (DiscoveryError.selectorConstruction s.repoUrl)
    have hselection := Note.follows_credentials w.metadata.ns s found
    cases r₂ with
    | error cause =>
      exact ⟨_, _, _, m₁.bind (m₂.fail _ _),
        ⟨⟨[.select s], rfl⟩, List.isChain_pair.2 (hselection _), rfl, nofun⟩⟩
    | ok selection =>
      obtain ⟨r₃, y₃, h₃⟩ := exists_ends selection.select y₂
      have m₃ := (mirrors_noting (Note.select s) id h₃).adapt (DiscoveryError.registry s.repoUrl)
      have hchain : List.IsChain Note.Follows
          [.credentials w.metadata.ns .image s.repoUrl (.ok found), .selection s found (.ok ()),
            .select s r₃] :=
        List.isChain_cons_cons.2 ⟨hselection _,
          List.isChain_pair.2 (Note.follows_selection s found r₃)⟩
      cases r₃ with
      | error cause =>
        exact ⟨_, _, _, m₁.bind (m₂.bind (m₃.fail _ _)),
          ⟨⟨[], rfl⟩, hchain, rfl, nofun⟩⟩
      | ok discovered =>
        exact ⟨_, _, _, m₁.bind (m₂.bind (m₃.bind (mirrors_pure id _ y₃))),
          ⟨⟨[], rfl⟩, hchain, rfl, fun _ => rfl⟩, rfl, rfl⟩

/-- The plan for subscriptions begins with credentials. -/
theorem head?_flatMap_plan_ne (ns : String) (ss : List ImageSubscription)
    (s : ImageSubscription) : (ss.flatMap (·.plan ns)).head? ≠ some (.selection s) := by
  cases ss with
  | nil => exact nofun
  | cons t ts => exact fun h => Call.noConfusion (Option.some.inj h)

/-- What is called for subscriptions, one after another. -/
theorem plays_discoverAll (ss : List ImageSubscription) :
    Plays (ss.flatMap (·.plan w.metadata.ns)) (c.discoverAll policy w active ss)
      (c.noted.discoverAll policy w active ss) (List.Forall₂ ImageResult.IsFor · ss) := by
  induction ss with
  | nil => exact .pure .nil
  | cons s ss ih =>
    exact (c.plays_discoverImage policy w active s).bind
      (fun result hresult => ih.map fun results hresults => .cons hresult hresults)
      (head?_flatMap_plan_ne w.metadata.ns ss)

/-- What is called for the active freight. -/
theorem plays_activeFreight :
    Plays (if w.needsFreshActivity then [.activity w.metadata.ns w.metadata.name] else [])
      (c.activeFreight w) (c.noted.activeFreight w) fun _ => True := by
  unfold activeFreight
  cases w.needsFreshActivity with
  | false => exact .pure trivial
  | true =>
    refine Plays.map (P := fun _ => True) (fun x => ?_) fun freight _ => trivial
    obtain ⟨r, y, h⟩ := exists_ends (c.activity w.metadata.ns w.metadata.name) x
    have m := (mirrors_noting (Note.activity w.metadata.ns w.metadata.name) id h).adapt
      (DiscoveryError.activityQuery w.metadata.ns w.metadata.name)
    refine ⟨_, _, _, m, ?_⟩
    cases r with
    | error reason => exact ⟨⟨[], rfl⟩, List.isChain_singleton _, rfl, nofun⟩
    | ok freight => exact ⟨⟨⟨[], rfl⟩, List.isChain_singleton _, rfl, fun _ => rfl⟩, trivial⟩

/-- What is called for a pass. -/
theorem plays_discoverImages :
    Plays w.plan (c.discoverImages policy w) (c.noted.discoverImages policy w)
      (List.Forall₂ ImageResult.IsFor · w.imageSubscriptions) := by
  unfold discoverImages Warehouse.plan
  cases w.imageSubscriptions with
  | nil => exact .pure .nil
  | cons s ss =>
    exact (c.plays_activeFreight w).bind
      (fun active _ => c.plays_discoverAll policy w active (s :: ss))
      (head?_flatMap_plan_ne w.metadata.ns (s :: ss))

/-- **The calls of a pass.** The pass is for the declared subscriptions to images. Whatever the
collaborators do, it makes the calls of the plan in their order. Either none of them fails, and
there is one result for each subscription; or the pass fails with the error that stands for the last
call. -/
theorem exists_tells_discoverImages (x : σ) :
    ImagesAmong w.spec.subscriptions w.imageSubscriptions ∧ ∃ r y notes,
    Ends (c.discoverImages policy w) x r y ∧
    Ends (c.noted.discoverImages policy w) (x, []) r (y, notes) ∧
    match r with
    | .ok results => Tells w.plan notes none ∧ (∀ n ∈ notes, n.failure? = none) ∧
      List.Forall₂ ImageResult.IsFor results w.imageSubscriptions
    | .error e => Tells w.plan notes (some e) ∧
      ∃ n ∈ notes.getLast?, n.failure? = some e ∧ e.repoUrl? = n.call.repoUrl? := by
  obtain ⟨r, y, notes, hm, h⟩ := c.plays_discoverImages policy w x
  have hnoted := hm.ends_noted []
  rw [Except.map_id, id, List.nil_append] at hnoted
  refine ⟨imagesAmong_iff.2 rfl, r, y, notes, hm.ends, hnoted, ?_⟩
  cases r with
  | ok results => exact ⟨h.1, h.1.forall_failure?, h.2⟩
  | error e => exact ⟨h, h.exists_failure?⟩

/-- No freight is active and no tags are listed. The credentials for one repository cannot be
read. -/
def lockedAt (repoUrl : String) : Collaborators (StateM Unit) where
  credentials _ _ url := if url = repoUrl then throw "locked" else Pure.pure none
  activity _ _ := Pure.pure []
  selection _ _ := Pure.pure ⟨fun _ => true, Pure.pure []⟩

/-- Images of two repositories and code between them. The pass ends with the credentials for the
second repository. -/
theorem exists_tells_discoverImages_locked :
    let w : Warehouse := ⟨⟨"team", "web", 1⟩, ⟨[.ofImage (.ofRepo "registry/web"),
      .ofGit "registry/code", .ofImage (.ofRepo "registry/api")]⟩, .initial⟩
    ∃ notes, Ends ((lockedAt "registry/api").noted.discoverImages .all w) ((), [])
        (.error (.credentialLookup "registry/api" "locked")) ((), notes) ∧
      notes.map (·.call) = [.activity "team" "web", .credentials "team" .image "registry/web",
        .selection (.ofRepo "registry/web"), .select (.ofRepo "registry/web"),
        .credentials "team" .image "registry/api"] ∧
      ∃ n ∈ notes.getLast?, n.failure? = some (.credentialLookup "registry/api" "locked") := by
  intro w
  obtain ⟨-, r, y, notes, hends, hnoted, h⟩ :=
    (lockedAt "registry/api").exists_tells_discoverImages .all w ()
  have hlocked : Ends ((lockedAt "registry/api").discoverImages .all w) ()
      (.error (.credentialLookup "registry/api" "locked")) () :=
    rfl
  obtain ⟨rfl, rfl⟩ := hends.unique hlocked
  have hcalls : (((lockedAt "registry/api").noted.discoverImages .all w).run.run
      ((), [])).run.2.2.map (·.call) = [.activity "team" "web",
        .credentials "team" .image "registry/web", .selection (.ofRepo "registry/web"),
        .select (.ofRepo "registry/web"), .credentials "team" .image "registry/api"] :=
    rfl
  unfold Ends at hnoted
  rw [hnoted] at hcalls
  obtain ⟨n, hn, hfailure, -⟩ := h.2
  exact ⟨notes, hnoted, hcalls, n, hn, hfailure⟩

end Collaborators

end ImageDiscovery
