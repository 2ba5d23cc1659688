import Mathlib.Data.List.Basic
import ImageDiscovery.Pattern.Reader
import ImageDiscovery.Proofs.Discovery.Yard
import ImageDiscovery.Proofs.Selection.Ranked

/-!
# Live tags

A tag is live for a subscription if active freight of the warehouse holds it in an image of the
repository and the selector of the subscription admits it. The first pass of a run keeps a live tag
that it does not discover. The later passes do not ask for the freight: they keep the tag if the
pass before kept it, and a pass that discovers the tag does not flag it. A live tag is therefore
kept exactly as long as no pass discovers it, and once it was discovered it is listed only where it
is discovered again.

## Main definitions

* `LiveTag`, `LiveTag.In` — a live tag, and the states of a yard in which it is live.
* `LiveTag.Traced` — the invariant of a run.

## Main results

* `LiveTag.Traced.step`, `LiveTag.traced` — the invariant is kept, and holds in each run.
* `LiveTag.listed_iff_pairwise_found` — when each pass of a run lists a live tag.
-/

namespace ImageDiscovery

section

variable [PatternEngine]

/-- A tag in use by active freight of a warehouse, for a subscription to its repository. The
subscriptions of the warehouse are to different repositories. -/
structure LiveTag where
  warehouse : Warehouse
  apart : (warehouse.imageSubscriptions.map (·.repoUrl)).Nodup
  subscription : ImageSubscription
  subscribed : subscription ∈ warehouse.imageSubscriptions
  selector : Selector
  selects : Selector.ofSubscription subscription = .ok selector
  freight : Freight
  active : freight.isActive = true
  origin : freight.warehouseKey? = some (warehouseKey warehouse.metadata.ns warehouse.metadata.name)
  image : Freight.Image
  carried : image ∈ freight.images
  repoUrl_eq : image.repoUrl = subscription.repoUrl
  named : image.tag ≠ ""
  admitted : selector.admits image.tag = true

namespace LiveTag

variable (l : LiveTag) (x : Yard)

/-- The index holds the freight, and the warehouse has its subscriptions and its generation. -/
structure In : Prop where
  spec : x.warehouse.spec = l.warehouse.spec
  metadata : x.warehouse.metadata = l.warehouse.metadata
  held : x.index.find? l.freight.id = some l.freight

/-- The recorded result of the subscription lists the tag. -/
def Listed : Prop := x.warehouse.Lists l.subscription.repoUrl l.image.tag

/-- The recorded result of the subscription has the tag as one that was discovered. -/
def Found : Prop := x.warehouse.Finds l.subscription.repoUrl l.image.tag

/-- The recorded result of the subscription has the tag as one that was kept. -/
def Flagged : Prop := x.warehouse.Flags l.subscription.repoUrl l.image.tag

instance : Decidable (l.Listed x) := inferInstanceAs (Decidable (x.warehouse.Lists ..))

instance : Decidable (l.Found x) := inferInstanceAs (Decidable (x.warehouse.Finds ..))

variable {l x} {y : Yard} {past : List Yard}

theorem not_found_of_not_recorded (h : ¬ x.Recorded) : ¬ l.Found x :=
  Warehouse.not_finds_of_not_recorded (Option.not_isSome_iff_eq_none.1 h)

theorem In.subscribed (hx : l.In x) : l.subscription ∈ x.warehouse.imageSubscriptions := by
  rw [Warehouse.imageSubscriptions, hx.spec]
  exact l.subscribed

theorem In.apart (hx : l.In x) : (x.warehouse.imageSubscriptions.map (·.repoUrl)).Nodup := by
  rw [Warehouse.imageSubscriptions, hx.spec]
  exact l.apart

/-- A pass that asks for the active freight meets the tag. -/
theorem In.inUse (hx : l.In x) (hi : x.index.Consistent) :
    InUse (x.index.active x.warehouse.metadata.ns x.warehouse.metadata.name)
      l.subscription.repoUrl l.image.tag := by
  refine ⟨l.freight, ?_, l.active, l.image, l.carried, l.repoUrl_eq, rfl⟩
  rw [hi.mem_active_iff, hx.metadata]
  exact ⟨⟨_, hx.held⟩, l.origin, l.active⟩

/-! ### The invariant -/

variable (l x past) in
/-- What a state says of the states before it: the recorded pass was made for the generation, and it
kept the tag if no pass so far has discovered it. -/
structure Traced : Prop where
  generation : x.Recorded → x.warehouse.status.observedGeneration = x.warehouse.metadata.generation
  unfound : ¬ x.Recorded → ∀ z ∈ past, ¬ l.Found z
  flagged : x.Recorded → (l.Flagged x ↔ ∀ z ∈ x :: past, ¬ l.Found z)

theorem Traced.needsFreshActivity_iff (h : l.Traced x past) :
    x.warehouse.needsFreshActivity = true ↔ ¬ x.Recorded := by
  rw [Warehouse.needsFreshActivity, Bool.or_eq_true, Option.isNone_iff_eq_none,
    ← Option.not_isSome_iff_eq_none, bne_iff_ne]
  constructor
  · rintro (hr | hg) hr'
    · exact hr hr'
    · exact hg (h.generation hr')
  · exact Or.inl

/-- Where a pass takes the tags in use from, the tag is found if no pass so far discovered it. -/
theorem Traced.reference?_iff (h : l.Traced x past) (hx : l.In x) (hi : x.index.Consistent) :
    ((x.source l.subscription.repoUrl).reference? l.subscription.repoUrl
        l.image.tag).isSome = true ↔ ∀ z ∈ x :: past, ¬ l.Found z := by
  unfold Yard.source
  by_cases hr : x.Recorded
  · rw [if_neg fun hw => h.needsFreshActivity_iff.1 hw hr]
    exact h.flagged hr
  · rw [if_pos (h.needsFreshActivity_iff.2 hr)]
    have hsome := RetentionSource.reference?_fresh_eq_some_iff.2 ⟨rfl, l.named, hx.inUse hi⟩
    rw [hsome]
    exact iff_of_true rfl (List.forall_mem_cons.2 ⟨not_found_of_not_recorded hr, h.unfound hr⟩)

/-- A pass keeps the invariant. -/
theorem Traced.pass (h : l.Traced x past) (hx : l.In x) (hi : x.index.Consistent) {σ : Type}
    {c : Collaborators (StateM σ)} {now : Time.Timestamp} {before after : σ} {a : Artifacts}
    (hc : c.SelectAsSubscribed)
    (ha : Yields ((c.consulting x.index).discover now .all x.warehouse) before a after) :
    l.Traced ⟨x.warehouse.recording a, x.index⟩ (x :: past) := by
  have hrec : (Yard.mk (x.warehouse.recording a) x.index).Recorded := rfl
  refine ⟨fun _ => rfl, fun hr => absurd hrec hr, fun _ => ?_⟩
  obtain ⟨selector, discovered, hsel, hd, hrefs⟩ :=
    Yard.exists_previousReferences_recording hc ha hx.apart hx.subscribed
  obtain rfl : selector = l.selector := Except.ok.inj (hsel.symm.trans l.selects)
  rw [List.forall_mem_cons, ← h.reference?_iff hx hi, Flagged,
    Warehouse.flags_iff_of_retain hrefs hd]
  constructor
  · rintro ⟨-, hsource, -, hfound⟩
    exact ⟨hfound, hsource⟩
  · rintro ⟨hfound, hsource⟩
    exact ⟨rfl, hsource, l.admitted, hfound⟩

/-- A step that records no pass keeps the invariant. -/
theorem Traced.of_status_eq (h : l.Traced x past)
    (hstatus : y.warehouse.status = x.warehouse.status) (hx : l.In x) (hy : l.In y) :
    l.Traced y (x :: past) := by
  have hrec : y.Recorded ↔ x.Recorded := by
    rw [Yard.Recorded, Yard.Recorded, hstatus]
  have hfound : l.Found y ↔ l.Found x := by
    rw [Found, Found, Warehouse.Finds, Warehouse.Finds, Warehouse.previousReferences_congr hstatus]
  have hflagged : l.Flagged y ↔ l.Flagged x := by
    rw [Flagged, Flagged, Warehouse.Flags, Warehouse.Flags,
      Warehouse.previousReferences_congr hstatus]
  refine ⟨fun hr => ?_, fun hr => ?_, fun hr => ?_⟩
  · rw [hstatus, hy.metadata, ← hx.metadata]
    exact h.generation (hrec.1 hr)
  · have hr' : ¬ x.Recorded := fun hr' => hr (hrec.2 hr')
    exact List.forall_mem_cons.2 ⟨not_found_of_not_recorded hr', h.unfound hr'⟩
  · rw [hflagged, h.flagged (hrec.1 hr), List.forall_mem_cons, List.forall_mem_cons,
      List.forall_mem_cons, hfound, and_self_left]

/-- **A step keeps the invariant.** -/
theorem Traced.step (h : l.Traced x past) (hxy : x.Step .all y) (hi : x.index.Consistent)
    (hx : l.In x) (hy : l.In y) : l.Traced y (x :: past) := by
  cases hxy with
  | insert f => exact h.of_status_eq rfl hx hy
  | remove id => exact h.of_status_eq rfl hx hy
  | revise spec generation => exact h.of_status_eq rfl hx hy
  | pass c now before after a hc ha => exact h.pass hx hi hc ha

/-- **The invariant holds in each run.** -/
theorem traced (h : Yard.Run .all x past) (hl : ∀ z ∈ x :: past, l.In z) : l.Traced x past := by
  induction h with
  | start w fs h =>
    have hrec : ¬ (Yard.mk w (.ofList fs)).Recorded := Option.not_isSome_iff_eq_none.2 h
    exact ⟨fun hr => absurd hr hrec, fun _ z hz => absurd hz List.not_mem_nil,
      fun hr => absurd hr hrec⟩
  | step h hxy ih =>
    obtain ⟨hy, hpast⟩ := List.forall_mem_cons.1 hl
    exact (ih hpast).step hxy h.consistent (hpast _ List.mem_cons_self) hy

/-! ### Listed tags -/

/-- The tag is listed unless it was discovered before and is not discovered now. -/
theorem Traced.listed_iff (h : l.Traced x past) :
    (x.Recorded → l.Listed x) ↔ ∀ z ∈ past, l.Found z → l.Found x := by
  by_cases hr : x.Recorded
  · rw [Listed, Warehouse.lists_iff, forall_prop_of_true hr]
    have hflagged := h.flagged hr
    rw [List.forall_mem_cons] at hflagged
    constructor
    · rintro (hf | hf) z hz hzf
      · exact hf
      · exact absurd hzf ((hflagged.1 hf).2 z hz)
    · intro hpast
      by_cases hf : l.Found x
      · exact .inl hf
      · exact .inr (hflagged.2 ⟨hf, fun z hz hzf => hf (hpast z hz hzf)⟩)
  · exact iff_of_true (fun hr' => absurd hr' hr) fun z hz hzf => absurd hzf (h.unfound hr z hz)

/-- **When a live tag is listed throughout.** Each recorded pass of a run lists a live tag if and
only if no pass misses a tag that a pass before it has discovered. -/
theorem listed_iff_pairwise_found (h : Yard.Run .all x past) (hl : ∀ z ∈ x :: past, l.In z) :
    (∀ z ∈ x :: past, z.Recorded → l.Listed z) ↔
      (x :: past).Pairwise fun later earlier => l.Found earlier → l.Found later := by
  induction h with
  | start w fs h =>
    rw [List.forall_mem_singleton]
    exact iff_of_true (fun hr => absurd hr (Option.not_isSome_iff_eq_none.2 h))
      (List.pairwise_singleton ..)
  | step h hxy ih =>
    rw [List.forall_mem_cons, List.pairwise_cons, (traced (h.step hxy) hl).listed_iff,
      ih (List.forall_mem_cons.1 hl).2]

end LiveTag

end

/-! ### A live tag that is kept and one that is lost -/

namespace LiveTag

/-- The tag `v1` of `registry/web`, which `Freight.deployed` holds. -/
def deployed : LiveTag where
  warehouse := .ignoring [[]]
  apart := by decide
  subscription :=
    { ImageSubscription.ofRepo "registry/web" with strategy := .lexical, discoveryLimit := 1 }
  subscribed := by decide
  selector := ⟨⟨none, []⟩, none, 1, .lexical⟩
  selects := rfl
  freight := .deployed
  active := rfl
  origin := rfl
  image := ⟨"registry/web", "v1", ""⟩
  carried := by decide
  repoUrl_eq := rfl
  named := by decide
  admitted := rfl

/-- The results of a pass that discovers one tag and keeps others. -/
def results (tag : String) (kept : List String) : Artifacts :=
  ⟨some ⟨0, 0⟩, [⟨"registry/web", none, .listed tag :: kept.map .retained⟩]⟩

/-- The yard with `Freight.deployed` before a pass, or after one with the given results. -/
def yard (recorded : Option Artifacts) : Yard :=
  ⟨recorded.elim (.ignoring [[]]) (Warehouse.ignoring [[]]).recording, .ofList [.deployed]⟩

theorem in_yard (recorded : Option Artifacts) : deployed.In (yard recorded) := by
  cases recorded with
  | none => exact ⟨rfl, rfl, rfl⟩
  | some a => exact ⟨rfl, rfl, rfl⟩

/-- A pass for which the repository lists the tags. -/
theorem step_yard (tags : List String) {recorded : Option Artifacts} {a : Artifacts}
    (h : Yields (((Collaborators.listing (fun _ => tags) []).consulting
      (.ofList [.deployed])).discover ⟨0, 0⟩ .all (yard recorded).warehouse) () a ()) :
    (yard recorded).Step .all (yard (some a)) := by
  have hstep := Yard.Step.pass _ _ _ _ _ (Collaborators.selectAsSubscribed_listing _ _) h
  cases recorded with
  | none => exact hstep
  | some b => exact hstep

/-- The first pass keeps `v1`, and the second one discovers it. -/
theorem listed_iff_pairwise_found_deployed :
    Yard.Run .all (yard (some (results "v1" ["v0"])))
        [yard (some (results "v2" ["v0", "v1"])), yard none] ∧
      (∀ z ∈ [yard (some (results "v1" ["v0"])), yard (some (results "v2" ["v0", "v1"])),
        yard none], deployed.In z) ∧
      ∀ z ∈ [yard (some (results "v1" ["v0"])), yard (some (results "v2" ["v0", "v1"])), yard none],
        z.Recorded → deployed.Listed z := by
  have hrun : Yard.Run .all (yard (some (results "v1" ["v0"])))
      [yard (some (results "v2" ["v0", "v1"])), yard none] := by
    refine ((Yard.Run.start _ _ rfl).step (step_yard ["v1", "v2"] ?_)).step (step_yard ["v1"] ?_)
    all_goals
      simp only [Collaborators.listing, Selector.selection, Selector.select,
        Selector.rankTexts_eq_insertionSort]
      decide +kernel
  have hin : ∀ z ∈ [yard (some (results "v1" ["v0"])), yard (some (results "v2" ["v0", "v1"])),
      yard none], deployed.In z := by
    simp only [List.forall_mem_cons, in_yard, true_and, List.not_mem_nil, false_implies,
      implies_true]
  exact ⟨hrun, hin, (listed_iff_pairwise_found hrun hin).2 (by decide)⟩

/-- **A live tag can be lost.** The first pass discovers `v1` and does not flag it. For the second
pass `v2` is the one tag to be discovered, and `v1` is not listed, although active freight holds it
all the time. -/
theorem exists_live_tag_lost :
    ∃ (l : LiveTag) (x : Yard) (past : List Yard), Yard.Run .all x past ∧
      (∀ z ∈ x :: past, l.In z) ∧ x.Recorded ∧ ¬ l.Listed x := by
  refine ⟨deployed, yard (some (results "v2" ["v0"])),
    [yard (some (results "v1" ["v0"])), yard none], ?_, ?_, rfl, by decide⟩
  · refine ((Yard.Run.start _ _ rfl).step (step_yard ["v1"] ?_)).step (step_yard ["v1", "v2"] ?_)
    all_goals
      simp only [Collaborators.listing, Selector.selection, Selector.select,
        Selector.rankTexts_eq_insertionSort]
      decide +kernel
  · simp only [List.forall_mem_cons, in_yard, true_and, List.not_mem_nil, false_implies,
      implies_true]

end LiveTag

end ImageDiscovery
