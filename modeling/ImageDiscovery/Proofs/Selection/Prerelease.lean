import Mathlib.Data.List.Basic
import ImageDiscovery.Pattern.Reader
import ImageDiscovery.Proofs.Retention.Kept
import ImageDiscovery.Proofs.Selection.Ranked
import ImageDiscovery.Proofs.Version.Clause

/-!
# Pre-releases of a subscription by version

A subscription by version opts in to a pre-release if one of the alternatives of its constraint has
a term that names a pre-release with the same numbers, and all terms of this alternative hold of the
pre-release. A constraint is asked for this, but a subscription without a constraint, or with a
blank one, asks nothing of a version. So a tag that writes a pre-release qualifies if the
subscription opts in to it, or if it is not constrained at all; and what is selected or retained
qualifies.

## Main definitions

* `ImageSubscription.OptsInTo` — the constraint names a pre-release and holds of it.

## Main results

* `Selector.admits_of_yields_select` — what is selected by version qualifies.
* `Selector.prerelease_admitted_iff` — the pre-releases that qualify.
-/

namespace ImageDiscovery

open Text Constraint

namespace ImageSubscription

/-- The constraint of the subscription has an alternative of which a term names a pre-release with
the numbers of the version, and all terms hold of the version. -/
def OptsInTo (s : ImageSubscription) (v : Version) : Prop :=
  ∃ text, s.constraint = some text ∧ ∃ a ∈ splitAlternatives text.toList,
    (∃ t ∈ terms a, TermNames t v) ∧ ∀ t ∈ terms a, TermHolds t v

end ImageSubscription

variable {s : ImageSubscription} {tag : String} {v : Version}

namespace Selector

/-! ### What is selected and retained -/

section

variable {σ : Type} {source : TagSource (StateM σ)} {platform : Option Platform} {x y : σ}
  {rs : List ImageReference}

/-- References are to tags that are asked for. -/
theorem mem_of_yields_enrich {n : Nat} {tags : List String}
    (h : Yields (enrich source platform n tags) x rs y) : ∀ r ∈ rs, r.tag ∈ tags := by
  induction tags generalizing n x y rs with
  | nil =>
    have hnil : enrich source platform n [] = pure [] := by cases n <;> rfl
    rw [hnil] at h
    obtain ⟨rfl, -⟩ := yields_pure_iff.1 h
    exact List.forall_mem_nil _
  | cons t ts ih =>
    cases n with
    | zero =>
      obtain ⟨rfl, -⟩ := yields_pure_iff.1 h
      exact List.forall_mem_nil _
    | succ n =>
      obtain ⟨image, z, -, h⟩ := yields_bind_iff.1 h
      cases image with
      | none => exact fun r hr => List.mem_cons_of_mem t (ih h r hr)
      | some image =>
        obtain ⟨rest, w, hrest, h⟩ := yields_bind_iff.1 h
        obtain ⟨rfl, -⟩ := yields_pure_iff.1 h
        refine List.forall_mem_cons.2 ⟨List.mem_cons_self, fun r hr => ?_⟩
        exact List.mem_cons_of_mem t (ih hrest r hr)

/-- What is selected by version qualifies. -/
theorem admits_of_yields_select [PatternEngine] {selector : Selector}
    {constraint : Option Constraint} {strict : Bool}
    (hr : selector.rule = .versions constraint strict)
    (h : Yields (selector.select source) x rs y) : ∀ r ∈ rs, selector.admits r.tag = true := by
  rw [select, hr] at h
  obtain ⟨tags, z, htags, h⟩ := yields_bind_iff.1 h
  obtain ⟨listed, w, -, htags⟩ := yields_bind_iff.1 htags
  obtain ⟨rfl, -⟩ := yields_pure_iff.1 htags
  intro r hmem
  have htag := mem_of_yields_enrich h r hmem
  rw [rankVersions_eq, List.mem_mergeSort, ← pool_of_versions hr] at htag
  simp only [pool, hr] at htag
  exact (List.mem_filter.1 htag).2

end

/-- What is retained was discovered or qualifies. -/
theorem admits_of_mem_retain {policy : RetentionPolicy} {admits : String → Bool}
    {discovered : List ImageReference} {source : RetentionSource}
    (h : tag ∈ (policy.retain s admits discovered source).map (·.tag)) :
    tag ∈ discovered.map (·.tag) ∨ admits tag = true := by
  obtain ⟨r, hr, rfl⟩ := List.mem_map.1 h
  rcases RetentionPolicy.mem_retain.1 hr with hr | hr
  · exact .inl (List.mem_map_of_mem hr)
  · exact .inr (RetentionPolicy.of_find?_kept hr).2.1

/-! ### The pre-releases that qualify -/

/-- A subscription opts in to the pre-releases that its constraint admits. -/
theorem optsInTo_iff {text : String} {c : Constraint} (htext : s.constraint = some text)
    (hc : Constraint.ofString text = .ok c) (hv : v.pre ≠ []) :
    s.OptsInTo v ↔ c.admits v = true := by
  rw [admits_iff_terms hc, ImageSubscription.OptsInTo]
  simp only [htext, Option.some.injEq, exists_eq_left']
  refine exists_congr fun a => and_congr_right fun _ => ?_
  rw [and_comm]
  exact and_congr_right' ⟨fun hnames _ => hnames, fun hnames => hnames hv⟩

/-- **The pre-releases that qualify.** A tag of a pre-release qualifies for a subscription by
version if the filter lets it pass and the subscription opts in to the pre-release, or has no
constraint or a blank one. Only such tags are selected or retained. -/
theorem prerelease_admitted_iff [PatternEngine] {selector : Selector}
    (hs : s.strategy = .semVer) (h : ofSubscription s = .ok selector)
    (htag : Version.ofTag? s.strictVersions tag = some v) (hv : v.pre ≠ []) :
    (selector.admits tag = true ↔
      selector.filter.passes tag = true ∧ (s.IsUnconstrained ∨ s.OptsInTo v)) ∧
    (∀ {σ : Type} (source : TagSource (StateM σ)) (x y : σ) (rs : List ImageReference),
      Yields (selector.select source) x rs y → tag ∈ rs.map (·.tag) →
        s.IsUnconstrained ∨ s.OptsInTo v) ∧
    ∀ (policy : RetentionPolicy) (discovered : List ImageReference) (source : RetentionSource),
      tag ∈ (policy.retain s selector.admits discovered source).map (·.tag) →
        tag ∈ discovered.map (·.tag) ∨ s.IsUnconstrained ∨ s.OptsInTo v := by
  have hrule := (limit_and_rule_of_ofSubscription h).2
  rw [SelectionRule.ofSubscription, hs] at hrule
  obtain ⟨constraint, hconstraint, hrule⟩ := bind_eq_ok_iff.1 hrule
  have hrule : selector.rule = .versions constraint s.strictVersions := (Except.ok.inj hrule).symm
  have hadmits : selector.admits tag = true ↔
      selector.filter.passes tag = true ∧ (s.IsUnconstrained ∨ s.OptsInTo v) := by
    simp only [admits, hrule, Bool.and_eq_true, SelectionRule.isSome_version?_iff htag]
    refine and_congr_right' ?_
    rw [SelectionRule.admits_constraint?_iff hconstraint]
    refine or_congr_right' fun hconstrained => ?_
    rcases SelectionRule.constraint?_eq_ok hconstraint with
      ⟨-, hblank⟩ | ⟨text, c, htext, -, -, hc⟩
    · exact absurd hblank hconstrained
    · rw [optsInTo_iff htext hc hv]
      simp [htext, hc]
  refine ⟨hadmits, fun source x y rs hy hmem => ?_, fun policy discovered source hmem => ?_⟩
  · obtain ⟨r, hr, rfl⟩ := List.mem_map.1 hmem
    exact (hadmits.1 (admits_of_yields_select hrule hy r hr)).2
  · exact (admits_of_mem_retain hmem).imp_right fun ha => (hadmits.1 ha).2

/-- A pre-release of the numbers that a constraint names qualifies, and the subscription opts in to
it. -/
theorem prerelease_admitted_iff_named :
    let s : ImageSubscription :=
      { ImageSubscription.ofRepo "registry/web" with constraint := some ">=1.2.0-rc.0 <2" }
    let v : Version := ⟨1, 2, 0, [.word "rc", .numeric 1]⟩
    ∃ selector, s.strategy = .semVer ∧ ofSubscription s = .ok selector ∧
      Version.ofTag? s.strictVersions "v1.2.0-rc.1" = some v ∧ v.pre ≠ [] ∧
      selector.admits "v1.2.0-rc.1" = true ∧ s.OptsInTo v := by
  intro s v
  let c : Constraint := ⟨">=1.2.0-rc.0 <2",
    [[⟨.ge, ⟨1, 2, 0, [.word "rc", .numeric 0]⟩⟩, ⟨.lt, .release 2 0 0⟩]]⟩
  let selector : Selector := ⟨⟨none, []⟩, none, 20, .versions (some c) true⟩
  have hconstraint : SelectionRule.constraint? s.constraint = .ok (some c) := by decide +kernel
  have h : ofSubscription s = .ok selector :=
    ofSubscription_eq_ok_iff.2 ⟨nofun, rfl, rfl, bind_eq_ok_iff.2 ⟨some c, hconstraint, rfl⟩⟩
  have htag : Version.ofTag? s.strictVersions "v1.2.0-rc.1" = some v := by decide +kernel
  have hadmits : selector.admits "v1.2.0-rc.1" = true := by decide +kernel
  obtain ⟨-, hopts⟩ := (prerelease_admitted_iff rfl h htag (List.cons_ne_nil _ _)).1.1 hadmits
  refine ⟨selector, rfl, h, htag, List.cons_ne_nil _ _, hadmits,
    hopts.resolve_left fun hblank => ?_⟩
  exact absurd (hblank _ rfl '>' (by decide)) (by decide)

/-- Without a constraint a tag of a pre-release qualifies, and nothing opts in to it. -/
theorem exists_prerelease_admitted : ∃ (s : ImageSubscription) (selector : Selector) (v : Version),
    s.strategy = .semVer ∧ ofSubscription s = .ok selector ∧
      Version.ofTag? s.strictVersions "1.0.0-rc.1" = some v ∧ v.pre ≠ [] ∧
      selector.admits "1.0.0-rc.1" = true ∧ ¬ s.OptsInTo v := by
  refine ⟨.ofRepo "registry/web", ⟨⟨none, []⟩, none, 20, .versions none true⟩,
    ⟨1, 0, 0, [.word "rc", .numeric 1]⟩, rfl, rfl, by decide +kernel,
    List.cons_ne_nil _ _, by decide +kernel, ?_⟩
  rintro ⟨text, htext, -⟩
  cases htext

end Selector

end ImageDiscovery
