import ImageDiscovery.Proofs.Outcome
import ImageDiscovery.Proofs.Registry.PlatformText
import ImageDiscovery.Selection.Selector

/-!
# What selectors take from subscriptions

A selector is made from its subscription alone. Its platform is the one that the subscription
writes, its filter lets a tag pass by the pattern and the ignored tags of the subscription, and its
rule is that of the strategy. Which tags qualify is told here from the subscription, so that the
selector only has to be matched to it.

## Main definitions

* `ImageSubscription.Wants` — the platform that a subscription wants.
* `ImageSubscription.LetsPass` — the filter of a subscription.
* `ImageSubscription.Qualifies` — the tags that qualify for a subscription.
* `ImageSubscription.considered` — the tags that a strategy looks at.

## Main results

* `Selector.ofSubscription_eq_ok_iff` — what a selector is made of.
* `Selector.rule_of_ofSubscription` — which rule a subscription has.
* `Selector.wants_iff`, `Selector.passes_iff`, `Selector.admits_iff` — the platform, the filter
  and the tags that qualify are those of the subscription.
-/

namespace ImageDiscovery

open Text

namespace ImageSubscription

/-- The platform that the subscription wants: none if it writes none or the empty text, and
otherwise the one whose parts its text has between slashes, with any white space around them all. -/
def Wants (s : ImageSubscription) : Option Platform → Prop
  | none => ∀ text, s.platform = some text → text = ""
  | some p => ∃ text, s.platform = some text ∧ Platform.IsWritten p.parts ∧
      trim text.toList = join '/' p.parts

/-- The tag is not among the ignored ones, and the pattern occurs in it if there is one; the empty
text is no pattern. -/
structure LetsPass [PatternEngine] (s : ImageSubscription) (tag : String) : Prop where
  not_ignored : tag ∉ s.ignoreTags
  allowed : ∀ text, s.allowTags = some text → text ≠ "" →
    ∃ p, PatternEngine.compile? text = some p ∧ PatternEngine.occursIn p tag = true

/-- The subscription has no constraint, or a blank one. -/
def IsUnconstrained (s : ImageSubscription) : Prop :=
  ∀ text, s.constraint = some text → ∀ x ∈ text.toList, isBlank x = true

/-- The tag passes the filter, and the strategy looks for it: by versions, a tag that writes a
version which satisfies the constraint, if there is one; for one tag, the tag that the constraint
names, without the white space around it. -/
def Qualifies [PatternEngine] (s : ImageSubscription) (tag : String) : Prop :=
  s.LetsPass tag ∧
    match s.strategy with
    | .semVer => ∃ v, Version.ofTag? s.strictVersions tag = some v ∧
        (s.IsUnconstrained ∨ ∃ text c, s.constraint = some text ∧
          Constraint.ofString text = .ok c ∧ c.admits v = true)
    | .lexical | .newestBuild => True
    | .digest => ∃ text, s.constraint = some text ∧ tag = String.ofList (trim text.toList)

/-- The tags that the strategy looks at: those that are listed, or the one tag that the constraint
names, without the white space around it. -/
def considered (s : ImageSubscription) (listed : List String) : List String :=
  match s.strategy with
  | .semVer | .lexical | .newestBuild => listed
  | .digest => (s.constraint.map fun t => String.ofList (trim t.toList)).toList

end ImageSubscription

variable {s : ImageSubscription} {tag : String} {v : Version}

/-! ### Constraints -/

namespace SelectionRule

/-- A blank constraint is none, and any other is read. -/
theorem constraint?_eq_ok {text : Option String} {found : Option Constraint}
    (h : constraint? text = .ok found) :
    (found = none ∧ ∀ t, text = some t → ∀ x ∈ t.toList, isBlank x = true) ∨
      ∃ t c, text = some t ∧ (∃ x ∈ t.toList, isBlank x = false) ∧ found = some c ∧
        Constraint.ofString t = .ok c := by
  rw [constraint?] at h
  split at h
  · next hnone =>
    refine .inl ⟨(Except.ok.inj h).symm, fun t ht => ?_⟩
    have hblank := Option.filter_eq_none_iff.1 hnone t ht
    exact trim_eq_nil_iff.1 (by simpa using hblank)
  · next t hsome =>
    obtain ⟨ht, hvisible⟩ := Option.filter_eq_some_iff.1 hsome
    split at h
    · next c hc =>
      refine .inr ⟨t, c, ht, ?_, (Except.ok.inj h).symm, hc⟩
      by_contra hblank
      have hall : ∀ x ∈ t.toList, isBlank x = true := by simpa using hblank
      rw [trim_eq_nil_iff.2 hall] at hvisible
      cases hvisible
    · cases h

/-- A version of a tag satisfies the constraint. -/
theorem isSome_version?_iff {constraint : Option Constraint} {strict : Bool}
    (htag : Version.ofTag? strict tag = some v) :
    (version? constraint strict tag).isSome = true ↔
      ∀ c, constraint = some c → c.admits v = true := by
  rw [version?, htag]
  cases constraint with
  | none => simp
  | some c => simp [Option.filter]

theorem isSome_version?_iff_exists {constraint : Option Constraint} {strict : Bool} :
    (version? constraint strict tag).isSome = true ↔
      ∃ v, Version.ofTag? strict tag = some v ∧ ∀ c, constraint = some c → c.admits v = true := by
  cases htag : Version.ofTag? strict tag with
  | none => simp [version?, htag]
  | some v => simp [isSome_version?_iff htag]

/-- What the constraint of a subscription asks of a version. -/
theorem admits_constraint?_iff {constraint : Option Constraint}
    (h : constraint? s.constraint = .ok constraint) :
    (∀ c, constraint = some c → c.admits v = true) ↔
      s.IsUnconstrained ∨ ∃ text c, s.constraint = some text ∧
        Constraint.ofString text = .ok c ∧ c.admits v = true := by
  rcases constraint?_eq_ok h with ⟨rfl, hblank⟩ | ⟨text, c, htext, ⟨x, hx, hvisible⟩, rfl, hc⟩
  · exact iff_of_true (by rintro c ⟨⟩) (.inl hblank)
  · have hconstrained : ¬ s.IsUnconstrained := fun hblank =>
      Bool.false_ne_true (hvisible.symm.trans (hblank text htext x hx))
    rw [or_iff_right hconstrained]
    simp [htext, hc]

theorem considered_of_tagName (hs : s.strategy = .digest) {name : String}
    (hname : tagName s.constraint = .ok name) (listed : List String) :
    s.considered listed = [name] ∧
      ∃ text, s.constraint = some text ∧ name = String.ofList (trim text.toList) := by
  simp only [ImageSubscription.considered, hs]
  unfold tagName at hname
  split at hname
  · next text htext =>
    obtain ⟨hmap, -⟩ := Option.filter_eq_some_iff.1 htext
    obtain ⟨constraint, hc, rfl⟩ := Option.map_eq_some_iff.1 hmap
    obtain rfl := Except.ok.inj hname
    rw [hc, Option.map_some, Option.toList_some]
    exact ⟨rfl, constraint, rfl, rfl⟩
  · cases hname

end SelectionRule

/-! ### Filters -/

section

variable [PatternEngine]

/-- The filter of a pattern and a list of ignored tags. -/
theorem TagFilter.passes_iff {allow : Option String} {ignore : List String} {f : TagFilter}
    (h : make allow ignore = .ok f) : f.passes tag = true ↔ tag ∉ ignore ∧
      ∀ text, allow = some text → text ≠ "" →
        ∃ p, PatternEngine.compile? text = some p ∧ PatternEngine.occursIn p tag = true := by
  unfold make at h
  split at h
  · next hnone =>
    obtain rfl := Except.ok.inj h
    have hempty : ∀ text, allow = some text → text = "" := fun text htext => by
      simpa using Option.filter_eq_none_iff.1 hnone text htext
    simp only [passes, Option.all_none, Bool.and_true, Bool.not_eq_true', List.contains_eq_mem,
      decide_eq_false_iff_not]
    exact (and_iff_left fun text htext hne => absurd (hempty text htext) hne).symm
  · next text hsome =>
    obtain ⟨rfl, hne⟩ := Option.filter_eq_some_iff.1 hsome
    have hne : text ≠ "" := by simpa using hne
    split at h
    · next p hp =>
      obtain rfl := Except.ok.inj h
      simp [passes, hp, hne]
    · cases h

end

/-! ### Selectors -/

namespace Selector

theorem platform?_eq_ok_iff {wanted : Option Platform} :
    platform? s.platform = .ok wanted ↔ s.Wants wanted := by
  unfold platform?
  split
  · next hnone =>
    have hempty : ∀ text, s.platform = some text → text = "" := fun text htext => by
      simpa using Option.filter_eq_none_iff.1 hnone text htext
    cases wanted with
    | none => exact iff_of_true rfl hempty
    | some p =>
      refine iff_of_false nofun ?_
      rintro ⟨text, htext, hwritten⟩
      rw [hempty text htext] at hwritten
      exact nomatch Platform.ofString?_eq_some_iff.2 hwritten
  · next text hsome =>
    obtain ⟨htext, hne⟩ := Option.filter_eq_some_iff.1 hsome
    have hwants : s.Wants wanted ↔ ∃ p, wanted = some p ∧ Platform.ofString? text = some p := by
      cases wanted with
      | none =>
        refine iff_of_false (fun h => ?_) nofun
        rw [h text htext] at hne
        cases hne
      | some p => simp [ImageSubscription.Wants, htext, Platform.ofString?_eq_some_iff]
    rw [hwants]
    split
    · next p hp => simp [hp, eq_comm]
    · next hp => simp [hp]

variable [PatternEngine] {selector : Selector}

/-- A selector is made of the platform, the filter, the limit and the rule of its subscription. -/
theorem ofSubscription_eq_ok_iff : ofSubscription s = .ok selector ↔
    s.Wants selector.platform ∧ TagFilter.make s.allowTags s.ignoreTags = .ok selector.filter ∧
      selector.limit = s.limit ∧ SelectionRule.ofSubscription s = .ok selector.rule := by
  unfold ofSubscription
  simp only [bind_eq_ok_iff, platform?_eq_ok_iff]
  constructor
  · rintro ⟨platform, hplatform, filter, hfilter, rule, hrule, ⟨⟩⟩
    exact ⟨hplatform, hfilter, rfl, hrule⟩
  · rintro ⟨hplatform, hfilter, hlimit, hrule⟩
    exact ⟨_, hplatform, _, hfilter, _, hrule, by rw [← hlimit]; rfl⟩

section

variable (h : ofSubscription s = .ok selector)
include h

/-- The limit and the rule of a selector are those of its subscription. -/
theorem limit_and_rule_of_ofSubscription :
    selector.limit = s.limit ∧ SelectionRule.ofSubscription s = .ok selector.rule :=
  (ofSubscription_eq_ok_iff.1 h).2.2

/-- The platform of a selector is the one that its subscription wants. -/
theorem wants_iff {wanted : Option Platform} : s.Wants wanted ↔ wanted = selector.platform := by
  have hplatform := platform?_eq_ok_iff.2 (ofSubscription_eq_ok_iff.1 h).1
  rw [← platform?_eq_ok_iff, hplatform, Except.ok.injEq, eq_comm]

/-- The filter of a selector is that of its subscription. -/
theorem passes_iff : selector.filter.passes tag = true ↔ s.LetsPass tag :=
  (TagFilter.passes_iff (ofSubscription_eq_ok_iff.1 h).2.1).trans
    ⟨fun ⟨hignored, hallowed⟩ => ⟨hignored, hallowed⟩, fun ⟨hignored, hallowed⟩ =>
      ⟨hignored, hallowed⟩⟩

/-- The rule of a selector is that of the strategy of its subscription. -/
theorem rule_of_ofSubscription :
    (s.strategy = .semVer ∧ ∃ constraint, selector.rule = .versions constraint s.strictVersions) ∨
      (s.strategy = .lexical ∧ selector.rule = .lexical) ∨
      (s.strategy = .newestBuild ∧ selector.rule = .newestBuild) ∨
      (s.strategy = .digest ∧
        ∃ name, SelectionRule.tagName s.constraint = .ok name ∧ selector.rule = .tag name) := by
  have hr := (limit_and_rule_of_ofSubscription h).2
  unfold SelectionRule.ofSubscription at hr
  cases hs : s.strategy with
  | semVer =>
    simp only [hs] at hr
    obtain ⟨constraint, -, hr⟩ := bind_eq_ok_iff.1 hr
    exact .inl ⟨rfl, constraint, (Except.ok.inj hr).symm⟩
  | lexical =>
    simp only [hs] at hr
    exact .inr (.inl ⟨rfl, (Except.ok.inj hr).symm⟩)
  | newestBuild =>
    simp only [hs] at hr
    exact .inr (.inr (.inl ⟨rfl, (Except.ok.inj hr).symm⟩))
  | digest =>
    simp only [hs] at hr
    obtain ⟨name, hname, hr⟩ := bind_eq_ok_iff.1 hr
    exact .inr (.inr (.inr ⟨rfl, name, hname, (Except.ok.inj hr).symm⟩))

/-- **The tags that qualify.** A selector admits the tags that qualify for its subscription. -/
theorem admits_iff : selector.admits tag = true ↔ s.Qualifies tag := by
  rw [admits, Bool.and_eq_true, passes_iff h, ImageSubscription.Qualifies]
  refine and_congr_right' ?_
  have hr := (limit_and_rule_of_ofSubscription h).2
  unfold SelectionRule.ofSubscription at hr
  cases hs : s.strategy with
  | semVer =>
    simp only [hs] at hr
    obtain ⟨constraint, hconstraint, hr⟩ := bind_eq_ok_iff.1 hr
    rw [← Except.ok.inj hr]
    simp only [SelectionRule.isSome_version?_iff_exists,
      SelectionRule.admits_constraint?_iff hconstraint]
  | lexical =>
    simp only [hs] at hr
    rw [← Except.ok.inj hr]
    exact iff_of_true rfl trivial
  | newestBuild =>
    simp only [hs] at hr
    rw [← Except.ok.inj hr]
    exact iff_of_true rfl trivial
  | digest =>
    simp only [hs] at hr
    obtain ⟨name, hname, hr⟩ := bind_eq_ok_iff.1 hr
    rw [← Except.ok.inj hr]
    obtain ⟨-, text, htext, rfl⟩ := SelectionRule.considered_of_tagName hs hname []
    simp [htext]

end

end Selector

end ImageDiscovery
