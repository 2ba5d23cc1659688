import ImageDiscovery.Proofs.Retention.Kept

/-!
# Chains of passes without a query

A pass that asks for the active freight is followed by passes that do not, each starting from the
result of the one before. What the last of them keeps is given in closed form: the tags in use, as
far as they are admitted, that no pass of the chain has discovered. A tag in use that was discovered
once is not flagged, and no later pass keeps it.

## Main definitions

* `RetentionPolicy.replay` — the results of a chain of passes.

## Main results

* `RetentionPolicy.find?_replayKept` — what a pass of the chain keeps, by induction on the chain.
* `RetentionPolicy.replay_eq_append_retained` — the result of a pass of the chain.
-/

namespace ImageDiscovery.RetentionPolicy

open Document

section

variable (p : RetentionPolicy) (s : ImageSubscription) (admits : String → Bool)
  (freight : List Freight) (found : Nat → List ImageReference)

/-- The results of a chain of passes: the first one knows the active freight, and each later one
starts from the result before it. -/
def replay : Nat → List ImageReference
  | 0 => p.retain s admits (found 0) (.fresh freight)
  | n + 1 => p.retain s admits (found (n + 1)) (.cached (replay n))

/-- What the passes of a chain keep, by tag. -/
def replayKept : Nat → Dictionary ImageReference
  | 0 => p.kept s admits (found 0) (.fresh freight)
  | n + 1 => p.kept s admits (found (n + 1)) (.cached (p.replay s admits freight found n))

theorem replay_eq (n : Nat) : p.replay s admits freight found n =
    found n ++ (p.replayKept s admits freight found n).entries.map (·.2) := by
  cases n with
  | zero => exact p.retain_eq ..
  | succ n => exact p.retain_eq ..

end

variable {p : RetentionPolicy} {s : ImageSubscription} {admits : String → Bool}
  {freight : List Freight} {found : Nat → List ImageReference} {n : Nat}

/-- The flagged references of a result are what the next pass starts from. -/
theorem find?_flagged_replay (hfound : ∀ x ∈ found n, x.fromActiveFreight = false) (t : String) :
    (p.replay s admits freight found n).find? (·.isFlagged t) =
      (p.replayKept s admits freight found n).find? t := by
  cases n with
  | zero => exact find?_isFlagged_retain_of_unflagged hfound t
  | succ n => exact find?_isFlagged_retain_of_unflagged hfound t

/-- A pass of a chain keeps the tags in use that are admitted and that neither it nor a pass before
it has discovered. -/
theorem find?_replayKept (hp : p.appliesTo s.strategy = true)
    (hfound : ∀ i ≤ n, ∀ x ∈ found i, x.fromActiveFreight = false) {t : String}
    {r : ImageReference} :
    (p.replayKept s admits freight found n).find? t = some r ↔
      r = .retained t ∧ t ≠ "" ∧ InUse freight s.repoUrl t ∧ admits t = true ∧
        ∀ i ≤ n, t ∉ (found i).map (·.tag) := by
  induction n with
  | zero =>
    simp only [replayKept, find?_kept, RetentionSource.reference?_fresh_eq_some_iff, hp, true_and,
      Nat.le_zero_eq, forall_eq, and_assoc]
  | succ n ih =>
    have hprev := ih fun i hi => hfound i (Nat.le_succ_of_le hi)
    rw [replayKept, find?_kept, RetentionSource.reference?,
      find?_flagged_replay (hfound n (Nat.le_succ n)), hprev]
    constructor
    · rintro ⟨-, ⟨hr, ht, hu, ha, hd⟩, -, hn⟩
      refine ⟨hr, ht, hu, ha, fun i hi => ?_⟩
      rcases Nat.le_succ_iff.1 hi with hi | rfl
      · exact hd i hi
      · exact hn
    · rintro ⟨hr, ht, hu, ha, hd⟩
      have hprevious : ∀ i ≤ n, t ∉ (found i).map (·.tag) := fun i hi =>
        hd i (Nat.le_succ_of_le hi)
      exact ⟨hp, ⟨hr, ht, hu, ha, hprevious⟩, ha, hd _ (Nat.le_refl _)⟩

/-- **The result of a chain of passes.** The last pass has what it discovered, and after it a bare
reference for each tag in use that is admitted and that no pass of the chain discovered, in
ascending order of the tags. -/
theorem replay_eq_append_retained (hp : p.appliesTo s.strategy = true) (n : Nat)
    (hfound : ∀ i ≤ n, ∀ x ∈ found i, x.fromActiveFreight = false) :
    ∃ tags : List String, tags.Pairwise (· < ·) ∧
      (∀ t, t ∈ tags ↔ t ≠ "" ∧ InUse freight s.repoUrl t ∧ admits t = true ∧
        ∀ i ≤ n, t ∉ (found i).map (·.tag)) ∧
      p.replay s admits freight found n = found n ++ tags.map .retained := by
  let d := p.replayKept s admits freight found n
  refine ⟨d.entries.map (·.1), d.pairwise_keys, fun t => ?_, ?_⟩
  · simp only [Dictionary.mem_keys_iff, d, find?_replayKept hp hfound, exists_eq_left]
  · rw [replay_eq, List.map_map]
    congr 1
    refine List.map_congr_left fun ⟨t, r⟩ he => ?_
    exact ((find?_replayKept hp hfound).1 (Dictionary.mem_entries_iff.1 he)).1

/-- Two tags are in use. The first pass discovers `v1`, so that the second one keeps `v0` only. -/
theorem replay_eq_append_retained_second :
    (all.appliesTo (ImageSubscription.ofRepo "registry/web").strategy = true ∧
      ∀ i ≤ 1, ∀ x ∈ [ImageReference.bare (if i = 0 then "v1" else "v2")],
        x.fromActiveFreight = false) ∧
    ∃ tags : List String, tags.Pairwise (· < ·) ∧
      (∀ t, t ∈ tags ↔ t ≠ "" ∧ InUse [.deployed] "registry/web" t ∧ (t != "latest") = true ∧
        ∀ i ≤ 1, t ∉ [ImageReference.bare (if i = 0 then "v1" else "v2")].map (·.tag)) ∧
      all.replay (.ofRepo "registry/web") (· != "latest") [.deployed]
          (fun i => [.bare (if i = 0 then "v1" else "v2")]) 1 =
        [.bare "v2"] ++ tags.map .retained :=
  have hfound : ∀ i ≤ 1, ∀ x ∈ [ImageReference.bare (if i = 0 then "v1" else "v2")],
      x.fromActiveFreight = false := by decide
  ⟨⟨rfl, hfound⟩, replay_eq_append_retained (s := .ofRepo "registry/web") (p := .all) rfl 1 hfound⟩

example : all.replay (.ofRepo "registry/web") (· != "latest") [.deployed]
    (fun i => [.bare (if i = 0 then "v1" else "v2")]) 1 = [.bare "v2", .retained "v0"] := by
  decide

end ImageDiscovery.RetentionPolicy
