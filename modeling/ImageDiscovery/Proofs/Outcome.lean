import Mathlib.Data.List.Forall2

/-!
# Outcomes of computations with a state

A computation that may fail and that acts on the state of the world either yields a value, and
leaves the world in another state, or fails. Where collaborators are arbitrary computations of this
kind, nothing is assumed about what they answer, and the same question may be answered differently
each time that it is asked. A computation without a state has a result or fails.

## Main definitions

* `Yields` — a computation yields a value.

## Main results

* `yields_bind_iff`, `yields_map_iff`, `yields_adapt_iff` — what a composed computation yields.
* `bind_eq_ok_iff`, `bind_eq_error_iff`, `map_eq_ok_iff`, `mapM_eq_ok_iff`, `mapM_eq_some_iff` —
  what a composed computation without a state comes to.
-/

namespace ImageDiscovery

variable {ε ε' σ α β : Type}

/-- From a state of the world, the computation yields a value and leaves the world in a state. -/
def Yields (c : ExceptT ε (StateM σ) α) (x : σ) (a : α) (y : σ) : Prop :=
  (c.run.run x).run = (.ok a, y)

instance [DecidableEq ε] [DecidableEq σ] [DecidableEq α] (c : ExceptT ε (StateM σ) α) (x : σ)
    (a : α) (y : σ) : Decidable (Yields c x a y) :=
  inferInstanceAs (Decidable ((c.run.run x).run = (.ok a, y)))

variable {c : ExceptT ε (StateM σ) α} {x y z : σ} {a b : α}

/-- A computation yields one value at most. -/
theorem Yields.unique (h : Yields c x a y) (h' : Yields c x b z) : a = b ∧ y = z := by
  have heq := h.symm.trans h'
  simp only [Prod.mk.injEq, Except.ok.injEq] at heq
  exact heq

theorem yields_pure_iff : Yields (pure a : ExceptT ε (StateM σ) α) x b y ↔ a = b ∧ x = y := by
  simp [Yields]

theorem yields_bind_iff {f : α → ExceptT ε (StateM σ) β} {b : β} :
    Yields (c >>= f) x b z ↔ ∃ a y, Yields c x a y ∧ Yields (f a) y b z := by
  simp only [Yields, ExceptT.run_bind, StateT.run_bind, Id.run_bind]
  rcases (c.run.run x).run with ⟨r, y⟩
  cases r with
  | ok a =>
    constructor
    · exact fun h => ⟨a, y, rfl, h⟩
    · rintro ⟨a', y', heq, h⟩
      cases heq
      exact h
  | error e => simp

theorem yields_map_iff {f : α → β} {b : β} :
    Yields (f <$> c) x b y ↔ ∃ a, Yields c x a y ∧ f a = b := by
  rw [← bind_pure_comp, yields_bind_iff]
  simp only [yields_pure_iff]
  constructor
  · rintro ⟨a, y', h, rfl, rfl⟩
    exact ⟨a, h, rfl⟩
  · rintro ⟨a, h, rfl⟩
    exact ⟨a, y, h, rfl, rfl⟩

/-- Another wording of the failures does not change what is yielded. -/
theorem yields_adapt_iff {f : ε → ε'} : Yields (c.adapt f) x a y ↔ Yields c x a y := by
  simp only [Yields, ExceptT.run_adapt, StateT.run_map, Id.run_map]
  rcases (c.run.run x).run with ⟨r, y⟩
  cases r with
  | ok a =>
    constructor
    · rintro ⟨⟩
      rfl
    · rintro ⟨⟩
      rfl
  | error e => exact ⟨nofun, nofun⟩

/-! ### Computations without a state -/

theorem bind_eq_ok_iff {r : Except ε α} {f : α → Except ε β} {b : β} :
    r >>= f = .ok b ↔ ∃ a, r = .ok a ∧ f a = .ok b := by
  cases r with
  | error e => exact ⟨nofun, fun ⟨a, ha, _⟩ => nomatch ha⟩
  | ok a =>
    constructor
    · exact fun h => ⟨a, rfl, h⟩
    · rintro ⟨a', ha, h⟩
      cases ha
      exact h

/-- A composed computation fails where the first of its parts fails. -/
theorem bind_eq_error_iff {r : Except ε α} {f : α → Except ε β} {e : ε} :
    r >>= f = .error e ↔ r = .error e ∨ ∃ a, r = .ok a ∧ f a = .error e := by
  cases r with
  | error e' =>
    constructor
    · exact fun h => .inl (congrArg Except.error (Except.error.inj h))
    · rintro (h | ⟨a, ha, -⟩)
      · exact congrArg Except.error (Except.error.inj h)
      · exact nomatch ha
  | ok a =>
    constructor
    · exact fun h => .inr ⟨a, rfl, h⟩
    · rintro (h | ⟨a', ha, h⟩)
      · exact nomatch h
      · cases ha
        exact h

theorem map_eq_ok_iff {r : Except ε α} {f : α → β} {b : β} :
    r.map f = .ok b ↔ ∃ a, r = .ok a ∧ f a = b := by
  cases r with
  | error e => exact ⟨nofun, fun ⟨a, ha, _⟩ => nomatch ha⟩
  | ok a =>
    constructor
    · exact fun h => ⟨a, rfl, Except.ok.inj h⟩
    · rintro ⟨a', ha, rfl⟩
      cases ha
      rfl

/-- Results are found for all members, one for each. -/
theorem mapM_eq_ok_iff {f : α → Except ε β} {as : List α} {bs : List β} :
    as.mapM f = .ok bs ↔ List.Forall₂ (fun a b => f a = .ok b) as bs := by
  induction as generalizing bs with
  | nil =>
    rw [List.mapM_nil, List.forall₂_nil_left_iff]
    exact ⟨fun h => (Except.ok.inj h).symm, fun h => congrArg Except.ok h.symm⟩
  | cons a as ih =>
    rw [List.mapM_cons, bind_eq_ok_iff, List.forall₂_cons_left_iff]
    refine exists_congr fun b => ?_
    rw [bind_eq_ok_iff]
    simp only [ih]
    constructor
    · rintro ⟨hb, bs', hbs, heq⟩
      exact ⟨bs', hb, hbs, (Except.ok.inj heq).symm⟩
    · rintro ⟨bs', hb, hbs, rfl⟩
      exact ⟨hb, bs', hbs, rfl⟩

/-- Each member of a list has a result, one for each. -/
theorem mapM_eq_some_iff {f : α → Option β} {as : List α} {bs : List β} :
    as.mapM f = some bs ↔ List.Forall₂ (fun a b => f a = some b) as bs := by
  induction as generalizing bs with
  | nil =>
    rw [List.mapM_nil, List.forall₂_nil_left_iff]
    exact ⟨fun h => (Option.some.inj h).symm, fun h => congrArg some h.symm⟩
  | cons a as ih =>
    simp only [List.mapM_cons, List.forall₂_cons_left_iff, Option.bind_eq_bind,
      Option.bind_eq_some_iff, ih]
    refine exists_congr fun b => ?_
    constructor
    · rintro ⟨hb, bs', hbs, h⟩
      exact ⟨bs', hb, hbs, (Option.some.inj h).symm⟩
    · rintro ⟨bs', hb, hbs, rfl⟩
      exact ⟨hb, bs', hbs, rfl⟩

/-- Each member of the first of two related lists is related to something. -/
theorem exists_of_forall₂ {R : α → β → Prop} {as : List α} {bs : List β}
    (h : List.Forall₂ R as bs) : ∀ a ∈ as, ∃ b, R a b :=
  ((List.forall₂_and_left ..).1 (h.imp fun _ b hab => ⟨⟨b, hab⟩, hab⟩)).1

end ImageDiscovery
