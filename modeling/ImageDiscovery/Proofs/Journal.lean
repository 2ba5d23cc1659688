import ImageDiscovery.Proofs.Outcome

/-!
# Computations that keep a journal

To say which calls a computation makes, and in which order, the calls are replaced by ones that also
put a note into a journal. A computation that is made of such calls *mirrors* the original one: it
ends in the same way and leaves the world in the same state, whatever was in the journal before, and
its notes are added at the end of the journal.

## Main definitions

* `Ends` — how a computation ends, with a value or a failure.
* `noting` — a call with a note of how it ended.
* `Mirrors` — a computation and its counterpart with a journal.
* `Keeps` — what is true of the world before a computation is true after it.

## Main results

* `exists_ends`, `Ends.unique` — each computation ends, and in one way only.
* `mirrors_noting`, `Mirrors.bind`, `Mirrors.fail`, `Mirrors.adapt` — what mirrors what.
* `keeps_pure`, `Keeps.bind`, `keeps_noting` — what is kept.
-/

namespace ImageDiscovery

variable {ε ε' σ ν α β α' β' : Type}

/-! ### Ends -/

/-- From a state of the world, the computation ends with a result and leaves the world in a
state. -/
def Ends (c : ExceptT ε (StateM σ) α) (x : σ) (r : Except ε α) (y : σ) : Prop :=
  (c.run.run x).run = (r, y)

instance [DecidableEq ε] [DecidableEq σ] [DecidableEq α] (c : ExceptT ε (StateM σ) α) (x : σ)
    (r : Except ε α) (y : σ) : Decidable (Ends c x r y) :=
  inferInstanceAs (Decidable ((c.run.run x).run = (r, y)))

theorem exists_ends (c : ExceptT ε (StateM σ) α) (x : σ) : ∃ r y, Ends c x r y :=
  ⟨_, _, rfl⟩

namespace Ends

variable {c : ExceptT ε (StateM σ) α} {x y z : σ} {a : α} {e : ε} {r : Except ε α}

theorem bind {f : α → ExceptT ε (StateM σ) β} {r : Except ε β} (h : Ends c x (.ok a) y)
    (hf : Ends (f a) y r z) : Ends (c >>= f) x r z := by
  unfold Ends at h hf ⊢
  rw [ExceptT.run_bind, StateT.run_bind, Id.run_bind, h]
  exact hf

/-- What follows a failure is not done. -/
theorem fail (h : Ends c x (.error e) y) (f : α → ExceptT ε (StateM σ) β) :
    Ends (c >>= f) x (.error e) y := by
  unfold Ends at h ⊢
  rw [ExceptT.run_bind, StateT.run_bind, Id.run_bind, h]
  rfl

theorem adapt (h : Ends c x r y) (f : ε → ε') : Ends (c.adapt f) x (r.mapError f) y := by
  unfold Ends at h ⊢
  rw [ExceptT.run_adapt, StateT.run_map, Id.run_map, h]

/-- A computation ends in one way only. -/
theorem unique {r' : Except ε α} (h : Ends c x r y) (h' : Ends c x r' z) : r = r' ∧ y = z :=
  Prod.mk.inj (h.symm.trans h')

end Ends

/-! ### Journals -/

/-- The call with a note of how it ended, and with its value in another form. -/
def noting (note : Except ε α → ν) (g : α → α') (c : ExceptT ε (StateM σ) α) :
    ExceptT ε (StateM (σ × List ν)) α' :=
  ExceptT.mk fun (x, notes) =>
    let (r, y) := (c.run.run x).run
    (r.map g, y, notes ++ [note r])

/-- The computation ends with a result, and its counterpart does so too, with the value in another
form and some notes at the end of the journal. -/
structure Mirrors (g : α → α') (c : ExceptT ε (StateM σ) α)
    (c' : ExceptT ε (StateM (σ × List ν)) α') (x : σ) (r : Except ε α) (y : σ) (notes : List ν) :
    Prop where
  ends : Ends c x r y
  ends_noted : ∀ before, Ends c' (x, before) (r.map g) (y, before ++ notes)

theorem mirrors_pure (g : α → α') (a : α) (x : σ) :
    Mirrors g (pure a : ExceptT ε (StateM σ) α) (pure (g a)) x (.ok a) x ([] : List ν) := by
  refine ⟨rfl, fun before => ?_⟩
  rw [List.append_nil]
  rfl

theorem mirrors_noting {c : ExceptT ε (StateM σ) α} {x y : σ} {r : Except ε α}
    (note : Except ε α → ν) (g : α → α') (h : Ends c x r y) :
    Mirrors g c (noting note g c) x r y [note r] := by
  refine ⟨h, fun before => ?_⟩
  unfold Ends at h
  unfold Ends noting
  rw [ExceptT.run_mk]
  change (let (r, y) := (c.run.run x).run; (r.map g, y, before ++ [note r])) = _
  rw [h]

namespace Mirrors

variable {g : α → α'} {k : β → β'} {c : ExceptT ε (StateM σ) α}
  {c' : ExceptT ε (StateM (σ × List ν)) α'} {x y z : σ} {a : α} {e : ε} {ns ms : List ν}

theorem bind {f : α → ExceptT ε (StateM σ) β} {f' : α' → ExceptT ε (StateM (σ × List ν)) β'}
    {r : Except ε β} (h : Mirrors g c c' x (.ok a) y ns)
    (hf : Mirrors k (f a) (f' (g a)) y r z ms) :
    Mirrors k (c >>= f) (c' >>= f') x r z (ns ++ ms) := by
  refine ⟨h.ends.bind hf.ends, fun before => (h.ends_noted before).bind ?_⟩
  rw [← List.append_assoc]
  exact hf.ends_noted (before ++ ns)

theorem fail (h : Mirrors g c c' x (.error e) y ns) (f : α → ExceptT ε (StateM σ) β)
    (f' : α' → ExceptT ε (StateM (σ × List ν)) β') :
    Mirrors k (c >>= f) (c' >>= f') x (.error e) y ns :=
  ⟨h.ends.fail f, fun before => (h.ends_noted before).fail f'⟩

theorem adapt {r : Except ε α} (h : Mirrors g c c' x r y ns) (f : ε → ε') :
    Mirrors g (c.adapt f) (c'.adapt f) x (r.mapError f) y ns := by
  refine ⟨h.ends.adapt f, fun before => ?_⟩
  have hmap : (r.mapError f).map g = (r.map g).mapError f := by cases r <;> rfl
  rw [hmap]
  exact (h.ends_noted before).adapt f

end Mirrors

/-! ### What is kept -/

/-- However the computation ends, what is true of the state of the world before it is true after
it. -/
def Keeps (I : σ → Prop) (c : ExceptT ε (StateM σ) α) : Prop :=
  ∀ x r y, I x → Ends c x r y → I y

section

variable {I : σ → Prop}

theorem keeps_pure (I : σ → Prop) (a : α) : Keeps I (pure a : ExceptT ε (StateM σ) α) := by
  rintro x r y hx ⟨⟩
  exact hx

theorem Keeps.bind {c : ExceptT ε (StateM σ) α} {f : α → ExceptT ε (StateM σ) β} (h : Keeps I c)
    (hf : ∀ a, Keeps I (f a)) : Keeps I (c >>= f) := by
  intro x r z hx hz
  obtain ⟨s, y, hy⟩ := exists_ends c x
  have hIy : I y := h x s y hx hy
  cases s with
  | error e =>
    rw [← ((hy.fail f).unique hz).2]
    exact hIy
  | ok a =>
    obtain ⟨r', z', hz'⟩ := exists_ends (f a) y
    rw [← ((hy.bind hz').unique hz).2]
    exact hf a y r' z' hIy hz'

/-- Where all notes that a call can add have a property, the journal keeps to it. -/
theorem keeps_noting {P : ν → Prop} {note : Except ε α → ν} {c : ExceptT ε (StateM σ) α}
    (g : α → α') (h : ∀ x r y, Ends c x r y → P (note r)) :
    Keeps (fun s : σ × List ν => ∀ n ∈ s.2, P n) (noting note g c) := by
  rintro ⟨x, notes⟩ r' ⟨y', notes'⟩ hnotes hends
  obtain ⟨r, y, hy⟩ := exists_ends c x
  have hnoting := (mirrors_noting note g hy).ends_noted notes
  obtain ⟨-, rfl⟩ := Prod.mk.inj (hnoting.unique hends).2
  exact List.forall_mem_append.2 ⟨hnotes, List.forall_mem_singleton.2 (h x r y hy)⟩

end

end ImageDiscovery
