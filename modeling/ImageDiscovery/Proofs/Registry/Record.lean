import ImageDiscovery.Registry.Client

/-!
# Records of exchanges

To say which requests a client makes, its transport is replaced by one that also puts each exchange
at the end of a record. A client over such a transport does what the original one does: it comes to
the same results, keeps the same token and leaves the world in the same state, whatever was in the
record before. What it adds to the record are the requests as it sends them, each with the answer
that comes back; the redirects on the way to the answer are the transport's business.

## Main definitions

* `Http.Exchange`, `Http.Transport.recorded` — exchanges, and a transport that records them.
* `RegistryClient.recorded` — a client with a record of its exchanges.
* `Makes` — a computation of a client, its result, and the exchanges that it makes.

## Main results

* `makes_pure`, `Makes.bind_ok`, `Makes.bind_error` — exchanges of composed computations.
* `RegistryClient.makes_exchange` — an exchange is recorded.
-/

namespace ImageDiscovery

open Http

/-- A request and what came back. -/
structure Http.Exchange where
  request : Request
  answer : Except Failure Response

/-- The transport that puts each exchange at the end of a record. -/
def Http.Transport.recorded {m : Type → Type} [Monad m] (t : Transport m) :
    Transport (StateT (List Exchange) m) where
  exchange q := do
    let answer ← t.exchange q
    modify (· ++ [⟨q, answer⟩])
    return answer

/-- The client with a record of its exchanges. -/
def RegistryClient.recorded {m : Type → Type} [Monad m] (c : RegistryClient m) :
    RegistryClient (StateT (List Exchange) m) :=
  ⟨c.config, c.transport.recorded⟩

@[simp] theorem RegistryClient.recorded_config {m : Type → Type} [Monad m] (c : RegistryClient m) :
    c.recorded.config = c.config := rfl

variable {σ α β : Type}

/-- From a token of the client and a state of the world, the computation ends with a result, a token
and a state of the world. Its counterpart does so too, and adds the exchanges to the record. -/
structure Makes (a : StateT (Option String) (StateM σ) α)
    (a' : StateT (Option String) (StateT (List Exchange) (StateM σ)) α) (s : Option String × σ)
    (exchanges : List Exchange) (r : α) (s' : Option String × σ) : Prop where
  run_eq : ((a.run s.1).run s.2).run = ((r, s'.1), s'.2)
  run_recorded_eq : ∀ before, (((a'.run s.1).run before).run s.2).run =
    (((r, s'.1), before ++ exchanges), s'.2)

theorem makes_pure (r : α) (s : Option String × σ) : Makes (pure r) (pure r) s [] r s := by
  refine ⟨rfl, fun before => ?_⟩
  rw [List.append_nil]
  rfl

namespace Makes

variable {a : StateT (Option String) (StateM σ) α}
  {a' : StateT (Option String) (StateT (List Exchange) (StateM σ)) α}
  {s s₁ s₂ : Option String × σ} {es es' : List Exchange} {r : α} {r' : β}

theorem bind {f : α → StateT (Option String) (StateM σ) β}
    {f' : α → StateT (Option String) (StateT (List Exchange) (StateM σ)) β}
    (h : Makes a a' s es r s₁) (hf : Makes (f r) (f' r) s₁ es' r' s₂) :
    Makes (a >>= f) (a' >>= f') s (es ++ es') r' s₂ := by
  refine ⟨?_, fun before => ?_⟩
  · rw [StateT.run_bind, StateT.run_bind, Id.run_bind, h.run_eq]
    exact hf.run_eq
  · rw [StateT.run_bind, StateT.run_bind, StateT.run_bind, Id.run_bind, h.run_recorded_eq before,
      ← List.append_assoc]
    exact hf.run_recorded_eq (before ++ es)

end Makes

/-! ### Computations that may fail -/

section

/-- A result that is at hand needs no exchange. -/
theorem makes_liftM (r : Except RegistryError α) (s : Option String × σ) :
    Makes (liftM r : ClientM (StateM σ) α).run (liftM r : ClientM _ α).run s [] r s :=
  makes_pure r s

theorem makes_throw (e : RegistryError) (s : Option String × σ) :
    Makes (throw e : ClientM (StateM σ) α).run (throw e : ClientM _ α).run s [] (.error e) s :=
  makes_pure (Except.error e) s

/-- The client looks at its token. -/
theorem makes_get (s : Option String × σ) :
    Makes (get : ClientM (StateM σ) _).run (get : ClientM _ _).run s [] (.ok s.1) s := by
  refine ⟨rfl, fun before => ?_⟩
  rw [List.append_nil]
  rfl

/-- The client takes a new token. -/
theorem makes_set (token : Option String) (s : Option String × σ) :
    Makes (set token : ClientM (StateM σ) _).run (set token : ClientM _ _).run s []
      (.ok ⟨⟩) (token, s.2) := by
  refine ⟨rfl, fun before => ?_⟩
  rw [List.append_nil]
  rfl

variable {a : ClientM (StateM σ) α} {a' : ClientM (StateT (List Exchange) (StateM σ)) α}
  {f : α → ClientM (StateM σ) β} {f' : α → ClientM (StateT (List Exchange) (StateM σ)) β}
  {s s₁ s₂ : Option String × σ} {es es' : List Exchange} {r : α} {r' : Except RegistryError β}
  {e : RegistryError}

theorem Makes.bind_ok (h : Makes a.run a'.run s es (.ok r) s₁)
    (hf : Makes (f r).run (f' r).run s₁ es' r' s₂) :
    Makes (a >>= f).run (a' >>= f').run s (es ++ es') r' s₂ := by
  rw [ExceptT.run_bind, ExceptT.run_bind]
  exact h.bind hf

/-- What comes after a computation that exchanges nothing. -/
theorem Makes.bind_quiet (h : Makes a.run a'.run s [] (.ok r) s₁)
    (hf : Makes (f r).run (f' r).run s₁ es r' s₂) :
    Makes (a >>= f).run (a' >>= f').run s es r' s₂ :=
  h.bind_ok hf

/-- What comes before a computation that exchanges nothing. -/
theorem Makes.bind_rest (h : Makes a.run a'.run s es (.ok r) s₁)
    (hf : Makes (f r).run (f' r).run s₁ [] r' s₂) :
    Makes (a >>= f).run (a' >>= f').run s es r' s₂ := by
  rw [← List.append_nil es]
  exact h.bind_ok hf

/-- Nothing is exchanged after a failure. -/
theorem Makes.bind_error (h : Makes a.run a'.run s es (.error e) s₁) :
    Makes (a >>= f).run (a' >>= f').run s es (.error e) s₁ := by
  rw [ExceptT.run_bind, ExceptT.run_bind, ← List.append_nil es]
  exact h.bind (makes_pure (Except.error e) s₁)

end

/-! ### Exchanges -/

namespace RegistryClient

variable (c : RegistryClient (StateM σ)) (q : Request) (s : Option String × σ)

/-- What the transport does is recorded. -/
theorem makes_transport :
    ∃ answer y, Makes (liftM (c.transport.exchange q) : ClientM _ _).run
      (liftM (c.recorded.transport.exchange q) : ClientM _ _).run s [⟨q, answer⟩] (.ok answer)
      (s.1, y) := by
  rcases hanswer : ((c.transport.exchange q).run s.2).run with ⟨answer, y⟩
  refine ⟨answer, y, ?_, fun before => ?_⟩
  · change (let (answer, y) := ((c.transport.exchange q).run s.2).run
      ((Except.ok answer, s.1), y)) = _
    rw [hanswer]
  · change (let (answer, y) := ((c.transport.exchange q).run s.2).run
      (((Except.ok answer, s.1), before ++ [Exchange.mk q answer]), y)) = _
    rw [hanswer]

/-- An exchange of the client is recorded. -/
theorem makes_exchange :
    ∃ answer y, Makes (c.exchange q).run (c.recorded.exchange q).run s [⟨q, answer⟩]
      (answer.mapError failure) (s.1, y) := by
  obtain ⟨answer, y, h⟩ := c.makes_transport q s
  refine ⟨answer, y, ?_⟩
  cases answer with
  | ok r => exact h.bind_ok (makes_pure (Except.ok r) (s.1, y))
  | error f => exact h.bind_ok (makes_pure (Except.error (failure f)) (s.1, y))

end RegistryClient

end ImageDiscovery
