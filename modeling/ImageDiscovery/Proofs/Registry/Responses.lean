import ImageDiscovery.Proofs.Outcome
import ImageDiscovery.Registry.Client

/-!
# What a client takes from responses

A client takes a response only if its status says that all went well, and a body only if it is
complete. Each of these steps gives what the response says, or fails in one way only, so that the
failure of a client tells which step it did not get over.

## Main results

* `Http.Response.status_ne_of_isSuccess` — a response that went well is no missing content.
* `RegistryClient.checkStatus_eq_ok_iff`, `RegistryClient.completeBody_eq_ok_iff`,
  `RegistryClient.bodyDocument_eq_ok_iff`, `RegistryClient.responseDocument_eq_ok_iff` — what the
  steps give.
* `RegistryClient.checkStatus_eq_error_iff`, `RegistryClient.responseDocument_eq_error_iff` — when
  they fail.
-/

namespace ImageDiscovery

open Document Http

variable {α : Type} {r r' : Response} {e : RegistryError}

theorem Http.Response.status_ne_of_isSuccess (h : r.isSuccess = true) : r.status ≠ 404 := by
  intro hstatus
  rw [isSuccess, hstatus] at h
  exact absurd h (by decide)

namespace RegistryClient

theorem checkStatus_eq_ok_iff : checkStatus r = .ok r' ↔ r.isSuccess = true ∧ r = r' := by
  unfold checkStatus
  split
  · next h => rw [Except.ok.injEq, and_iff_right h]
  · next h => exact iff_of_false nofun fun h' => h h'.1

theorem checkStatus_eq_error_iff :
    checkStatus r = .error e ↔ r.isSuccess = false ∧ .http r.status r.bodyText = e := by
  unfold checkStatus
  split
  · next h => exact iff_of_false nofun fun h' => Bool.false_ne_true (h'.1.symm.trans h)
  · next h => rw [Except.error.injEq, and_iff_right (Bool.eq_false_iff.2 h)]

theorem completeBody_eq_ok_iff {body : List UInt8} :
    completeBody r = .ok body ↔ r.complete = true ∧ r.body = body := by
  unfold completeBody
  split
  · next h => rw [Except.ok.injEq, and_iff_right h]
  · next h => exact iff_of_false nofun fun h' => h h'.1

variable {read : Reader α} {a : α}

theorem bodyDocument_eq_ok_iff {body : List UInt8} :
    bodyDocument read body = .ok a ↔ (bodyValue? body).bind read = some a := by
  unfold bodyDocument
  split
  · next h => rw [Except.ok.injEq, h, Option.some.injEq]
  · next h => exact iff_of_false nofun fun h' => nomatch h.symm.trans h'

theorem responseDocument_eq_ok_iff :
    responseDocument read r = .ok a ↔
      r.complete = true ∧ (bodyValue? r.body).bind read = some a := by
  unfold responseDocument completeBody
  split
  · next hcomplete =>
    rw [and_iff_right hcomplete]
    cases hread : (bodyValue? r.body).bind read with
    | none => simp [bind, Except.bind, hread]
    | some b => simp [bind, Except.bind, hread]
  · next hcomplete => simp [bind, Except.bind, hcomplete]

/-- A body that does not write the document fails as one that is cut off. -/
theorem responseDocument_eq_error_iff :
    responseDocument read r = .error e ↔
      (r.complete = true → (bodyValue? r.body).bind read = none) ∧ .incomplete = e := by
  unfold responseDocument completeBody
  split
  · next hcomplete =>
    rw [forall_prop_of_true hcomplete]
    cases hread : (bodyValue? r.body).bind read with
    | none => simp [bind, Except.bind, hread]
    | some b => simp [bind, Except.bind, hread]
  · next hcomplete => simp [bind, Except.bind, hcomplete]

end RegistryClient

end ImageDiscovery
