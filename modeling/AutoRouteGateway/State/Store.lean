import AutoRouteGateway.Domain.State
import AutoRouteGateway.Policy.ErrorClass

/-!
Contract: what the routing layer needs from the state layer.

Owns: the store protocol as a record of operations over a state type, the
outcome of a write that may raise, and the shape of a route event.

A write that raises still returns the state it leaves behind, since a store may
fail at any call and be used again afterwards. `latency_ms` is left out of
route events: it is read from a real clock and nothing consults it.
-/

namespace AutoRouteGateway.State

open AutoRouteGateway.Domain
open AutoRouteGateway.Policy

/-- An exception raised by a store operation, with its text. -/
structure StoreError where
  message : String
deriving DecidableEq, Repr

/-- The outcome of a write. -/
inductive StoreResult (σ : Type) where
  | done (state : σ)
  | raised (error : StoreError) (state : σ)
deriving DecidableEq, Repr

/-- The state a write leaves behind. -/
def StoreResult.state {σ : Type} : StoreResult σ → σ
  | .done state => state
  | .raised _ state => state

@[simp] theorem StoreResult.state_done {σ : Type} (state : σ) :
    (StoreResult.done state).state = state := rfl

inductive EventAction where
  | success
  | retrySameCandidate
  | nextCandidate
  | stop
  | stopCommittedStream
  | partialStreamFailure
deriving DecidableEq, Repr

def EventAction.value : EventAction → String
  | .success => "success"
  | .retrySameCandidate => "retry_same_candidate"
  | .nextCandidate => "next_candidate"
  | .stop => "stop"
  | .stopCommittedStream => "stop_committed_stream"
  | .partialStreamFailure => "partial_stream_failure"

/-- One observed attempt of a request. -/
structure RouteEvent where
  requestId : String
  virtualModel : String
  attempt : Nat
  providerId : String
  credentialId : Option String
  model : String
  errorClass : Option ErrorClass
  action : EventAction
deriving DecidableEq, Repr

/-- The store protocol over states `σ`. Reads do not raise. -/
structure StateStore (σ : Type) where
  getHealth : σ → StateSubject → HealthState
  setHealth : StateSubject → HealthState → (reason : String) →
    (cooldownUntil : Option Instant) → σ → StoreResult σ
  getQuota : σ → StateSubject → QuotaState
  setQuota : StateSubject → QuotaState → (reason : String) →
    (cooldownUntil : Option Instant) → σ → StoreResult σ
  getCredential : σ → StateSubject → CredentialState
  setCredential : StateSubject → CredentialState → (reason : String) → σ → StoreResult σ
  getCooldown : σ → StateSubject → Option Instant
  recordRouteEvent : RouteEvent → σ → StoreResult σ

/-- The later of the deadlines present. -/
def laterDeadline : Option Instant → Option Instant → Option Instant
  | some left, some right => some (max left right)
  | some left, none => some left
  | none, right => right

theorem laterDeadline_eq_some {left right : Option Instant} {deadline : Instant}
    (later : laterDeadline left right = some deadline) :
    left = some deadline ∨ right = some deadline := by
  cases left with
  | none => exact Or.inr later
  | some left =>
      cases right with
      | none => exact Or.inl later
      | some right =>
          rcases Int.le_total left right with before | after
          · rw [laterDeadline, Int.max_eq_right before] at later
            exact Or.inr later
          · rw [laterDeadline, Int.max_eq_left after] at later
            exact Or.inl later

end AutoRouteGateway.State
