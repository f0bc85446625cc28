import AutoRouteGateway.Routing.Fallback
import AutoRouteGateway.State.Stores

/-!
Contract: the engine's store operations on boards.

Owns: eligibility as a question about the hold horizon, the board after each
engine call, and each dimension of a board after a history of calls as the
replay of the writes that history makes.

Every later result about cooldowns, exhaustion and blast radius reads an
implementation only through these equations.
-/

namespace AutoRouteGateway.Routing

open AutoRouteGateway.Domain
open AutoRouteGateway.Library
open AutoRouteGateway.Policy
open AutoRouteGateway.State

/-! ## Eligibility is not being held -/

section Eligibility

variable {σ : Type} {S : StateStore σ}

theorem blocks_healthHorizon {row : Option HealthObservation} {now : Instant} :
    Horizon.Blocks (healthHorizon row) now ↔
      (row.map Prod.fst).getD .unknown = .down ∨ ∃ d, row.bind Prod.snd = some d ∧ now < d := by
  rcases row with _ | ⟨state, deadline⟩
  · simp [healthHorizon]
  · cases state <;> simp [healthHorizon, Horizon.blocks_ofDeadline]

theorem blocks_quotaHorizon {row : Option QuotaObservation} {now : Instant} :
    Horizon.Blocks (quotaHorizon row) now ↔
      (row.map Prod.fst).getD .unknown = .exhausted ∨
        ∃ d, row.bind Prod.snd = some d ∧ now < d := by
  rcases row with _ | ⟨state, deadline⟩
  · simp [quotaHorizon]
  · cases state <;> simp [quotaHorizon, Horizon.blocks_ofDeadline]

theorem blocks_credentialHorizon {state : Option CredentialState} {now : Instant} :
    Horizon.Blocks (credentialHorizon state) now ↔
      state.getD .enabled = .disabled ∨ state.getD .enabled = .authError := by
  rcases state with _ | state
  · simp [credentialHorizon]
  · cases state <;> simp [credentialHorizon]

theorem exists_laterDeadline_iff {left right : Option Instant} {now : Instant} :
    (∃ d, laterDeadline left right = some d ∧ now < d) ↔
      (∃ d, left = some d ∧ now < d) ∨ ∃ d, right = some d ∧ now < d := by
  cases left <;> cases right <;> simp [laterDeadline]

/-- The four reads of the eligibility check, and what each one refuses. -/
theorem eligible_eq_false_iff_reads (now : Instant) (s : σ) (candidate : RouteCandidate) :
    eligible S now s candidate = false ↔
      S.getHealth s (subject candidate) = .down ∨
        S.getQuota s (subject candidate) = .exhausted ∨
        (S.getCredential s (subject candidate) = .disabled ∨
          S.getCredential s (subject candidate) = .authError) ∨
        ∃ d, S.getCooldown s (subject candidate) = some d ∧ now < d := by
  simp only [eligible]
  by_cases isDown : S.getHealth s (subject candidate) = .down
  · simp [isDown]
  · by_cases isExhausted : S.getQuota s (subject candidate) = .exhausted
    · simp [isDown, isExhausted]
    · by_cases isOut : S.getCredential s (subject candidate) = .disabled ∨
          S.getCredential s (subject candidate) = .authError
      · simp [isDown, isExhausted, isOut]
      · cases S.getCooldown s (subject candidate) <;> simp [isDown, isExhausted, isOut]

private theorem or_regroup {down exhausted out healthLate quotaLate : Prop} :
    down ∨ exhausted ∨ out ∨ healthLate ∨ quotaLate ↔
      ((down ∨ healthLate) ∨ exhausted ∨ quotaLate) ∨ out := by
  tauto

/-- The engine's eligibility check asks whether the hold has ended. -/
theorem eligible_eq_false_iff (store : ScopedStore S) (now : Instant) (s : σ)
    (candidate : RouteCandidate) :
    eligible S now s candidate = false ↔
      Horizon.Blocks ((store.board s).hold (subject candidate)) now := by
  rw [eligible_eq_false_iff_reads, store.getHealth_eq, store.getQuota_eq,
    store.getCredential_eq, store.getCooldown_eq, exists_laterDeadline_iff, or_regroup,
    Board.hold, Horizon.blocks_sup, Horizon.blocks_sup, blocks_healthHorizon,
    blocks_quotaHorizon, blocks_credentialHorizon]

end Eligibility

/-! ## Engine calls on boards -/

section Calls

variable {scheme : ScopeScheme}

/-- The deadline a provider-wide failure writes. -/
def providerDeadline (engine : FallbackEngine) (now : Instant) : ErrorClass → Instant
  | .network => cooldown now engine.networkCooldown 0
  | _ => cooldown now engine.serverCooldown 0

/-- The deadline a rate limit writes. -/
def rateLimitDeadline (engine : FallbackEngine) (now : Instant) (failure : CandidateFailure) :
    Instant :=
  cooldown now engine.rateLimitCooldown (failure.retryAfterSeconds.getD 0)

def boardFailure (engine : FallbackEngine) (now : Instant) (candidate : RouteCandidate)
    (failure : CandidateFailure) (board : Board scheme) : Board scheme :=
  match failure.errorClass with
  | .auth => board.postCredential (credentialSubject candidate) .authError
  | .quota => board.postQuota (credentialSubject candidate) (.exhausted, none)
  | .rateLimit =>
      board.postQuota (subject candidate)
        (.rateLimited, some (rateLimitDeadline engine now failure))
  | .modelNotFound => board.postHealth (providerModelSubject candidate) (.down, none)
  | .network =>
      board.postHealth (providerSubject candidate)
        (.degraded, some (providerDeadline engine now .network))
  | .server =>
      board.postHealth (providerSubject candidate)
        (.degraded, some (providerDeadline engine now .server))
  | .tokenLimit => board
  | .unknown => board

def boardSuccess (candidate : RouteCandidate) (board : Board scheme) : Board scheme :=
  board.postHealth (providerModelSubject candidate) (.healthy, none)

variable {σ : Type} {S : StateStore σ}

theorem board_applyFailure (store : ScopedStore S) (engine : FallbackEngine) (now : Instant)
    (candidate : RouteCandidate) (failure : CandidateFailure) (s : σ) :
    store.board (applyFailure S engine now candidate failure s).state =
      boardFailure engine now candidate failure (store.board s) := by
  unfold applyFailure boardFailure
  cases failure.errorClass with
  | auth => exact store.setCredential_board _ _ _ _
  | quota => exact store.setQuota_board _ _ _ _ _
  | rateLimit => exact store.setQuota_board _ _ _ _ _
  | modelNotFound => exact store.setHealth_board _ _ _ _ _
  | network => exact store.setHealth_board _ _ _ _ _
  | server => exact store.setHealth_board _ _ _ _ _
  | tokenLimit => rfl
  | unknown => rfl

theorem board_applySuccess (store : ScopedStore S) (candidate : RouteCandidate) (s : σ) :
    store.board (applySuccess S candidate s).state = boardSuccess candidate (store.board s) :=
  store.setHealth_board _ _ _ _ _

theorem board_run (store : ScopedStore S) (engine : FallbackEngine) (s : σ)
    (call : EngineCall) :
    store.board (call.run S engine s).state =
      match call with
      | .succeeded candidate => boardSuccess candidate (store.board s)
      | .failed now candidate failure =>
          boardFailure engine now candidate failure (store.board s) := by
  cases call with
  | succeeded candidate => exact board_applySuccess store candidate s
  | failed now candidate failure => exact board_applyFailure store engine now candidate failure s

end Calls

/-! ## Histories as writes -/

section Histories

/-- The health row an engine call writes. -/
def healthWrite (scheme : ScopeScheme) (engine : FallbackEngine) :
    EngineCall → Option (scheme.HealthKey × HealthObservation)
  | .succeeded candidate =>
      some (scheme.healthKey (providerModelSubject candidate), (.healthy, none))
  | .failed now candidate failure =>
      match failure.errorClass with
      | .modelNotFound => some (scheme.healthKey (providerModelSubject candidate), (.down, none))
      | .network =>
          some (scheme.healthKey (providerSubject candidate),
            (.degraded, some (providerDeadline engine now .network)))
      | .server =>
          some (scheme.healthKey (providerSubject candidate),
            (.degraded, some (providerDeadline engine now .server)))
      | _ => none

/-- The quota row an engine call writes. -/
def quotaWrite (scheme : ScopeScheme) (engine : FallbackEngine) :
    EngineCall → Option (scheme.QuotaKey × QuotaObservation)
  | .succeeded _ => none
  | .failed now candidate failure =>
      match failure.errorClass with
      | .quota => some (scheme.quotaKey (credentialSubject candidate), (.exhausted, none))
      | .rateLimit =>
          some (scheme.quotaKey (subject candidate),
            (.rateLimited, some (rateLimitDeadline engine now failure)))
      | _ => none

/-- The credential row an engine call writes, when it can be written. -/
def credentialWrite (scheme : ScopeScheme) :
    EngineCall → Option (scheme.CredentialKey × CredentialState)
  | .succeeded _ => none
  | .failed _ candidate failure =>
      match failure.errorClass with
      | .auth => (scheme.credentialKey (credentialSubject candidate)).map (·, .authError)
      | _ => none

variable {σ : Type} {S : StateStore σ}

/-- The health rows after a history are its health writes, replayed. -/
theorem health_stateAfter (store : ScopedStore S) (engine : FallbackEngine)
    (calls : List EngineCall) (start : σ) :
    (store.board (stateAfter S engine calls start)).health =
      replay (calls.filterMap (healthWrite store.scheme engine)) (store.board start).health := by
  apply rows_foldl _ fun s => (store.board s).health
  intro s call
  rw [board_run]
  cases call with
  | succeeded candidate => rfl
  | failed now candidate failure =>
      cases errorClass : failure.errorClass with
      | auth =>
          simp only [boardFailure, healthWrite, errorClass, Board.health_postCredential]
          rfl
      | _ =>
          simp only [boardFailure, healthWrite, errorClass]
          rfl

/-- The quota rows after a history are its quota writes, replayed. -/
theorem quota_stateAfter (store : ScopedStore S) (engine : FallbackEngine)
    (calls : List EngineCall) (start : σ) :
    (store.board (stateAfter S engine calls start)).quota =
      replay (calls.filterMap (quotaWrite store.scheme engine)) (store.board start).quota := by
  apply rows_foldl _ fun s => (store.board s).quota
  intro s call
  rw [board_run]
  cases call with
  | succeeded candidate => rfl
  | failed now candidate failure =>
      cases errorClass : failure.errorClass with
      | auth =>
          simp only [boardFailure, quotaWrite, errorClass, Board.quota_postCredential]
          rfl
      | _ =>
          simp only [boardFailure, quotaWrite, errorClass]
          rfl

/-- The credential rows after a history are its credential writes, replayed. -/
theorem credential_stateAfter (store : ScopedStore S) (engine : FallbackEngine)
    (calls : List EngineCall) (start : σ) :
    (store.board (stateAfter S engine calls start)).credential =
      replay (calls.filterMap (credentialWrite store.scheme))
        (store.board start).credential := by
  apply rows_foldl _ fun s => (store.board s).credential
  intro s call
  rw [board_run]
  cases call with
  | succeeded candidate => rfl
  | failed now candidate failure =>
      cases errorClass : failure.errorClass with
      | auth =>
          simp only [boardFailure, credentialWrite, errorClass, Board.postCredential]
          cases store.scheme.credentialKey (credentialSubject candidate) <;> rfl
      | _ =>
          simp only [boardFailure, credentialWrite, errorClass]
          rfl

section FromEmpty

variable (kind : StoreKind) (engine : FallbackEngine) (calls : List EngineCall)

/-- From an empty store, the health row of a scope is the last one written there. -/
theorem healthRow_stateAfter_empty :
    (kind.scopedStore.board (stateAfter kind.store engine calls kind.empty)).health =
      latest (calls.filterMap (healthWrite kind.scopedStore.scheme engine)) := by
  rw [health_stateAfter, StoreKind.board_empty]
  exact replay_blank _

/-- From an empty store, the quota row of a scope is the last one written there. -/
theorem quotaRow_stateAfter_empty :
    (kind.scopedStore.board (stateAfter kind.store engine calls kind.empty)).quota =
      latest (calls.filterMap (quotaWrite kind.scopedStore.scheme engine)) := by
  rw [quota_stateAfter, StoreKind.board_empty]
  exact replay_blank _

/-- From an empty store, the credential row is the last one written. -/
theorem credentialRow_stateAfter_empty :
    (kind.scopedStore.board (stateAfter kind.store engine calls kind.empty)).credential =
      latest (calls.filterMap (credentialWrite kind.scopedStore.scheme)) := by
  rw [credential_stateAfter, StoreKind.board_empty]
  exact replay_blank _

end FromEmpty

end Histories

end AutoRouteGateway.Routing
