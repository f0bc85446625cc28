import AutoRouteGateway.Routing.BlastRadius

/-!
Contract: when a provider-wide cooldown takes effect.

A network or server failure writes the provider row. Health is read most
specific first, and a success or a missing model leaves a row at provider and
model scope, so the provider row is visible to a candidate only while nothing
has been observed for its model.

Owns: the exact condition under which the cooldown covers a candidate.

Does not own: the rest of the failure's effect, which is `Routing.BlastRadius`.
-/

namespace AutoRouteGateway.Routing

open AutoRouteGateway.Domain
open AutoRouteGateway.Library
open AutoRouteGateway.Policy
open AutoRouteGateway.State

/-- The cooldown configured for a provider-wide class. -/
def providerCooldown (engine : FallbackEngine) : ErrorClass → Duration
  | .network => engine.networkCooldown
  | _ => engine.serverCooldown

/-- The call records an observation at the candidate's provider and model. -/
def EngineCall.ObservesModel (other : RouteCandidate) : EngineCall → Prop
  | .succeeded candidate => SameModel candidate other
  | .failed _ candidate failure =>
      failure.errorClass = .modelNotFound ∧ SameModel candidate other

/-- SQLite stores the observations of an empty model id in the provider row. -/
def ModelRowIsProviderRow (kind : StoreKind) (candidate : RouteCandidate) : Prop :=
  kind = .sqlite ∧ candidate.concreteModel.modelId = ""

/-- No row at the candidate's provider and model hides the provider row. -/
def ModelUnobserved (kind : StoreKind) (calls : List EngineCall)
    (candidate : RouteCandidate) : Prop :=
  ModelRowIsProviderRow kind candidate ∨ ∀ call ∈ calls, ¬ call.ObservesModel candidate

/-! ## The scopes read before the provider's -/

section Hidden

variable {kind : StoreKind} {written reader : RouteCandidate}

/-- The scopes a reader consults before its provider row. -/
def modelScopes (kind : StoreKind) (reader : RouteCandidate) :
    List kind.scopedStore.scheme.HealthKey :=
  moreSpecific (kind.scopedStore.scheme.healthChain (subject reader))
    (kind.scopedStore.scheme.healthKey (providerSubject reader))

theorem providerModelKey_mem_modelScopes :
    kind.scopedStore.scheme.healthKey (providerModelSubject written) ∈ modelScopes kind reader ↔
      SameModel written reader ∧ ¬ ModelRowIsProviderRow kind reader := by
  obtain ⟨provider, credential, ⟨model, _, _⟩, _, _, _, _⟩ := reader
  obtain ⟨provider', credential', ⟨model', _, _⟩, _, _, _, _⟩ := written
  cases kind with
  | inMemory =>
      change ((provider', none, some model') : ScopeTuple) ∈
        List.takeWhile (· ≠ ((provider, none, none) : ScopeTuple))
          [(provider, credential, some model), (provider, none, some model),
            (provider, credential, none), (provider, none, none)] ↔ _
      cases credential <;>
        simp [List.takeWhile, SameModel, SameProvider, ModelRowIsProviderRow]
  | sqlite =>
      change ((provider', model') : String × String) ∈
        List.takeWhile (· ≠ ((provider, "") : String × String))
          [(provider, model), (provider, "")] ↔ _
      by_cases empty : model = ""
      · simp [empty, ModelRowIsProviderRow]
      · simp [empty, List.takeWhile, SameModel, SameProvider, ModelRowIsProviderRow]

theorem providerKey_notMem_modelScopes :
    kind.scopedStore.scheme.healthKey (providerSubject written) ∉ modelScopes kind reader := by
  intro member
  have onChain := (List.takeWhile_subset _) member
  have sameProvider : written.providerId = reader.providerId :=
    (StoreKind.healthKey_mem_healthChain onChain).1
  have sameKey : providerSubject written = providerSubject reader := by
    simp [providerSubject, sameProvider]
  rw [sameKey] at member
  exact notMem_moreSpecific _ _ member

/-- After a history, the provider row is hidden exactly when the model was observed. -/
theorem modelScopes_unwritten_iff (engine : FallbackEngine) (calls : List EngineCall) :
    firstHit (kind.scopedStore.board (stateAfter kind.store engine calls kind.empty)).health
        (modelScopes kind reader) = none ↔
      ModelUnobserved kind calls reader := by
  rw [firstHit_eq_none_iff, healthRow_stateAfter_empty]
  constructor
  · intro unwritten
    by_cases merged : ModelRowIsProviderRow kind reader
    · exact Or.inl merged
    · right
      intro call member observes
      have absent : ∀ written : RouteCandidate, ∀ row,
          SameModel written reader →
            healthWrite kind.scopedStore.scheme engine call ≠
              some (kind.scopedStore.scheme.healthKey (providerModelSubject written), row) := by
        intro written row same writes
        have onScopes := providerModelKey_mem_modelScopes.mpr ⟨same, merged⟩
        have noWrite := latest_eq_none_iff.mp (unwritten _ onScopes)
        exact noWrite _ (List.mem_filterMap.mpr ⟨call, member, writes⟩) rfl
      cases call with
      | succeeded candidate => exact absent candidate _ observes rfl
      | failed now candidate failure =>
          obtain ⟨missing, same⟩ := observes
          exact absent candidate (.down, none) same (by simp only [healthWrite, missing])
  · intro unobserved scope onScopes
    apply latest_eq_none_iff.mpr
    intro write member equal
    obtain ⟨call, inCalls, writes⟩ := List.mem_filterMap.mp member
    rw [← equal] at onScopes
    have observed : ∀ written : RouteCandidate, write.1 =
        kind.scopedStore.scheme.healthKey (providerModelSubject written) →
          SameModel written reader ∧ ¬ ModelRowIsProviderRow kind reader := by
      intro written key
      exact providerModelKey_mem_modelScopes.mp (key ▸ onScopes)
    have wide : ∀ written : RouteCandidate, write.1 ≠
        kind.scopedStore.scheme.healthKey (providerSubject written) := by
      intro written key
      exact providerKey_notMem_modelScopes (key ▸ onScopes)
    cases call with
    | succeeded candidate =>
        cases writes
        obtain ⟨same, separate⟩ := observed candidate rfl
        exact (unobserved.resolve_left separate) _ inCalls same
    | failed now candidate failure =>
        cases errorClass : failure.errorClass <;>
          simp only [healthWrite, errorClass, reduceCtorEq] at writes <;> cases writes
        · obtain ⟨same, separate⟩ := observed candidate rfl
          exact (unobserved.resolve_left separate) _ inCalls ⟨errorClass, same⟩
        · exact wide candidate rfl
        · exact wide candidate rfl

end Hidden

/-! ## The cooldown window -/

section Window

variable {kind : StoreKind} {failed other : RouteCandidate}
  {board : Board kind.scopedStore.scheme}

theorem boardFailure_providerWide {engine : FallbackEngine} {now : Instant}
    {failure : CandidateFailure}
    (providerWide : failure.errorClass = .network ∨ failure.errorClass = .server) :
    boardFailure engine now failed failure board =
      board.postHealth (providerSubject failed)
        (.degraded, some (now + providerCooldown engine failure.errorClass)) := by
  rcases providerWide with network | server
  · simp only [boardFailure, network, providerCooldown, providerDeadline, cooldown, Int.add_zero]
  · simp only [boardFailure, server, providerCooldown, providerDeadline, cooldown, Int.add_zero]

/-- What a candidate of the provider sees after the provider row is written. -/
theorem seenHealth_postProvider (provider : SameProvider failed other)
    (row : HealthObservation) :
    (board.postHealth (providerSubject failed) row).seenHealth (subject other) =
      (firstHit board.health (modelScopes kind other)).or (some row) := by
  have sameKey : providerSubject failed = providerSubject other := by
    simp only [providerSubject, show failed.providerId = other.providerId from provider]
  rw [sameKey]
  apply Board.seenHealth_postHealth
  cases kind with
  | inMemory => exact List.mem_of_getLast? rfl
  | sqlite => exact List.mem_of_getLast? rfl

end Window

/-- After a network or server failure, a candidate of the provider is out of
service for the whole cooldown exactly when its model was unobserved or it was
already out for that long. -/
theorem provider_cooldown_covers_iff (kind : StoreKind) (engine : FallbackEngine)
    (calls : List EngineCall) (candidate other : RouteCandidate) (failure : CandidateFailure)
    (now : Instant) (provider : SameProvider candidate other)
    (providerWide : failure.errorClass = .network ∨ failure.errorClass = .server) :
    (∀ time, now ≤ time → time < now + providerCooldown engine failure.errorClass →
        eligible kind.store time
          (applyFailure kind.store engine now candidate failure
            (stateAfter kind.store engine calls kind.empty)).state other = false) ↔
      ModelUnobserved kind calls other ∨
        ∀ time, now ≤ time → time < now + providerCooldown engine failure.errorClass →
          eligible kind.store time (stateAfter kind.store engine calls kind.empty) other =
            false := by
  have after := board_applyFailure kind.scopedStore engine now candidate failure
    (stateAfter kind.store engine calls kind.empty)
  rw [boardFailure_providerWide providerWide] at after
  rw [← modelScopes_unwritten_iff engine calls]
  cases hidden : firstHit (kind.scopedStore.board
      (stateAfter kind.store engine calls kind.empty)).health (modelScopes kind other) with
  | none =>
      refine ⟨fun _ => Or.inl rfl, fun _ time _ early => ?_⟩
      rw [eligible_eq_false_iff kind.scopedStore, after]
      unfold Board.hold
      rw [seenHealth_postProvider provider, hidden, Option.none_or, Horizon.blocks_sup,
        Horizon.blocks_sup]
      exact Or.inl (Or.inl (Horizon.blocks_upTo.mpr early))
  | some row =>
      have unchanged : ∀ time, eligible kind.store time
          (applyFailure kind.store engine now candidate failure
            (stateAfter kind.store engine calls kind.empty)).state other =
          eligible kind.store time (stateAfter kind.store engine calls kind.empty) other := by
        intro time
        apply eligible_congr kind.scopedStore
        rw [after]
        unfold Board.hold
        rw [seenHealth_postProvider provider, hidden, Option.some_or,
          Board.seenQuota_postHealth, Board.seenCredential_postHealth]
        unfold Board.seenHealth
        rw [firstHit_of_moreSpecific hidden]
      simp only [unchanged, reduceCtorEq, false_or]

/-- A first failure of a provider covers a sibling key almost to its end. -/
theorem provider_cooldown_covers_iff_first_failure :
    eligible StoreKind.sqlite.store (29 * second)
      (applyFailure StoreKind.sqlite.store {} 0
        ⟨"p", some "k1", ⟨"m", "p", ∅⟩, ∅, .api, 100, false⟩ { errorClass := .server }
        (stateAfter StoreKind.sqlite.store {} [] StoreKind.sqlite.empty)).state
      ⟨"p", some "k2", ⟨"m", "p", ∅⟩, ∅, .api, 100, false⟩ = false :=
  (provider_cooldown_covers_iff .sqlite {} []
    ⟨"p", some "k1", ⟨"m", "p", ∅⟩, ∅, .api, 100, false⟩
    ⟨"p", some "k2", ⟨"m", "p", ∅⟩, ∅, .api, 100, false⟩ { errorClass := .server } 0 rfl
    (Or.inr rfl)).mpr (Or.inl (Or.inr (by simp))) (29 * second) (by decide) (by decide)

/-- One earlier success hides the cooldown, in both stores: right after a
server failure the failed candidate itself is eligible. -/
theorem provider_cooldown_hidden_by_success :
    providerCooldown {} .server = 30 * second ∧
      eligible StoreKind.inMemory.store 0
        (applyFailure StoreKind.inMemory.store {} 0
          ⟨"p", some "k", ⟨"m", "p", ∅⟩, ∅, .api, 100, false⟩ { errorClass := .server }
          (stateAfter StoreKind.inMemory.store {}
            [.succeeded ⟨"p", some "k", ⟨"m", "p", ∅⟩, ∅, .api, 100, false⟩]
            StoreKind.inMemory.empty)).state
        ⟨"p", some "k", ⟨"m", "p", ∅⟩, ∅, .api, 100, false⟩ = true ∧
      eligible StoreKind.sqlite.store 0
        (applyFailure StoreKind.sqlite.store {} 0
          ⟨"p", some "k", ⟨"m", "p", ∅⟩, ∅, .api, 100, false⟩ { errorClass := .server }
          (stateAfter StoreKind.sqlite.store {}
            [.succeeded ⟨"p", some "k", ⟨"m", "p", ∅⟩, ∅, .api, 100, false⟩]
            StoreKind.sqlite.empty)).state
        ⟨"p", some "k", ⟨"m", "p", ∅⟩, ∅, .api, 100, false⟩ = true := by
  decide

end AutoRouteGateway.Routing
