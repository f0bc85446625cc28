import AutoRouteGateway.Routing.BlastRadius
import AutoRouteGateway.Service.Traffic

/-!
Contract: what the service can ever have written.

From an empty store, whatever requests it serves and however they interleave,
each row is one of five shapes, at the scope of a candidate of the
configuration: a success or a missing model at provider and model scope, a
degradation with a deadline at provider scope, an exhaustion at credential
scope, a rate limit with a deadline at the candidate's full scope, and a
refused credential.

Owns: these shapes, and that nothing else is stored.
-/

namespace AutoRouteGateway.Service

open AutoRouteGateway.Config
open AutoRouteGateway.Domain
open AutoRouteGateway.Library
open AutoRouteGateway.Policy
open AutoRouteGateway.Routing
open AutoRouteGateway.Runtime
open AutoRouteGateway.State

section Shapes

variable (scheme : ScopeScheme) (candidate : RouteCandidate)

def HealthShape (key : scheme.HealthKey) (row : HealthObservation) : Prop :=
  (key = scheme.healthKey (providerModelSubject candidate) ∧
      (row = (.healthy, none) ∨ row = (.down, none))) ∨
    (key = scheme.healthKey (providerSubject candidate) ∧
      ∃ deadline, row = (.degraded, some deadline))

def QuotaShape (key : scheme.QuotaKey) (row : QuotaObservation) : Prop :=
  (key = scheme.quotaKey (credentialSubject candidate) ∧ row = (.exhausted, none)) ∨
    (key = scheme.quotaKey (subject candidate) ∧
      ∃ deadline, row = (.rateLimited, some deadline))

def CredentialShape (key : scheme.CredentialKey) (state : CredentialState) : Prop :=
  scheme.credentialKey (credentialSubject candidate) = some key ∧ state = .authError

end Shapes

section Writes

variable {scheme : ScopeScheme} {engine : FallbackEngine} {call : EngineCall}

theorem healthShape_of_healthWrite {key : scheme.HealthKey} {row : HealthObservation}
    (write : healthWrite scheme engine call = some (key, row)) :
    HealthShape scheme call.candidate key row := by
  cases call with
  | succeeded candidate =>
      cases write
      exact Or.inl ⟨rfl, Or.inl rfl⟩
  | failed now candidate failure =>
      simp only [healthWrite] at write
      split at write <;> cases write
      · exact Or.inl ⟨rfl, Or.inr rfl⟩
      · exact Or.inr ⟨rfl, _, rfl⟩
      · exact Or.inr ⟨rfl, _, rfl⟩

theorem quotaShape_of_quotaWrite {key : scheme.QuotaKey} {row : QuotaObservation}
    (write : quotaWrite scheme engine call = some (key, row)) :
    QuotaShape scheme call.candidate key row := by
  cases call with
  | succeeded candidate => cases write
  | failed now candidate failure =>
      simp only [quotaWrite] at write
      split at write <;> cases write
      · exact Or.inl ⟨rfl, rfl⟩
      · exact Or.inr ⟨rfl, _, rfl⟩

theorem credentialShape_of_credentialWrite {key : scheme.CredentialKey} {state : CredentialState}
    (write : credentialWrite scheme call = some (key, state)) :
    CredentialShape scheme call.candidate key state := by
  cases call with
  | succeeded candidate => cases write
  | failed now candidate failure =>
      simp only [credentialWrite] at write
      split at write
      · obtain ⟨own, isKey, same⟩ := Option.map_eq_some_iff.mp write
        cases same
        exact ⟨isKey, rfl⟩
      · cases write

end Writes

/-! ## Provider-wide rows -/

section ProviderWide

variable {kind : StoreKind} {candidate : RouteCandidate} {providerId : String}

/-- Only a row of the provider itself is at provider scope. -/
theorem deadline_of_healthShape (named : NamedApiCandidate candidate) {row : HealthObservation}
    (shape : HealthShape kind.scopedStore.scheme candidate
      (kind.scopedStore.scheme.healthKey { providerId := providerId }) row) :
    ∃ deadline, row = (.degraded, some deadline) := by
  rcases shape with ⟨sameKey, -⟩ | ⟨-, degraded⟩
  · let blank : Board kind.scopedStore.scheme := Board.blank
    have member := (StoreKind.readsHealth_self blank { providerId := providerId }).1
    rw [sameKey] at member
    obtain ⟨-, wider | own⟩ := StoreKind.healthKey_mem_healthChain member
    · exact absurd wider named.model
    · cases own
  · exact degraded

/-- No quota row is at provider scope. -/
theorem not_quotaShape (named : NamedApiCandidate candidate) {row : QuotaObservation} :
    ¬ QuotaShape kind.scopedStore.scheme candidate
      (kind.scopedStore.scheme.quotaKey { providerId := providerId }) row := by
  obtain ⟨id, isId, nonempty⟩ := named.credential
  have apart : ∀ written : StateSubject, written.credentialId = candidate.credentialId →
      kind.scopedStore.scheme.quotaKey { providerId := providerId } ≠
        kind.scopedStore.scheme.quotaKey written := by
    intro written isOwn sameKey
    let blank : Board kind.scopedStore.scheme := Board.blank
    have member := (StoreKind.readsQuota_self blank { providerId := providerId }).1
    rw [sameKey] at member
    obtain ⟨-, wider | own, -⟩ := StoreKind.quotaKey_mem_quotaChain member
    · rw [isOwn, isId] at wider
      exact nonempty wider
    · rw [isOwn, isId] at own
      cases own
  intro shape
  rcases shape with ⟨sameKey, -⟩ | ⟨sameKey, -⟩
  · exact apart (credentialSubject candidate) rfl sameKey
  · exact apart (subject candidate) rfl sameKey

end ProviderWide

/-- The request is one of the service's. -/
def ServedBy (kind : StoreKind) (service : GatewayService) (request : Request kind.Contents) :
    Prop :=
  ∃ payload counter, request.scored = fun s =>
    (scoredCandidates kind.store service request.info.virtualModel payload counter s).1

theorem ServedBy.isCandidate {kind : StoreKind} {service : GatewayService}
    {request : Request kind.Contents} (served : ServedBy kind service request)
    {candidate : RouteCandidate} (lists : request.Lists candidate) :
    IsCandidate service.config candidate := by
  obtain ⟨payload, counter, isScored⟩ := served
  obtain ⟨s, scored, found, listed⟩ := lists
  obtain ⟨sc, member, rfl⟩ := List.mem_map.mp listed
  rw [isScored] at found
  exact isCandidate_of_mem_scoredCandidates found member

section Traffic

variable {ρ : Type} (kind : StoreKind) (engine : FallbackEngine) (service : GatewayService)
  {ι : Type} [DecidableEq ι] (requests : ι → Request kind.Contents)
  (schedule : List (Move ι Question (Question.Answer ρ)))

/-- The store holds rows of these shapes only, each at a scope of a candidate
of the configuration. When every candidate is an api candidate whose model and
key have ids that are not empty, no provider as a whole is ever down, exhausted
or rate limited: it is degraded until a deadline, or it has no row. -/
theorem rows_of_traffic (served : ∀ i, ServedBy kind service (requests i)) :
    let board := kind.scopedStore.board
      ((requestPool (ρ := ρ) kind engine service requests kind.empty).run schedule).state
    let scheme := kind.scopedStore.scheme
    (∀ key row, board.health key = some row →
      ∃ candidate, IsCandidate service.config candidate ∧ HealthShape scheme candidate key row) ∧
    (∀ key row, board.quota key = some row →
      ∃ candidate, IsCandidate service.config candidate ∧ QuotaShape scheme candidate key row) ∧
    (∀ key state, board.credential key = some state →
      ∃ candidate, IsCandidate service.config candidate ∧
        CredentialShape scheme candidate key state) ∧
    ((∀ candidate, IsCandidate service.config candidate → NamedApiCandidate candidate) →
      ∀ providerId,
        board.quota (scheme.quotaKey { providerId := providerId }) = none ∧
          ∀ row, board.health (scheme.healthKey { providerId := providerId }) = some row →
            ∃ deadline, row = (.degraded, some deadline)) := by
  intro board scheme
  let calls := historyOf kind requests
    ((requestPool (ρ := ρ) kind engine service requests kind.empty).transcript schedule)
  have isBoard : board = kind.scopedStore.board (stateAfter kind.store engine calls kind.empty) :=
    board_of_traffic kind engine service requests kind.empty schedule
  have isCandidate : ∀ call ∈ calls, IsCandidate service.config call.candidate := by
    intro call member
    obtain ⟨i, lists⟩ := lists_of_mem_history kind engine service requests kind.empty schedule
      member
    exact (served i).isCandidate lists
  have health : ∀ key row, board.health key = some row →
      ∃ candidate, IsCandidate service.config candidate ∧
        HealthShape scheme candidate key row := by
    intro key row found
    rw [isBoard, healthRow_stateAfter_empty] at found
    obtain ⟨call, member, write⟩ := List.mem_filterMap.mp (mem_of_latest_eq_some found)
    exact ⟨call.candidate, isCandidate call member, healthShape_of_healthWrite write⟩
  have quota : ∀ key row, board.quota key = some row →
      ∃ candidate, IsCandidate service.config candidate ∧ QuotaShape scheme candidate key row := by
    intro key row found
    rw [isBoard, quotaRow_stateAfter_empty] at found
    obtain ⟨call, member, write⟩ := List.mem_filterMap.mp (mem_of_latest_eq_some found)
    exact ⟨call.candidate, isCandidate call member, quotaShape_of_quotaWrite write⟩
  have credential : ∀ key state, board.credential key = some state →
      ∃ candidate, IsCandidate service.config candidate ∧
        CredentialShape scheme candidate key state := by
    intro key state found
    rw [isBoard, credentialRow_stateAfter_empty] at found
    obtain ⟨call, member, write⟩ := List.mem_filterMap.mp (mem_of_latest_eq_some found)
    exact ⟨call.candidate, isCandidate call member, credentialShape_of_credentialWrite write⟩
  refine ⟨health, quota, credential, ?_⟩
  intro named providerId
  constructor
  · by_contra some
    obtain ⟨row, found⟩ := Option.ne_none_iff_exists'.mp some
    obtain ⟨candidate, own, shape⟩ := quota _ row found
    exact not_quotaShape (named candidate own) shape
  · intro row found
    obtain ⟨candidate, own, shape⟩ := health _ row found
    exact deadline_of_healthShape (named candidate own) shape

end Traffic

/-- The one refused key of two crossed requests has its row. -/
theorem row_of_refused_key :
    ∃ candidate, IsCandidate (keyedService "s").config candidate ∧
      CredentialShape StoreKind.inMemory.scopedStore.scheme candidate ("p", some "k")
        .authError := by
  have rows := rows_of_traffic .inMemory {} (keyedService "s") (fun _ : Bool => keyedRequest)
    crossedCalls fun _ => ⟨[], 0, rfl⟩
  exact rows.2.2.1 ("p", some "k") .authError (by decide +kernel)

end AutoRouteGateway.Service
