import AutoRouteGateway.Routing.EngineBoard

/-!
Contract: the blast radius of a failure.

Owns: the scope of each error class, and the frame theorem that a failure or a
success leaves the eligibility of every candidate outside its scope unchanged,
in both stores and from every state.
-/

namespace AutoRouteGateway.Routing

open AutoRouteGateway.Domain
open AutoRouteGateway.Library
open AutoRouteGateway.Policy
open AutoRouteGateway.State

def SameProvider (left right : RouteCandidate) : Prop :=
  left.providerId = right.providerId

def SameCredential (left right : RouteCandidate) : Prop :=
  SameProvider left right ∧ left.credentialId = right.credentialId

def SameModel (left right : RouteCandidate) : Prop :=
  SameProvider left right ∧ left.concreteModel.modelId = right.concreteModel.modelId

/-- The candidates a failure of the class on `failed` may affect. -/
def InScope (errorClass : ErrorClass) (failed other : RouteCandidate) : Prop :=
  match errorClass with
  | .auth | .quota => SameCredential failed other
  | .rateLimit => SameCredential failed other ∧ SameModel failed other
  | .modelNotFound => SameModel failed other
  | .network | .server => SameProvider failed other
  | .tokenLimit | .unknown => False

/-- An api candidate whose credential and model ids are non-empty strings. -/
structure NamedApiCandidate (candidate : RouteCandidate) : Prop where
  api : candidate.executorType = .api
  credential : ∃ id, candidate.credentialId = some id ∧ id ≠ ""
  model : candidate.concreteModel.modelId ≠ ""

theorem NamedApiCandidate.scopeKey_credential_ne {candidate : RouteCandidate}
    (named : NamedApiCandidate candidate) : scopeKey candidate.credentialId ≠ "" := by
  obtain ⟨id, isId, nonempty⟩ := named.credential
  rw [isId]
  exact nonempty

section Frame

variable {kind : StoreKind} {failed other : RouteCandidate}
  {board : Board kind.scopedStore.scheme}

theorem hold_postProvider_frame (outside : ¬ SameProvider failed other)
    (row : HealthObservation) :
    (board.postHealth (providerSubject failed) row).hold (subject other) =
      board.hold (subject other) := by
  apply Board.hold_postHealth_of_notMem
  intro member
  exact outside (StoreKind.healthKey_mem_healthChain member).1

theorem hold_postProviderModel_frame (named : NamedApiCandidate failed)
    (outside : ¬ SameModel failed other) (row : HealthObservation) :
    (board.postHealth (providerModelSubject failed) row).hold (subject other) =
      board.hold (subject other) := by
  apply Board.hold_postHealth_of_notMem
  intro member
  obtain ⟨provider, wider | own⟩ := StoreKind.healthKey_mem_healthChain member
  · exact named.model wider
  · exact outside ⟨provider, Option.some.inj own⟩

theorem hold_postCredentialQuota_frame (named : NamedApiCandidate failed)
    (outside : ¬ SameCredential failed other) (row : QuotaObservation) :
    (board.postQuota (credentialSubject failed) row).hold (subject other) =
      board.hold (subject other) := by
  apply Board.hold_postQuota_of_notMem
  intro member
  obtain ⟨provider, wider | own, -⟩ := StoreKind.quotaKey_mem_quotaChain member
  · exact named.scopeKey_credential_ne wider
  · exact outside ⟨provider, own⟩

theorem hold_postSubjectQuota_frame (named : NamedApiCandidate failed)
    (outside : ¬ (SameCredential failed other ∧ SameModel failed other))
    (row : QuotaObservation) :
    (board.postQuota (subject failed) row).hold (subject other) =
      board.hold (subject other) := by
  apply Board.hold_postQuota_of_notMem
  intro member
  obtain ⟨provider, credential, model⟩ := StoreKind.quotaKey_mem_quotaChain member
  have ownCredential := credential.resolve_left named.scopeKey_credential_ne
  have ownModel := model.resolve_left named.model
  exact outside ⟨⟨provider, ownCredential⟩, provider, Option.some.inj ownModel⟩

theorem hold_postCredential_frame (outside : ¬ SameCredential failed other)
    (state : CredentialState) :
    (board.postCredential (credentialSubject failed) state).hold (subject other) =
      board.hold (subject other) := by
  apply Board.hold_postCredential_of_ne
  intro present same
  exact outside (StoreKind.credentialKey_eq present same)

/-- A failure leaves the hold of every candidate outside its scope alone. -/
theorem hold_boardFailure_frame (named : NamedApiCandidate failed) (engine : FallbackEngine)
    (now : Instant) (failure : CandidateFailure)
    (outside : ¬ InScope failure.errorClass failed other) :
    (boardFailure engine now failed failure board).hold (subject other) =
      board.hold (subject other) := by
  unfold boardFailure
  cases errorClass : failure.errorClass with
  | auth =>
      rw [errorClass] at outside
      exact hold_postCredential_frame outside _
  | quota =>
      rw [errorClass] at outside
      exact hold_postCredentialQuota_frame named outside _
  | rateLimit =>
      rw [errorClass] at outside
      exact hold_postSubjectQuota_frame named outside _
  | modelNotFound =>
      rw [errorClass] at outside
      exact hold_postProviderModel_frame named outside _
  | network =>
      rw [errorClass] at outside
      exact hold_postProvider_frame outside _
  | server =>
      rw [errorClass] at outside
      exact hold_postProvider_frame outside _
  | tokenLimit => rfl
  | unknown => rfl

end Frame

/-- Equal holds are equal eligibility. -/
theorem eligible_congr {σ : Type} {S : StateStore σ} (store : ScopedStore S) {s s' : σ}
    {candidate : RouteCandidate}
    (same : (store.board s').hold (subject candidate) =
      (store.board s).hold (subject candidate)) (now : Instant) :
    eligible S now s' candidate = eligible S now s candidate := by
  have refusals : eligible S now s' candidate = false ↔ eligible S now s candidate = false := by
    rw [eligible_eq_false_iff store, eligible_eq_false_iff store, same]
  cases after : eligible S now s' candidate <;> cases before : eligible S now s candidate <;>
    simp_all

/-- A failure or a success changes the eligibility of no candidate outside its
scope, at any time. -/
theorem eligible_unchanged_outside_scope (kind : StoreKind) (engine : FallbackEngine)
    (s : kind.Contents) (candidate other : RouteCandidate)
    (named : NamedApiCandidate candidate) (_otherNamed : NamedApiCandidate other) :
    (∀ (now time : Instant) (failure : CandidateFailure),
      ¬ InScope failure.errorClass candidate other →
        eligible kind.store time
            (applyFailure kind.store engine now candidate failure s).state other =
          eligible kind.store time s other) ∧
      (¬ SameModel candidate other →
        ∀ time, eligible kind.store time (applySuccess kind.store candidate s).state other =
          eligible kind.store time s other) := by
  constructor
  · intro now time failure outside
    apply eligible_congr kind.scopedStore
    rw [board_applyFailure]
    exact hold_boardFailure_frame named engine now failure outside
  · intro outside time
    apply eligible_congr kind.scopedStore
    rw [board_applySuccess]
    exact hold_postProviderModel_frame named outside _

/-- Two api candidates that share only their provider. -/
theorem eligible_unchanged_outside_scope_sibling :
    eligible StoreKind.sqlite.store 0
        (applyFailure StoreKind.sqlite.store {} 0
          ⟨"p", some "k1", ⟨"m1", "p", ∅⟩, ∅, .api, 100, false⟩ { errorClass := .quota }
          SqliteStateStore.empty).state
        ⟨"p", some "k2", ⟨"m2", "p", ∅⟩, ∅, .api, 100, false⟩ =
      eligible StoreKind.sqlite.store 0 SqliteStateStore.empty
        ⟨"p", some "k2", ⟨"m2", "p", ∅⟩, ∅, .api, 100, false⟩ :=
  (eligible_unchanged_outside_scope .sqlite {} SqliteStateStore.empty
    ⟨"p", some "k1", ⟨"m1", "p", ∅⟩, ∅, .api, 100, false⟩
    ⟨"p", some "k2", ⟨"m2", "p", ∅⟩, ∅, .api, 100, false⟩
    ⟨rfl, ⟨"k1", rfl, by decide⟩, by decide⟩ ⟨rfl, ⟨"k2", rfl, by decide⟩, by decide⟩).1 0 0
    { errorClass := .quota } (by simp [InScope, SameCredential])

end AutoRouteGateway.Routing
