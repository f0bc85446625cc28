import AutoRouteGateway.Routing.BlastRadius

/-!
Contract: when quota exhaustion is lasting.

Exhaustion is written at provider and credential scope and nothing ever
reports a quota as recovered. A rate limit is written at the full scope, which
is consulted first, and carries only a cooldown.

Owns: the observation a history leaves for a reader, and the exact condition
under which a candidate of an exhausted credential stays out of service.
-/

namespace AutoRouteGateway.Routing

open AutoRouteGateway.Domain
open AutoRouteGateway.Library
open AutoRouteGateway.Policy
open AutoRouteGateway.State

/-! ## What a history leaves for a reader -/

section Recorded

variable (kind : StoreKind) (engine : FallbackEngine) (calls : List EngineCall)
  (candidate : RouteCandidate)

/-- The quota observation last recorded at the first scope, in the candidate's
lookup order, at which the history recorded any. -/
def recordedQuota : Option QuotaObservation :=
  firstHit (latest (calls.filterMap (quotaWrite kind.scopedStore.scheme engine)))
    (kind.scopedStore.scheme.quotaChain (subject candidate))

/-- The same for health. -/
def recordedHealth : Option HealthObservation :=
  firstHit (latest (calls.filterMap (healthWrite kind.scopedStore.scheme engine)))
    (kind.scopedStore.scheme.healthChain (subject candidate))

/-- The recorded quota observation comes from a rate limit. -/
def RateLimitShadows : Prop :=
  ∃ deadline, recordedQuota kind engine calls candidate = some (.rateLimited, deadline)

/-- The recorded health observation comes from a missing model. -/
def ModelMissing : Prop :=
  ∃ deadline, recordedHealth kind engine calls candidate = some (.down, deadline)

/-- An auth failure was recorded for the candidate's credential. SQLite records
none for a candidate without one. -/
def CredentialRefused : Prop :=
  (kind = .sqlite → candidate.credentialId ≠ none) ∧
    ∃ now failed failure, EngineCall.failed now failed failure ∈ calls ∧
      failure.errorClass = .auth ∧ SameCredential failed candidate

end Recorded

section Seen

variable {kind : StoreKind} {engine : FallbackEngine} {calls : List EngineCall}
  {candidate : RouteCandidate}

theorem seenQuota_stateAfter :
    (kind.scopedStore.board (stateAfter kind.store engine calls kind.empty)).seenQuota
      (subject candidate) = recordedQuota kind engine calls candidate := by
  unfold Board.seenQuota recordedQuota
  rw [quotaRow_stateAfter_empty]

theorem seenHealth_stateAfter :
    (kind.scopedStore.board (stateAfter kind.store engine calls kind.empty)).seenHealth
      (subject candidate) = recordedHealth kind engine calls candidate := by
  unfold Board.seenHealth recordedHealth
  rw [healthRow_stateAfter_empty]

theorem quotaHorizon_eq_top_iff {row : Option QuotaObservation} :
    quotaHorizon row = ⊤ ↔ ∃ deadline, row = some (.exhausted, deadline) := by
  rcases row with _ | ⟨state, deadline⟩
  · simp [quotaHorizon]
  · have finite : Horizon.ofDeadline deadline ≠ ⊤ := by
      cases deadline with
      | none => exact bot_ne_top
      | some d => exact (Horizon.upTo_lt_top d).ne
    cases state <;> simp [quotaHorizon, finite]

theorem healthHorizon_eq_top_iff {row : Option HealthObservation} :
    healthHorizon row = ⊤ ↔ ∃ deadline, row = some (.down, deadline) := by
  rcases row with _ | ⟨state, deadline⟩
  · simp [healthHorizon]
  · have finite : Horizon.ofDeadline deadline ≠ ⊤ := by
      cases deadline with
      | none => exact bot_ne_top
      | some d => exact (Horizon.upTo_lt_top d).ne
    cases state <;> simp [healthHorizon, finite]

/-- Every quota observation of a history is an exhaustion or a rate limit. -/
theorem recordedQuota_state {row : QuotaObservation}
    (recorded : recordedQuota kind engine calls candidate = some row) :
    row.1 = .exhausted ∨ row.1 = .rateLimited := by
  obtain ⟨scope, -, member⟩ := mem_of_firstHit_latest_eq_some recorded
  obtain ⟨call, -, writes⟩ := List.mem_filterMap.mp member
  cases call with
  | succeeded candidate => cases writes
  | failed now candidate failure =>
      cases errorClass : failure.errorClass <;>
        simp only [quotaWrite, errorClass, reduceCtorEq] at writes <;> cases writes
      · exact Or.inr rfl
      · exact Or.inl rfl

theorem credentialQuotaKey_mem_quotaChain (kind : StoreKind) {failed : RouteCandidate}
    (same : SameCredential failed candidate) :
    kind.scopedStore.scheme.quotaKey (credentialSubject failed) ∈
      kind.scopedStore.scheme.quotaChain (subject candidate) := by
  have sameSubject : credentialSubject failed = credentialSubject candidate := by
    obtain ⟨provider, credential⟩ := same
    unfold SameProvider at provider
    simp only [credentialSubject, provider, credential]
  rw [sameSubject]
  obtain ⟨provider, credential, model, _, _, _, _⟩ := candidate
  cases kind with
  | inMemory =>
      change ((provider, credential, none) : ScopeTuple) ∈ InMemoryStateStore.fallbackKeys _
      simp [InMemoryStateStore.fallbackKeys, subject]
  | sqlite =>
      cases credential with
      | none =>
          change ((provider, "", "") : String × String × String) ∈
            [(provider, "", model.modelId), (provider, "", "")]
          simp
      | some credential =>
          change ((provider, credential, "") : String × String × String) ∈
            [(provider, credential, model.modelId), (provider, credential, ""),
              (provider, "", "")]
          simp

/-- Once a quota failure is recorded, a candidate of the credential reads an
exhaustion unless a rate limit shadows it. -/
theorem recordedQuota_exhausted_iff {failed : RouteCandidate} {now : Instant}
    {failure : CandidateFailure} (applied : EngineCall.failed now failed failure ∈ calls)
    (quota : failure.errorClass = .quota) (same : SameCredential failed candidate) :
    (∃ deadline, recordedQuota kind engine calls candidate = some (.exhausted, deadline)) ↔
      ¬ RateLimitShadows kind engine calls candidate := by
  have written : recordedQuota kind engine calls candidate ≠ none := by
    intro absent
    have unwritten := firstHit_eq_none_iff.mp absent _
      (credentialQuotaKey_mem_quotaChain kind same)
    have noWrite := latest_eq_none_iff.mp unwritten
      (kind.scopedStore.scheme.quotaKey (credentialSubject failed), (.exhausted, none))
      (List.mem_filterMap.mpr ⟨_, applied, by simp only [quotaWrite, quota]⟩)
    exact noWrite rfl
  unfold RateLimitShadows
  cases recorded : recordedQuota kind engine calls candidate with
  | none => exact absurd recorded written
  | some row =>
      obtain ⟨state, deadline⟩ := row
      rcases recordedQuota_state recorded with exhausted | rateLimited
      · change state = .exhausted at exhausted
        simp [exhausted]
      · change state = .rateLimited at rateLimited
        simp [rateLimited]

/-- Only auth failures write credential rows, and they write a refusal. -/
theorem credentialWrite_eq_some {scheme : ScopeScheme} {call : EngineCall}
    {key : scheme.CredentialKey} {state : CredentialState}
    (writes : credentialWrite scheme call = some (key, state)) :
    state = .authError ∧ ∃ now failed failure, call = .failed now failed failure ∧
      failure.errorClass = .auth ∧ scheme.credentialKey (credentialSubject failed) = some key := by
  cases call with
  | succeeded other => cases writes
  | failed now failed failure =>
      cases errorClass : failure.errorClass <;>
        simp only [credentialWrite, errorClass, reduceCtorEq] at writes
      obtain ⟨_, failedKey, pair⟩ := Option.map_eq_some_iff.mp writes
      cases pair
      exact ⟨rfl, now, failed, failure, rfl, errorClass, failedKey⟩

/-- The key of a credential does not depend on the model. -/
theorem credentialKey_subject (kind : StoreKind) (candidate : RouteCandidate) :
    kind.scopedStore.scheme.credentialKey (subject candidate) =
      kind.scopedStore.scheme.credentialKey (credentialSubject candidate) := by
  cases kind <;> rfl

theorem credentialKey_isSome_iff :
    (kind.scopedStore.scheme.credentialKey (credentialSubject candidate)).isSome ↔
      (kind = .sqlite → candidate.credentialId ≠ none) := by
  cases kind with
  | inMemory =>
      simp only [reduceCtorEq, false_implies, iff_true]
      rfl
  | sqlite =>
      change (candidate.credentialId.map fun id => (candidate.providerId, id)).isSome ↔ _
      cases candidate.credentialId <;> simp

/-- The credential row a history leaves is a refusal exactly when an auth
failure was recorded for the credential. -/
theorem credentialHorizon_stateAfter_eq_top_iff :
    credentialHorizon ((kind.scopedStore.board
        (stateAfter kind.store engine calls kind.empty)).seenCredential (subject candidate)) = ⊤ ↔
      CredentialRefused kind calls candidate := by
  unfold Board.seenCredential CredentialRefused
  rw [credentialRow_stateAfter_empty, credentialKey_subject, ← credentialKey_isSome_iff]
  cases key : kind.scopedStore.scheme.credentialKey (credentialSubject candidate) with
  | none => simp [credentialHorizon]
  | some own =>
      rw [Option.bind_some]
      constructor
      · intro refused
        cases row : latest (calls.filterMap (credentialWrite kind.scopedStore.scheme)) own with
        | none => simp [row, credentialHorizon] at refused
        | some state =>
            obtain ⟨call, member, writes⟩ := List.mem_filterMap.mp (mem_of_latest_eq_some row)
            obtain ⟨-, now, failed, failure, rfl, auth, failedKey⟩ := credentialWrite_eq_some writes
            have same := StoreKind.credentialKey_eq (by rw [failedKey]; rfl)
              (failedKey.trans key.symm)
            exact ⟨rfl, now, failed, failure, member, auth, same⟩
      · intro refused
        obtain ⟨-, now, failed, failure, member, auth, provider, credential⟩ := refused
        have sameSubject : credentialSubject failed = credentialSubject candidate := by
          unfold SameProvider at provider
          simp only [credentialSubject, provider, credential]
        have written : (own, CredentialState.authError) ∈
            calls.filterMap (credentialWrite kind.scopedStore.scheme) := by
          refine List.mem_filterMap.mpr ⟨_, member, ?_⟩
          simp only [credentialWrite, auth, sameSubject, key, Option.map_some]
        cases row : latest (calls.filterMap (credentialWrite kind.scopedStore.scheme)) own with
        | none => exact absurd rfl (latest_eq_none_iff.mp row _ written)
        | some state =>
            obtain ⟨call, -, writes⟩ := List.mem_filterMap.mp (mem_of_latest_eq_some row)
            rw [(credentialWrite_eq_some writes).1]
            rfl

end Seen

/-! ## Which rate limits shadow an exhaustion -/

section Named

variable {kind : StoreKind} {engine : FallbackEngine} {calls : List EngineCall}
  {candidate : RouteCandidate}

/-- Only rate limits write the row of a full scope with a named model. -/
theorem quotaWrite_subject_state (named : candidate.concreteModel.modelId ≠ "")
    {call : EngineCall} {row : QuotaObservation}
    (writes : quotaWrite kind.scopedStore.scheme engine call =
      some (kind.scopedStore.scheme.quotaKey (subject candidate), row)) :
    row.1 = .rateLimited := by
  cases call with
  | succeeded other => cases writes
  | failed now failed failure =>
      cases errorClass : failure.errorClass <;>
        simp only [quotaWrite, errorClass, reduceCtorEq, Option.some.injEq, Prod.mk.injEq]
          at writes
      · exact writes.2 ▸ rfl
      · exfalso
        cases kind with
        | inMemory =>
            have sameKey : ((failed.providerId, failed.credentialId, none) : ScopeTuple) =
              (candidate.providerId, candidate.credentialId,
                some candidate.concreteModel.modelId) := writes.1
            simp at sameKey
        | sqlite =>
            have sameKey :
              ((failed.providerId, scopeKey failed.credentialId, "") : String × String × String) =
                (candidate.providerId, scopeKey candidate.credentialId,
                  candidate.concreteModel.modelId) := writes.1
            simp only [Prod.mk.injEq] at sameKey
            exact named sameKey.2.2.symm

/-- A named api candidate consults the row of its full scope first. -/
theorem quotaChain_head (kind : StoreKind) (named : NamedApiCandidate candidate) :
    ∃ rest, kind.scopedStore.scheme.quotaChain (subject candidate) =
      kind.scopedStore.scheme.quotaKey (subject candidate) :: rest := by
  obtain ⟨id, isId, -⟩ := named.credential
  cases kind with
  | inMemory => exact ⟨_, rfl⟩
  | sqlite =>
      obtain ⟨provider, credential, model, _, _, _, _⟩ := candidate
      change credential = some id at isId
      subst isId
      exact ⟨_, rfl⟩

/-- Among named api candidates, an exhaustion is shadowed exactly by the rate
limits recorded for the very same provider, credential and model. -/
theorem rateLimitShadows_iff_of_named (named : NamedApiCandidate candidate)
    (callsNamed : ∀ now failed failure,
      EngineCall.failed now failed failure ∈ calls → NamedApiCandidate failed) :
    RateLimitShadows kind engine calls candidate ↔
      ∃ now failed failure, EngineCall.failed now failed failure ∈ calls ∧
        failure.errorClass = .rateLimit ∧ SameCredential failed candidate ∧
          SameModel failed candidate := by
  constructor
  · intro shadowed
    obtain ⟨deadline, recorded⟩ := shadowed
    obtain ⟨scope, onChain, found⟩ := List.exists_of_findSome?_eq_some recorded
    obtain ⟨call, member, writes⟩ := List.mem_filterMap.mp (mem_of_latest_eq_some found)
    cases call with
    | succeeded other => cases writes
    | failed now failed failure =>
        cases errorClass : failure.errorClass <;>
          simp only [quotaWrite, errorClass, reduceCtorEq, Option.some.injEq, Prod.mk.injEq,
            false_and, and_false] at writes
        have failedNamed := callsNamed now failed failure member
        obtain ⟨provider, credential, model⟩ :=
          StoreKind.quotaKey_mem_quotaChain (writes.1 ▸ onChain)
        have ownCredential := credential.resolve_left failedNamed.scopeKey_credential_ne
        have ownModel := model.resolve_left failedNamed.model
        exact ⟨now, failed, failure, member, errorClass, ⟨provider, ownCredential⟩, provider,
          Option.some.inj ownModel⟩
  · intro limited
    obtain ⟨now, failed, failure, member, rateLimit, ⟨provider, credential⟩, -, model⟩ := limited
    have sameSubject : subject failed = subject candidate := by
      unfold SameProvider at provider
      simp only [subject, provider, credential, model]
    obtain ⟨rest, chain⟩ := quotaChain_head kind named
    have written : (kind.scopedStore.scheme.quotaKey (subject candidate),
        (QuotaState.rateLimited, some (rateLimitDeadline engine now failure))) ∈
          calls.filterMap (quotaWrite kind.scopedStore.scheme engine) := by
      refine List.mem_filterMap.mpr ⟨_, member, ?_⟩
      simp only [quotaWrite, rateLimit, sameSubject]
    unfold RateLimitShadows recordedQuota
    rw [chain, firstHit_cons]
    cases row : latest (calls.filterMap (quotaWrite kind.scopedStore.scheme engine))
        (kind.scopedStore.scheme.quotaKey (subject candidate)) with
    | none => exact absurd rfl (latest_eq_none_iff.mp row _ written)
    | some observation =>
        obtain ⟨call, -, writes⟩ := List.mem_filterMap.mp (mem_of_latest_eq_some row)
        have limitedRow := quotaWrite_subject_state named.model writes
        obtain ⟨state, deadline⟩ := observation
        change state = .rateLimited at limitedRow
        exact ⟨deadline, by rw [limitedRow, Option.some_or]⟩

end Named

/-! ## Lasting exhaustion -/

/-- Once a quota failure was applied for a credential, a candidate of that
credential is out of service from any instant on exactly when no rate limit
shadows the exhaustion, or its credential was refused, or its model is missing. -/
theorem exhaustion_lasts_iff (kind : StoreKind) (engine : FallbackEngine)
    (calls : List EngineCall) (failed other : RouteCandidate) (failure : CandidateFailure)
    (now start : Instant) (applied : EngineCall.failed now failed failure ∈ calls)
    (quota : failure.errorClass = .quota) (same : SameCredential failed other) :
    (∀ time, start ≤ time →
        eligible kind.store time (stateAfter kind.store engine calls kind.empty) other = false) ↔
      ¬ RateLimitShadows kind engine calls other ∨ CredentialRefused kind calls other ∨
        ModelMissing kind engine calls other := by
  simp only [eligible_eq_false_iff kind.scopedStore]
  rw [Horizon.forall_ge_blocks_iff]
  unfold Board.hold
  rw [max_eq_top, max_eq_top, credentialHorizon_stateAfter_eq_top_iff, seenQuota_stateAfter,
    seenHealth_stateAfter, quotaHorizon_eq_top_iff, healthHorizon_eq_top_iff,
    recordedQuota_exhausted_iff applied quota same]
  unfold ModelMissing
  tauto

/-- A quota failure alone takes another model of the credential out for long. -/
theorem exhaustion_lasts_iff_other_model :
    eligible StoreKind.inMemory.store (100000 * second)
      (stateAfter StoreKind.inMemory.store {}
        [.failed 0 ⟨"p", some "k", ⟨"m1", "p", ∅⟩, ∅, .api, 100, false⟩
          { errorClass := .quota }]
        StoreKind.inMemory.empty)
      ⟨"p", some "k", ⟨"m2", "p", ∅⟩, ∅, .api, 100, false⟩ = false := by
  refine (exhaustion_lasts_iff .inMemory {} _
    ⟨"p", some "k", ⟨"m1", "p", ∅⟩, ∅, .api, 100, false⟩
    ⟨"p", some "k", ⟨"m2", "p", ∅⟩, ∅, .api, 100, false⟩ { errorClass := .quota } 0 0
    (List.mem_singleton.mpr rfl) rfl ⟨rfl, rfl⟩).mpr (Or.inl ?_) (100000 * second) (by decide)
  intro shadowed
  obtain ⟨deadline, recorded⟩ := shadowed
  cases recorded

/-- A rate limit that was in flight on the same candidate undoes the
exhaustion: after its cooldown the candidate is eligible again, in both stores. -/
theorem exhaustion_undone_by_rate_limit :
    eligible StoreKind.inMemory.store (60 * second)
        (stateAfter StoreKind.inMemory.store {}
          [.failed 0 ⟨"p", some "k", ⟨"m", "p", ∅⟩, ∅, .api, 100, false⟩
              { errorClass := .quota },
            .failed 0 ⟨"p", some "k", ⟨"m", "p", ∅⟩, ∅, .api, 100, false⟩
              { errorClass := .rateLimit }]
          StoreKind.inMemory.empty)
        ⟨"p", some "k", ⟨"m", "p", ∅⟩, ∅, .api, 100, false⟩ = true ∧
      eligible StoreKind.sqlite.store (60 * second)
        (stateAfter StoreKind.sqlite.store {}
          [.failed 0 ⟨"p", some "k", ⟨"m", "p", ∅⟩, ∅, .api, 100, false⟩
              { errorClass := .quota },
            .failed 0 ⟨"p", some "k", ⟨"m", "p", ∅⟩, ∅, .api, 100, false⟩
              { errorClass := .rateLimit }]
          StoreKind.sqlite.empty)
        ⟨"p", some "k", ⟨"m", "p", ∅⟩, ∅, .api, 100, false⟩ = true := by
  decide

end AutoRouteGateway.Routing
