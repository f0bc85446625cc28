import AutoRouteGateway.Routing.SharedRows
import AutoRouteGateway.Routing.Transient
import AutoRouteGateway.Runtime.DateTime

/-!
Contract: when the two stores agree on engine traffic.

SQLite rejects a credential row without a credential, and shares the row of an
empty id with the wider scope.

Owns: agreement of the stores after a history, the exact condition under which
they agree, and the configurations in which ids cannot clash with an absent
component.
-/

namespace AutoRouteGateway.Routing

open AutoRouteGateway.Config
open AutoRouteGateway.Domain
open AutoRouteGateway.Library
open AutoRouteGateway.Policy
open AutoRouteGateway.Runtime
open AutoRouteGateway.State

/-- An auth failure of an executor candidate, which has no credential. -/
def EngineCall.RefusesExecutor : EngineCall → Prop
  | .succeeded _ => False
  | .failed _ candidate failure =>
      failure.errorClass = .auth ∧ candidate.executorType = .cli

/-- `_cooldown` does not overflow: the deadline of the call is a `datetime`. -/
def EngineCall.DeadlineExists (engine : FallbackEngine) (call : EngineCall) : Prop :=
  ∀ deadline, call.deadline engine = some deadline → DateTime.Representable deadline

/-- The four reads agree on every candidate. -/
structure ReadsAgree (config : GatewayConfig) (engine : FallbackEngine)
    (calls : List EngineCall) : Prop where
  health : ∀ candidate, IsCandidate config candidate →
    InMemoryStateStore.getHealth (storeAfter .inMemory engine calls) (subject candidate) =
      SqliteStateStore.getHealth (storeAfter .sqlite engine calls) (subject candidate)
  quota : ∀ candidate, IsCandidate config candidate →
    InMemoryStateStore.getQuota (storeAfter .inMemory engine calls) (subject candidate) =
      SqliteStateStore.getQuota (storeAfter .sqlite engine calls) (subject candidate)
  credential : ∀ candidate, IsCandidate config candidate →
    InMemoryStateStore.getCredential (storeAfter .inMemory engine calls) (subject candidate) =
      SqliteStateStore.getCredential (storeAfter .sqlite engine calls) (subject candidate)
  cooldown : ∀ candidate, IsCandidate config candidate →
    InMemoryStateStore.getCooldown (storeAfter .inMemory engine calls) (subject candidate) =
      SqliteStateStore.getCooldown (storeAfter .sqlite engine calls) (subject candidate)

/-- No call raises, neither over its deadline nor in one of the stores, and the
four reads agree on every candidate. -/
structure StoresAgree (config : GatewayConfig) (engine : FallbackEngine)
    (calls : List EngineCall) : Prop extends ReadsAgree config engine calls where
  noneRaises : ∀ kind earlier call later, calls = earlier ++ call :: later →
    call.DeadlineExists engine ∧
      ∃ state, call.run kind.store engine (storeAfter kind engine earlier) = .done state

/-- No id of a candidate can be confused with an absent scope component: no
model id is empty, and an empty credential id is the only one of its provider. -/
structure NoIdClash (config : GatewayConfig) : Prop where
  model : ∀ candidate, IsCandidate config candidate → candidate.concreteModel.modelId ≠ ""
  credential : ∀ left right, IsCandidate config left → IsCandidate config right →
    SameProvider left right → left.credentialId = some "" → right.credentialId = some ""

/-! ## Credentials -/

section Credentials

def inMemoryCredentialKey (key : String × String) : String × Option String :=
  (key.1, some key.2)

variable {engine : FallbackEngine} {calls : List EngineCall} {candidate : RouteCandidate}

theorem inMemory_credentialWrites
    (keyed : ∀ call ∈ calls, ∀ now candidate failure, call = .failed now candidate failure →
      failure.errorClass = .auth → candidate.credentialId ≠ none) :
    calls.filterMap (credentialWrite inMemoryScheme) =
      (calls.filterMap (credentialWrite sqliteScheme)).map
        fun write => (inMemoryCredentialKey write.1, write.2) := by
  rw [List.map_filterMap]
  apply List.filterMap_congr
  intro call member
  cases call with
  | succeeded candidate => rfl
  | failed now candidate failure =>
      cases errorClass : failure.errorClass <;> simp only [credentialWrite, errorClass]
      case auth =>
        obtain ⟨id, isId⟩ := Option.ne_none_iff_exists'.mp
          (keyed _ member now candidate failure rfl errorClass)
        change (some (candidate.providerId, candidate.credentialId)).map _ =
          (((candidate.credentialId.map fun id => (candidate.providerId, id)).map _).map _)
        rw [isId]
        rfl
      all_goals rfl

/-- Both stores show the same credential state when no executor was refused. -/
theorem seenCredential_agree (engine : FallbackEngine)
    (keyed : ∀ call ∈ calls, ∀ now candidate failure, call = .failed now candidate failure →
      failure.errorClass = .auth → candidate.credentialId ≠ none) :
    (inMemoryScoped.board (storeAfter .inMemory engine calls)).seenCredential
        (subject candidate) =
      (sqliteScoped.board (storeAfter .sqlite engine calls)).seenCredential
        (subject candidate) := by
  have rows := credentialRow_stateAfter_empty .inMemory engine calls
  have rows' := credentialRow_stateAfter_empty .sqlite engine calls
  have writes := inMemory_credentialWrites keyed
  calc (inMemoryScoped.board (storeAfter .inMemory engine calls)).seenCredential
          (subject candidate)
      = latest (calls.filterMap (credentialWrite inMemoryScheme))
          (candidate.providerId, candidate.credentialId) := congrFun rows _
    _ = (candidate.credentialId.map fun id => (candidate.providerId, id)).bind
          (latest (calls.filterMap (credentialWrite sqliteScheme))) := by
        rw [writes]
        cases credential : candidate.credentialId with
        | none =>
            apply latest_eq_none_iff.mpr
            intro encoded member equal
            obtain ⟨write, -, rfl⟩ := List.mem_map.mp member
            injection equal with _ key
            cases key
        | some id =>
            apply latest_map inMemoryCredentialKey (candidate.providerId, id)
            intro write member confused
            injection confused with provider key
            injection key with key
            exact Prod.ext provider key
    _ = (sqliteScoped.board (storeAfter .sqlite engine calls)).seenCredential
          (subject candidate) := by
        unfold Board.seenCredential
        rw [show (sqliteScoped.board (storeAfter .sqlite engine calls)).credential =
          latest (calls.filterMap (credentialWrite sqliteScheme)) from rows']
        rfl

end Credentials

/-! ## Which calls raise -/

section Raising

variable {engine : FallbackEngine}

theorem run_inMemory_done (call : EngineCall) (s : InMemoryStateStore) :
    ∃ state, call.run InMemoryStateStore.store engine s = .done state := by
  cases call with
  | succeeded candidate => exact ⟨_, rfl⟩
  | failed now candidate failure =>
      cases errorClass : failure.errorClass <;>
        simp only [EngineCall.run, applyFailure, errorClass] <;> exact ⟨_, rfl⟩

/-- SQLite rejects exactly the auth failures of a candidate without a credential. -/
theorem run_sqlite_done_iff (call : EngineCall) (s : SqliteStateStore) :
    (∃ state, call.run SqliteStateStore.store engine s = .done state) ↔
      ∀ now candidate failure, call = .failed now candidate failure →
        failure.errorClass = .auth → candidate.credentialId ≠ none := by
  cases call with
  | succeeded candidate =>
      refine ⟨fun _ => ?_, fun _ => ⟨_, rfl⟩⟩
      intro now' candidate' failure' same
      cases same
  | failed now candidate failure =>
      cases errorClass : failure.errorClass <;> simp only [EngineCall.run, applyFailure, errorClass]
      case auth =>
        change (∃ state, SqliteStateStore.setCredential (credentialSubject candidate) .authError
          _ s = .done state) ↔ _
        unfold SqliteStateStore.setCredential
        cases credential : candidate.credentialId with
        | none =>
            simp only [credentialSubject, credential, reduceCtorEq, exists_false, false_iff]
            intro keyed
            exact keyed now candidate failure rfl errorClass credential
        | some id =>
            simp only [credentialSubject, credential]
            refine ⟨fun _ => ?_, fun _ => ⟨_, rfl⟩⟩
            intro now' candidate' failure' same _ absent
            cases same
            rw [credential] at absent
            cases absent
      all_goals
        refine ⟨fun _ => ?_, fun _ => ⟨_, rfl⟩⟩
        intro now' candidate' failure' same auth
        cases same
        rw [errorClass] at auth
        cases auth

/-- Executor candidates are the ones without a credential. -/
theorem IsCandidate.cli_iff {config : GatewayConfig} {candidate : RouteCandidate}
    (isCandidate : IsCandidate config candidate) :
    candidate.executorType = .cli ↔ candidate.credentialId = none := by
  obtain ⟨built⟩ := isCandidate.builtFrom
  rcases built.shape with ⟨-, cli, none⟩ | ⟨-, api, key, -, isKey⟩
  · simp [cli, none]
  · simp [api, isKey]

theorem keyed_iff_not_refusesExecutor {config : GatewayConfig} {call : EngineCall}
    (isCandidate : IsCandidate config call.candidate) :
    (∀ now candidate failure, call = .failed now candidate failure →
        failure.errorClass = .auth → candidate.credentialId ≠ none) ↔
      ¬ call.RefusesExecutor := by
  cases call with
  | succeeded candidate =>
      refine ⟨fun _ => id, fun _ => ?_⟩
      intro now' candidate' failure' same
      cases same
  | failed now candidate failure =>
      have cli := isCandidate.cli_iff
      constructor
      · intro keyed refused
        exact keyed now candidate failure rfl refused.1 (cli.mp refused.2)
      · intro accepted now' candidate' failure' same auth absent
        cases same
        exact accepted ⟨auth, cli.mpr absent⟩

end Raising

/-! ## The condition -/

section Condition

variable {config : GatewayConfig} {engine : FallbackEngine} {calls : List EngineCall}
  {candidate : RouteCandidate}

/-- A candidate that comes upon no shared row sees the same health row. -/
theorem IdsApart.seenHealth (apart : IdsApart engine calls candidate) :
    (inMemoryScoped.board (storeAfter .inMemory engine calls)).seenHealth (subject candidate) =
      (sqliteScoped.board (storeAfter .sqlite engine calls)).seenHealth (subject candidate) := by
  rw [inMemory_seenHealth, sqlite_seenHealth]
  exact apart.health.row_eq

theorem IdsApart.seenQuota (overAll : OverCandidates config calls)
    (isCandidate : IsCandidate config candidate) (apart : IdsApart engine calls candidate) :
    (inMemoryScoped.board (storeAfter .inMemory engine calls)).seenQuota (subject candidate) =
      (sqliteScoped.board (storeAfter .sqlite engine calls)).seenQuota (subject candidate) := by
  rw [inMemory_seenQuota engine overAll isCandidate, sqlite_seenQuota engine overAll isCandidate]
  refine apart.quota.row_eq.trans ?_
  cases shared : keylessRow engine calls candidate with
  | none => rw [Option.or_none]
  | some row =>
      have own := (keyApart_iff engine overAll isCandidate).mp apart.key (by simp [shared])
      rw [Option.or_of_isSome (Option.isSome_iff_ne_none.mpr own)]

/-- Where no candidate comes upon a shared row and no executor was refused, the
reads agree. -/
theorem readsAgree_of_idsApart (overAll : OverCandidates config calls)
    (accepted : ∀ call ∈ calls, ¬ call.RefusesExecutor)
    (apart : ∀ candidate, IsCandidate config candidate → IdsApart engine calls candidate) :
    ReadsAgree config engine calls := by
  have keyed : ∀ call ∈ calls, ∀ now candidate failure, call = .failed now candidate failure →
      failure.errorClass = .auth → candidate.credentialId ≠ none := by
    intro call member
    exact (keyed_iff_not_refusesExecutor (overAll call member)).mpr (accepted call member)
  constructor
  · intro candidate isCandidate
    have left := inMemoryScoped.getHealth_eq (storeAfter .inMemory engine calls) (subject candidate)
    have right := sqliteScoped.getHealth_eq (storeAfter .sqlite engine calls) (subject candidate)
    rw [(apart candidate isCandidate).seenHealth] at left
    exact left.trans right.symm
  · intro candidate isCandidate
    have left := inMemoryScoped.getQuota_eq (storeAfter .inMemory engine calls) (subject candidate)
    have right := sqliteScoped.getQuota_eq (storeAfter .sqlite engine calls) (subject candidate)
    rw [(apart candidate isCandidate).seenQuota overAll isCandidate] at left
    exact left.trans right.symm
  · intro candidate isCandidate
    have left := inMemoryScoped.getCredential_eq (storeAfter .inMemory engine calls)
      (subject candidate)
    have right := sqliteScoped.getCredential_eq (storeAfter .sqlite engine calls)
      (subject candidate)
    rw [seenCredential_agree engine keyed] at left
    exact left.trans right.symm
  · intro candidate isCandidate
    have left := inMemoryScoped.getCooldown_eq (storeAfter .inMemory engine calls)
      (subject candidate)
    have right := sqliteScoped.getCooldown_eq (storeAfter .sqlite engine calls)
      (subject candidate)
    rw [(apart candidate isCandidate).seenHealth,
      (apart candidate isCandidate).seenQuota overAll isCandidate] at left
    exact left.trans right.symm

/-- Where the reads agree, no candidate comes upon a shared row: the rows of a
model and those without a model never tell the same state. -/
theorem ReadsAgree.idsApart (agree : ReadsAgree config engine calls)
    (overAll : OverCandidates config calls) (isCandidate : IsCandidate config candidate) :
    IdsApart engine calls candidate := by
  have health : toldHealth (modelRow (healthRows engine calls)
      candidate.providerId none candidate.concreteModel.modelId) =
      toldHealth (confusedRow (healthRows engine calls)
        candidate.providerId none candidate.concreteModel.modelId) := by
    rw [← inMemory_seenHealth, ← sqlite_seenHealth]
    exact (inMemoryScoped.getHealth_eq _ _).symm.trans
      ((agree.health candidate isCandidate).trans (sqliteScoped.getHealth_eq _ _))
  have quota : toldQuota (modelRow (quotaRows engine calls)
      candidate.providerId candidate.credentialId candidate.concreteModel.modelId) =
      toldQuota ((confusedRow (quotaRows engine calls)
        candidate.providerId candidate.credentialId candidate.concreteModel.modelId).or
          (keylessRow engine calls candidate)) := by
    rw [← inMemory_seenQuota engine overAll isCandidate,
      ← sqlite_seenQuota engine overAll isCandidate]
    exact (inMemoryScoped.getQuota_eq _ _).symm.trans
      ((agree.quota candidate isCandidate).trans (sqliteScoped.getQuota_eq _ _))
  have key : keylessRow engine calls candidate ≠ none →
      confusedRow (quotaRows engine calls) candidate.providerId
        candidate.credentialId candidate.concreteModel.modelId ≠ none := by
    intro shared absent
    rw [modelRow_eq_none_of_confusedRow absent, absent, Option.none_or] at quota
    exact toldQuota_keylessRow engine calls candidate shared quota.symm
  refine ⟨modelApart_of_told toldHealth (toldHealth_differs engine calls _) health,
    modelApart_of_told toldQuota (toldQuota_differs engine calls _ _) ?_,
    (keyApart_iff engine overAll isCandidate).mpr key⟩
  refine quota.trans ?_
  cases own : confusedRow (quotaRows engine calls)
      candidate.providerId candidate.credentialId candidate.concreteModel.modelId with
  | some row => rw [Option.some_or]
  | none =>
      have absent : keylessRow engine calls candidate = none := by
        by_contra shared
        exact key shared own
      rw [absent, Option.or_none]

theorem modelScope_named {config : GatewayConfig} (noClash : NoIdClash config)
    {other : RouteCandidate} (isCandidate : IsCandidate config other) {model : Option String}
    (scope : model = none ∨ model = some other.concreteModel.modelId) : model ≠ some "" := by
  intro empty
  rcases scope with absent | own
  · rw [absent] at empty
    cases empty
  · exact noClash.model other isCandidate (Option.some.inj (own.symm.trans empty))

/-- Without an id clash in the configuration, no history makes a candidate come
upon a shared row. -/
theorem NoIdClash.idsApart (noClash : NoIdClash config) (overAll : OverCandidates config calls)
    (isCandidate : IsCandidate config candidate) : IdsApart engine calls candidate := by
  have named := noClash.model candidate isCandidate
  constructor
  · unfold ModelApart
    rw [if_neg named]
    intro prevails
    obtain ⟨write, member, isScope⟩ := List.mem_map.mp prevails.mem
    obtain ⟨call, inCalls, model, key, scope⟩ := mem_healthWrites_key member
    rw [key] at isScope
    have blank : model = some "" := (Prod.mk.inj (Prod.mk.inj isScope).2).2
    exact absurd blank (modelScope_named noClash (overAll call inCalls) scope)
  · unfold ModelApart
    rw [if_neg named]
    intro prevails
    obtain ⟨write, member, isScope⟩ := List.mem_map.mp prevails.mem
    obtain ⟨call, inCalls, model, key, scope⟩ := mem_quotaWrites_key member
    rw [key] at isScope
    have blank : model = some "" := (Prod.mk.inj (Prod.mk.inj isScope).2).2
    exact absurd blank (modelScope_named noClash (overAll call inCalls) scope)
  · intro id isId nonempty shared
    have written : ∃ model, (candidate.providerId, some "", model) ∈ quotaScopes engine calls := by
      rcases shared with wide | own
      · exact ⟨none, wide⟩
      · exact ⟨some "", own⟩
    obtain ⟨model, isWritten⟩ := written
    obtain ⟨write, member, isScope⟩ := List.mem_map.mp isWritten
    obtain ⟨call, inCalls, written, key, -⟩ := mem_quotaWrites_key member
    rw [key] at isScope
    have provider : call.candidate.providerId = candidate.providerId := (Prod.mk.inj isScope).1
    have empty : call.candidate.credentialId = some "" := (Prod.mk.inj (Prod.mk.inj isScope).2).1
    have own := noClash.credential call.candidate candidate (overAll call inCalls) isCandidate
      provider empty
    exact absurd (Option.some.inj (isId.symm.trans own)) nonempty

/-- Agreement includes that no executor was refused. -/
theorem StoresAgree.accepted (agree : StoresAgree config engine calls)
    (overAll : OverCandidates config calls) : ∀ call ∈ calls, ¬ call.RefusesExecutor := by
  intro call member
  obtain ⟨earlier, later, split⟩ := List.append_of_mem member
  obtain ⟨-, done⟩ := agree.noneRaises .sqlite earlier call later split
  have keyed := (run_sqlite_done_iff call _).mp done
  exact (keyed_iff_not_refusesExecutor (overAll call member)).mp keyed

/-- One executor provider behind one route. -/
def executorConfig : GatewayConfig where
  routes := UpsertTable.empty.upsert "v" ⟨[⟨"codex", none⟩]⟩
  providers := UpsertTable.empty.upsert "codex"
    { id := "codex", type := .executor, models := [{ id := "m" }] }
  codexEnabled := true
  idsMatch := idsMatch_single rfl

end Condition

end AutoRouteGateway.Routing
