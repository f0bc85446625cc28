import AutoRouteGateway.Config.Loader
import AutoRouteGateway.Routing.BlastRadius
import AutoRouteGateway.Routing.CandidateBuilder

/-!
Contract: the rows that SQLite shares between scopes.

The in-memory store keys every dimension by the full scope tuple. SQLite drops
the credential from health keys and writes an absent component as the empty
string, so an empty id shares its row with the wider scope.

Owns: the histories in which a reader comes upon no row shared in this way, and
the row that each store shows a candidate after a history.
-/

namespace AutoRouteGateway.Routing

open AutoRouteGateway.Config
open AutoRouteGateway.Domain
open AutoRouteGateway.Library
open AutoRouteGateway.Policy
open AutoRouteGateway.State

def EngineCall.candidate : EngineCall → RouteCandidate
  | .succeeded candidate => candidate
  | .failed _ candidate _ => candidate

/-- Every call is on a candidate of the configuration. -/
def OverCandidates (config : GatewayConfig) (calls : List EngineCall) : Prop :=
  ∀ call ∈ calls, IsCandidate config call.candidate

/-- The state of one store after the history, from empty. -/
def storeAfter (kind : StoreKind) (engine : FallbackEngine) (calls : List EngineCall) :
    kind.Contents :=
  stateAfter kind.store engine calls kind.empty

/-! ## Shared rows -/

/-- The health rows the history writes in memory, oldest first. -/
def healthRows (engine : FallbackEngine) (calls : List EngineCall) :
    List (ScopeTuple × HealthObservation) :=
  calls.filterMap (healthWrite inMemoryScheme engine)

/-- The quota rows the history writes in memory, oldest first. -/
def quotaRows (engine : FallbackEngine) (calls : List EngineCall) :
    List (ScopeTuple × QuotaObservation) :=
  calls.filterMap (quotaWrite inMemoryScheme engine)

/-- The scopes whose health rows the history writes, oldest first. -/
def healthScopes (engine : FallbackEngine) (calls : List EngineCall) : List ScopeTuple :=
  (healthRows engine calls).map Prod.fst

/-- The scopes whose quota rows the history writes, oldest first. -/
def quotaScopes (engine : FallbackEngine) (calls : List EngineCall) : List ScopeTuple :=
  (quotaRows engine calls).map Prod.fst

/-- In SQLite the empty model shares its row with the scope without a model. A
reader of the empty model finds its own row there if that was written last; any
other reader finds the wider one, unless the row of the empty model was written
last, or it has a row of its own. -/
def ModelApart (scopes : List ScopeTuple) (provider : String) (credential : Option String)
    (model : String) : Prop :=
  if model = "" then
    (provider, credential, some "") ∈ scopes →
      Prevails (provider, credential, some "") (provider, credential, none) scopes
  else
    Prevails (provider, credential, some "") (provider, credential, none) scopes →
      (provider, credential, some model) ∈ scopes

/-- In SQLite the empty key shares its row with the scope without a key. A reader
with another key of the provider does not get there if it has a row of its own. -/
def KeyApart (scopes : List ScopeTuple) (provider : String) (credential : Option String)
    (model : String) : Prop :=
  ∀ id, credential = some id → id ≠ "" →
    (provider, some "", none) ∈ scopes ∨ (provider, some "", some "") ∈ scopes →
    (provider, credential, some model) ∈ scopes ∨ (provider, credential, some "") ∈ scopes ∨
      (provider, credential, none) ∈ scopes

/-- The candidate comes upon no row that its scopes share with others. -/
structure IdsApart (engine : FallbackEngine) (calls : List EngineCall)
    (candidate : RouteCandidate) : Prop where
  health : ModelApart (healthScopes engine calls) candidate.providerId none
    candidate.concreteModel.modelId
  quota : ModelApart (quotaScopes engine calls) candidate.providerId candidate.credentialId
    candidate.concreteModel.modelId
  key : KeyApart (quotaScopes engine calls) candidate.providerId candidate.credentialId
    candidate.concreteModel.modelId

/-! ## One encoding into the other -/

section Encoding

/-- The SQLite health key of an in-memory scope. -/
def sqliteHealthKey (scope : ScopeTuple) : String × String :=
  (scope.1, scopeKey scope.2.2)

def sqliteQuotaKey (scope : ScopeTuple) : String × String × String :=
  (scope.1, scopeKey scope.2.1, scopeKey scope.2.2)

variable {engine : FallbackEngine} {calls : List EngineCall}

theorem sqlite_healthWrites :
    calls.filterMap (healthWrite sqliteScheme engine) =
      (healthRows engine calls).map
        fun write => (sqliteHealthKey write.1, write.2) := by
  change _ = (calls.filterMap (healthWrite inMemoryScheme engine)).map
    fun write => (sqliteHealthKey write.1, write.2)
  rw [List.map_filterMap]
  apply List.filterMap_congr
  intro call member
  cases call with
  | succeeded candidate => rfl
  | failed now candidate failure =>
      cases errorClass : failure.errorClass <;> simp only [healthWrite, errorClass] <;> rfl

theorem sqlite_quotaWrites :
    calls.filterMap (quotaWrite sqliteScheme engine) =
      (quotaRows engine calls).map
        fun write => (sqliteQuotaKey write.1, write.2) := by
  change _ = (calls.filterMap (quotaWrite inMemoryScheme engine)).map
    fun write => (sqliteQuotaKey write.1, write.2)
  rw [List.map_filterMap]
  apply List.filterMap_congr
  intro call member
  cases call with
  | succeeded candidate => rfl
  | failed now candidate failure =>
      cases errorClass : failure.errorClass <;> simp only [quotaWrite, errorClass] <;> rfl

/-- A health write names its candidate's provider and at most its model. -/
theorem mem_healthWrites_key {write : ScopeTuple × HealthObservation}
    (member : write ∈ healthRows engine calls) :
    ∃ call ∈ calls, ∃ model, write.1 = (call.candidate.providerId, none, model) ∧
      (model = none ∨ model = some call.candidate.concreteModel.modelId) := by
  obtain ⟨call, inCalls, writes⟩ := List.mem_filterMap.mp member
  refine ⟨call, inCalls, ?_⟩
  cases call with
  | succeeded candidate =>
      cases writes
      exact ⟨_, rfl, Or.inr rfl⟩
  | failed now candidate failure =>
      cases errorClass : failure.errorClass <;>
        simp only [healthWrite, errorClass, reduceCtorEq] at writes <;> cases writes
      · exact ⟨_, rfl, Or.inr rfl⟩
      · exact ⟨_, rfl, Or.inl rfl⟩
      · exact ⟨_, rfl, Or.inl rfl⟩

/-- A quota write names its candidate's provider, credential and at most its model. -/
theorem mem_quotaWrites_key {write : ScopeTuple × QuotaObservation}
    (member : write ∈ quotaRows engine calls) :
    ∃ call ∈ calls, ∃ model,
      write.1 = (call.candidate.providerId, call.candidate.credentialId, model) ∧
        (model = none ∨ model = some call.candidate.concreteModel.modelId) := by
  obtain ⟨call, inCalls, writes⟩ := List.mem_filterMap.mp member
  refine ⟨call, inCalls, ?_⟩
  cases call with
  | succeeded candidate => cases writes
  | failed now candidate failure =>
      cases errorClass : failure.errorClass <;>
        simp only [quotaWrite, errorClass, reduceCtorEq] at writes <;> cases writes
      · exact ⟨_, rfl, Or.inr rfl⟩
      · exact ⟨_, rfl, Or.inl rfl⟩

/-- A health row without a model is a degradation, and one of a model is none. -/
theorem mem_healthWrites_told {write : ScopeTuple × HealthObservation}
    (member : write ∈ healthRows engine calls) :
    (write.1.2.2 = none → write.2.1 = .degraded) ∧
      (write.1.2.2 ≠ none → write.2.1 ≠ .unknown ∧ write.2.1 ≠ .degraded) := by
  obtain ⟨call, -, writes⟩ := List.mem_filterMap.mp member
  cases call with
  | succeeded candidate =>
      cases writes
      exact ⟨fun isNone => absurd isNone (Option.some_ne_none _), by simp⟩
  | failed now candidate failure =>
      cases errorClass : failure.errorClass <;>
        simp only [healthWrite, errorClass, reduceCtorEq] at writes <;> cases writes
      · exact ⟨fun isNone => absurd isNone (Option.some_ne_none _), by simp⟩
      · exact ⟨fun _ => rfl, fun named => absurd rfl named⟩
      · exact ⟨fun _ => rfl, fun named => absurd rfl named⟩

/-- A quota row without a model is an exhaustion, and one of a model a rate limit. -/
theorem mem_quotaWrites_told {write : ScopeTuple × QuotaObservation}
    (member : write ∈ quotaRows engine calls) :
    (write.1.2.2 = none → write.2.1 = .exhausted) ∧
      (write.1.2.2 ≠ none → write.2.1 = .rateLimited) := by
  obtain ⟨call, -, writes⟩ := List.mem_filterMap.mp member
  cases call with
  | succeeded candidate => cases writes
  | failed now candidate failure =>
      cases errorClass : failure.errorClass <;>
        simp only [quotaWrite, errorClass, reduceCtorEq] at writes <;> cases writes
      · exact ⟨fun isNone => absurd isNone (Option.some_ne_none _), fun _ => rfl⟩
      · exact ⟨fun _ => rfl, fun named => absurd rfl named⟩

theorem eq_of_scopeKey_blank {component : Option String} (blank : scopeKey component = "") :
    component = none ∨ component = some "" := by
  cases component with
  | none => exact Or.inl rfl
  | some value => exact Or.inr (congrArg some blank)

theorem eq_some_of_scopeKey {component : Option String} {value : String} (named : value ≠ "")
    (same : scopeKey component = value) : component = some value := by
  cases component with
  | none => exact absurd same.symm named
  | some own => exact congrArg some same

end Encoding

/-! ## What a reader of a model finds -/

section Models

variable {ν τ : Type} (writes : List (ScopeTuple × ν)) (provider : String)
  (credential : Option String) (model : String)

/-- The row of the model, or the one without a model. -/
def modelRow : Option ν :=
  (latest writes ((provider, credential, some model) : ScopeTuple)).or
    (latest writes ((provider, credential, none) : ScopeTuple))

/-- Of the rows without a model and with an empty one, the one written last. -/
def blankRow : Option ν :=
  if Prevails ((provider, credential, some "") : ScopeTuple) (provider, credential, none)
      (writes.map Prod.fst) then
    latest writes ((provider, credential, some "") : ScopeTuple)
  else latest writes ((provider, credential, none) : ScopeTuple)

/-- The row of the model, or the one without a model, where the empty model is
taken for none. -/
def confusedRow : Option ν :=
  if model = "" then blankRow writes provider credential
  else (latest writes ((provider, credential, some model) : ScopeTuple)).or
    (blankRow writes provider credential)

variable {writes provider credential model}

theorem blankRow_eq_none_iff :
    blankRow writes provider credential = none ↔
      latest writes ((provider, credential, some "") : ScopeTuple) = none ∧
        latest writes ((provider, credential, none) : ScopeTuple) = none := by
  unfold blankRow
  split_ifs with prevails
  · have written := latest_ne_none_iff.mpr prevails.mem
    exact ⟨fun none => absurd none written, fun none => none.1⟩
  · refine ⟨fun absent => ⟨?_, absent⟩, fun none => none.2⟩
    by_contra written
    apply prevails
    exact prevails_of_notMem (latest_ne_none_iff.mp written)
      fun member => latest_ne_none_iff.mpr member absent

theorem confusedRow_eq_none_iff :
    confusedRow writes provider credential model = none ↔
      latest writes ((provider, credential, some model) : ScopeTuple) = none ∧
        latest writes ((provider, credential, some "") : ScopeTuple) = none ∧
        latest writes ((provider, credential, none) : ScopeTuple) = none := by
  unfold confusedRow
  split_ifs with empty
  · rw [empty, blankRow_eq_none_iff]
    tauto
  · rw [Option.or_eq_none_iff, blankRow_eq_none_iff]

/-- The two rows that are looked up one after the other. -/
theorem or_eq_confusedRow {own blank : Option ν}
    (isBlank : blank = blankRow writes provider credential)
    (isOwn : model ≠ "" → own = latest writes ((provider, credential, some model) : ScopeTuple))
    (shared : model = "" → own = blank) :
    own.or blank = confusedRow writes provider credential model := by
  unfold confusedRow
  split_ifs with empty
  · rw [shared empty, Option.or_self, isBlank]
  · rw [isOwn empty, isBlank]

theorem modelRow_eq_none_of_confusedRow
    (absent : confusedRow writes provider credential model = none) :
    modelRow writes provider credential model = none := by
  obtain ⟨own, -, wide⟩ := confusedRow_eq_none_iff.mp absent
  rw [modelRow, own, wide, Option.or_none]

/-- A reader whose model is not confused finds the same row. -/
theorem ModelApart.row_eq
    (apart : ModelApart (writes.map Prod.fst) provider credential model) :
    modelRow writes provider credential model = confusedRow writes provider credential model := by
  unfold ModelApart at apart
  unfold modelRow confusedRow blankRow
  split_ifs at apart ⊢ with empty prevails prevails
  · subst empty
    have written := latest_ne_none_iff.mpr prevails.mem
    rw [Option.or_of_isSome (Option.isSome_iff_ne_none.mpr written)]
  · subst empty
    have absent : latest writes ((provider, credential, some "") : ScopeTuple) = none := by
      by_contra written
      exact prevails (apart (latest_ne_none_iff.mp written))
    rw [absent, Option.none_or]
  · have written := latest_ne_none_iff.mpr (apart prevails)
    rw [Option.or_of_isSome (Option.isSome_iff_ne_none.mpr written),
      Option.or_of_isSome (Option.isSome_iff_ne_none.mpr written)]
  · rfl

/-- Where the rows of a model tell other things than the ones without a model,
only a reader whose model is not confused is told the same. -/
theorem modelApart_of_told (told : Option ν → τ)
    (differs : latest writes ((provider, credential, some "") : ScopeTuple) ≠ none →
      told (latest writes ((provider, credential, some "") : ScopeTuple)) ≠
        told (latest writes ((provider, credential, none) : ScopeTuple)))
    (same : told (modelRow writes provider credential model) =
      told (confusedRow writes provider credential model)) :
    ModelApart (writes.map Prod.fst) provider credential model := by
  unfold ModelApart
  unfold modelRow confusedRow blankRow at same
  split_ifs at same ⊢ with empty prevails prevails
  · exact fun _ => prevails
  · intro member
    subst empty
    have written := latest_ne_none_iff.mpr member
    rw [Option.or_of_isSome (Option.isSome_iff_ne_none.mpr written)] at same
    exact absurd same (differs written)
  · intro _
    have written := latest_ne_none_iff.mpr prevails.mem
    by_contra notMember
    have absent : latest writes ((provider, credential, some model) : ScopeTuple) = none := by
      by_contra own
      exact notMember (latest_ne_none_iff.mp own)
    rw [absent, Option.none_or, Option.none_or] at same
    exact differs written same.symm
  · exact fun prevails' => absurd prevails' prevails

end Models

/-! ## What each store shows -/

section Agreement

variable {config : GatewayConfig} {engine : FallbackEngine} {calls : List EngineCall}
  {candidate : RouteCandidate}

/-! ### Health -/

/-- The row that the scope without a model and the empty model share. -/
theorem latest_blank_health (engine : FallbackEngine) (calls : List EngineCall)
    (provider : String) :
    latest (calls.filterMap (healthWrite sqliteScheme engine))
        ((provider, "") : String × String) =
      blankRow (healthRows engine calls) provider none := by
  have different : ((provider, none, some "") : ScopeTuple) ≠ (provider, none, none) := by simp
  rw [sqlite_healthWrites]
  refine latest_map_confused sqliteHealthKey different rfl ?_
  intro write member confused
  obtain ⟨call, -, written, key, -⟩ := mem_healthWrites_key member
  rw [key] at confused ⊢
  have parts : call.candidate.providerId = provider ∧ scopeKey written = "" := by
    simpa [sqliteHealthKey, scopeKey] using confused
  rw [parts.1]
  rcases eq_of_scopeKey_blank parts.2 with absent | empty
  · exact Or.inr (by rw [absent])
  · exact Or.inl (by rw [empty])

/-- The row of any other model is the same in both stores. -/
theorem latest_model_health (engine : FallbackEngine) (calls : List EngineCall)
    (provider : String) {model : String} (named : model ≠ "") :
    latest (calls.filterMap (healthWrite sqliteScheme engine))
        ((provider, model) : String × String) =
      latest (healthRows engine calls)
        ((provider, none, some model) : ScopeTuple) := by
  rw [sqlite_healthWrites]
  apply latest_map sqliteHealthKey ((provider, none, some model) : ScopeTuple)
  intro write member confused
  obtain ⟨call, -, written, key, -⟩ := mem_healthWrites_key member
  rw [key] at confused ⊢
  have parts : call.candidate.providerId = provider ∧ scopeKey written = model := by
    simpa [sqliteHealthKey, scopeKey] using confused
  rw [parts.1, eq_some_of_scopeKey named parts.2]

/-- No in-memory health row carries a credential. -/
theorem latest_health_credential_eq_none (engine : FallbackEngine) (calls : List EngineCall)
    (provider credential : String) (model : Option String) :
    latest (healthRows engine calls)
      ((provider, some credential, model) : ScopeTuple) = none := by
  apply latest_eq_none_iff.mpr
  intro write member equal
  obtain ⟨call, -, written, key, -⟩ := mem_healthWrites_key member
  rw [key] at equal
  cases equal

/-- The chain of a reader without a credential. -/
theorem firstHit_none {ν : Type} {rows : ScopeTuple → Option ν} {provider model : String} :
    firstHit rows [(provider, none, some model), (provider, none, some model),
        (provider, none, none), (provider, none, none)] =
      (rows (provider, none, some model)).or (rows (provider, none, none)) := by
  simp only [firstHit_cons, firstHit_nil, Option.or_none]
  rw [← Option.or_assoc, Option.or_self, Option.or_self]

/-- The chain of a reader where no row carries a credential. -/
theorem firstHit_keyless {ν : Type} {rows : ScopeTuple → Option ν} {provider model : String}
    (credential : Option String) (keyless : ∀ id model, rows (provider, some id, model) = none) :
    firstHit rows [(provider, credential, some model), (provider, none, some model),
        (provider, credential, none), (provider, none, none)] =
      (rows (provider, none, some model)).or (rows (provider, none, none)) := by
  cases credential with
  | some id => simp only [firstHit_cons, firstHit_nil, Option.or_none, keyless, Option.none_or]
  | none => exact firstHit_none

theorem inMemory_seenHealth (engine : FallbackEngine) (calls : List EngineCall)
    (candidate : RouteCandidate) :
    (inMemoryScoped.board (storeAfter .inMemory engine calls)).seenHealth (subject candidate) =
      modelRow (healthRows engine calls) candidate.providerId none
        candidate.concreteModel.modelId := by
  have seen : (inMemoryScoped.board (storeAfter .inMemory engine calls)).seenHealth
      (subject candidate) =
        firstHit (latest (healthRows engine calls))
          (InMemoryStateStore.fallbackKeys (subject candidate)) :=
    congrArg (firstHit · _) (healthRow_stateAfter_empty .inMemory engine calls)
  rw [seen]
  exact firstHit_keyless candidate.credentialId
    (latest_health_credential_eq_none engine calls candidate.providerId)

theorem firstHit_pair {κ ν : Type} {rows : κ → Option ν} {own wide : κ} :
    firstHit rows [own, wide] = (rows own).or (rows wide) := by
  simp only [firstHit_cons, firstHit_nil, Option.or_none]

theorem sqlite_seenHealth (engine : FallbackEngine) (calls : List EngineCall)
    (candidate : RouteCandidate) :
    (sqliteScoped.board (storeAfter .sqlite engine calls)).seenHealth (subject candidate) =
      confusedRow (healthRows engine calls) candidate.providerId none
        candidate.concreteModel.modelId := by
  have seen : (sqliteScoped.board (storeAfter .sqlite engine calls)).seenHealth
      (subject candidate) =
        firstHit (latest (calls.filterMap (healthWrite sqliteScheme engine)))
          (sqliteHealthChain (subject candidate)) :=
    congrArg (firstHit · _) (healthRow_stateAfter_empty .sqlite engine calls)
  rw [seen]
  refine firstHit_pair.trans (or_eq_confusedRow
    (latest_blank_health engine calls candidate.providerId)
    (latest_model_health engine calls candidate.providerId) ?_)
  intro empty
  rw [empty]

/-- What a health row tells its reader. -/
def toldHealth (row : Option HealthObservation) : HealthState := (row.map Prod.fst).getD .unknown

/-- A row of a model never tells what a row without a model tells. -/
theorem toldHealth_differs (engine : FallbackEngine) (calls : List EngineCall) (provider : String)
    (written : latest (healthRows engine calls)
      ((provider, none, some "") : ScopeTuple) ≠ none) :
    toldHealth (latest (healthRows engine calls)
        ((provider, none, some "") : ScopeTuple)) ≠
      toldHealth (latest (healthRows engine calls)
        ((provider, none, none) : ScopeTuple)) := by
  obtain ⟨own, isOwn⟩ := Option.ne_none_iff_exists'.mp written
  have ownTold := mem_healthWrites_told (mem_of_latest_eq_some isOwn)
  rw [isOwn]
  cases isWide : latest (healthRows engine calls)
      ((provider, none, none) : ScopeTuple) with
  | none => exact fun same => (ownTold.2 (by simp)).1 same
  | some wide =>
      have wideTold := mem_healthWrites_told (mem_of_latest_eq_some isWide)
      intro same
      exact (ownTold.2 (by simp)).2 (same.trans (wideTold.1 rfl))

/-! ### Quota -/

/-- The quota keys of one provider in SQLite tell its credentials apart. -/
theorem credential_of_scopeKey (overAll : OverCandidates config calls)
    (isCandidate : IsCandidate config candidate) {call : EngineCall} (inCalls : call ∈ calls)
    (provider : call.candidate.providerId = candidate.providerId)
    (same : scopeKey call.candidate.credentialId = scopeKey candidate.credentialId) :
    call.candidate.credentialId = candidate.credentialId := by
  have sameKind := (overAll call inCalls).credential_none_iff isCandidate provider
  cases own : call.candidate.credentialId with
  | none => exact (sameKind.mp own).symm
  | some value =>
      cases read : candidate.credentialId with
      | none =>
          rw [sameKind.mpr read] at own
          cases own
      | some other =>
          rw [own, read] at same
          exact congrArg some same

theorem latest_blank_quota (engine : FallbackEngine) (overAll : OverCandidates config calls)
    (isCandidate : IsCandidate config candidate) :
    latest (calls.filterMap (quotaWrite sqliteScheme engine))
        ((candidate.providerId, scopeKey candidate.credentialId, "") :
          String × String × String) =
      blankRow (quotaRows engine calls) candidate.providerId
        candidate.credentialId := by
  have different : ((candidate.providerId, candidate.credentialId, some "") : ScopeTuple) ≠
      (candidate.providerId, candidate.credentialId, none) := by simp
  rw [sqlite_quotaWrites]
  refine latest_map_confused sqliteQuotaKey different rfl ?_
  intro write member confused
  obtain ⟨call, inCalls, written, key, -⟩ := mem_quotaWrites_key member
  rw [key] at confused ⊢
  have parts : call.candidate.providerId = candidate.providerId ∧
      scopeKey call.candidate.credentialId = scopeKey candidate.credentialId ∧
        scopeKey written = "" := by
    simpa [sqliteQuotaKey, scopeKey] using confused
  rw [parts.1, credential_of_scopeKey overAll isCandidate inCalls parts.1 parts.2.1]
  rcases eq_of_scopeKey_blank parts.2.2 with absent | empty
  · exact Or.inr (by rw [absent])
  · exact Or.inl (by rw [empty])

theorem latest_model_quota (engine : FallbackEngine) (overAll : OverCandidates config calls)
    (isCandidate : IsCandidate config candidate) (model : String) (named : model ≠ "") :
    latest (calls.filterMap (quotaWrite sqliteScheme engine))
        ((candidate.providerId, scopeKey candidate.credentialId, model) :
          String × String × String) =
      latest (quotaRows engine calls)
        ((candidate.providerId, candidate.credentialId, some model) : ScopeTuple) := by
  rw [sqlite_quotaWrites]
  apply latest_map sqliteQuotaKey
    ((candidate.providerId, candidate.credentialId, some model) : ScopeTuple)
  intro write member confused
  obtain ⟨call, inCalls, written, key, -⟩ := mem_quotaWrites_key member
  rw [key] at confused ⊢
  have parts : call.candidate.providerId = candidate.providerId ∧
      scopeKey call.candidate.credentialId = scopeKey candidate.credentialId ∧
        scopeKey written = model := by
    simpa [sqliteQuotaKey, scopeKey] using confused
  rw [parts.1, credential_of_scopeKey overAll isCandidate inCalls parts.1 parts.2.1,
    eq_some_of_scopeKey named parts.2.2]

/-- A provider whose candidates carry credentials has no credential-less quota row. -/
theorem latest_quota_none_eq_none (engine : FallbackEngine)
    (overAll : OverCandidates config calls) (isCandidate : IsCandidate config candidate)
    (keyed : candidate.credentialId ≠ none) (model : Option String) :
    latest (quotaRows engine calls)
      ((candidate.providerId, none, model) : ScopeTuple) = none := by
  apply latest_eq_none_iff.mpr
  intro write member equal
  obtain ⟨call, inCalls, written, key, -⟩ := mem_quotaWrites_key member
  rw [key] at equal
  injection equal with provider scope
  injection scope with credential
  exact keyed (((overAll call inCalls).credential_none_iff isCandidate provider).mp credential)

/-- The chain of a reader with a credential where every row carries one. -/
theorem firstHit_keyed {ν : Type} {rows : ScopeTuple → Option ν} {provider id model : String}
    (keyed : ∀ model, rows (provider, none, model) = none) :
    firstHit rows [(provider, some id, some model), (provider, none, some model),
        (provider, some id, none), (provider, none, none)] =
      (rows (provider, some id, some model)).or (rows (provider, some id, none)) := by
  simp only [firstHit_cons, firstHit_nil, Option.or_none, keyed, Option.none_or]

theorem inMemory_seenQuota (engine : FallbackEngine) (overAll : OverCandidates config calls)
    (isCandidate : IsCandidate config candidate) :
    (inMemoryScoped.board (storeAfter .inMemory engine calls)).seenQuota (subject candidate) =
      modelRow (quotaRows engine calls) candidate.providerId
        candidate.credentialId candidate.concreteModel.modelId := by
  have seen : (inMemoryScoped.board (storeAfter .inMemory engine calls)).seenQuota
      (subject candidate) =
        firstHit (latest (quotaRows engine calls))
          (InMemoryStateStore.fallbackKeys (subject candidate)) :=
    congrArg (firstHit · _) (quotaRow_stateAfter_empty .inMemory engine calls)
  rw [seen]
  cases credential : candidate.credentialId with
  | some id =>
      simp only [InMemoryStateStore.fallbackKeys, subject, credential]
      exact firstHit_keyed
        (latest_quota_none_eq_none engine overAll isCandidate (by simp [credential]))
  | none =>
      simp only [InMemoryStateStore.fallbackKeys, subject, credential]
      exact firstHit_none

/-- The row that SQLite consults last for a key: the one without a key, which is
shared with the empty key. -/
def keylessRow (engine : FallbackEngine) (calls : List EngineCall) (candidate : RouteCandidate) :
    Option QuotaObservation :=
  match candidate.credentialId with
  | some id =>
      if id = "" then none
      else latest (calls.filterMap (quotaWrite sqliteScheme engine))
        ((candidate.providerId, "", "") : String × String × String)
  | none => none

theorem firstHit_triple {κ ν : Type} {rows : κ → Option ν} {own wide last : κ} :
    firstHit rows [own, wide, last] = ((rows own).or (rows wide)).or (rows last) := by
  simp only [firstHit_cons, firstHit_nil, Option.or_none, Option.or_assoc]

theorem firstHit_same {κ ν : Type} {rows : κ → Option ν} {own wide : κ} :
    firstHit rows [own, wide, wide] = ((rows own).or (rows wide)).or none := by
  simp only [firstHit_cons, firstHit_nil, Option.or_none, Option.or_self]

theorem sqlite_seenQuota (engine : FallbackEngine) (overAll : OverCandidates config calls)
    (isCandidate : IsCandidate config candidate) :
    (sqliteScoped.board (storeAfter .sqlite engine calls)).seenQuota (subject candidate) =
      (confusedRow (quotaRows engine calls) candidate.providerId
        candidate.credentialId candidate.concreteModel.modelId).or
          (keylessRow engine calls candidate) := by
  have seen : (sqliteScoped.board (storeAfter .sqlite engine calls)).seenQuota
      (subject candidate) =
        firstHit (latest (calls.filterMap (quotaWrite sqliteScheme engine)))
          (sqliteQuotaChain (subject candidate)) :=
    congrArg (firstHit · _) (quotaRow_stateAfter_empty .sqlite engine calls)
  have blank := latest_blank_quota engine overAll isCandidate
  have own := or_eq_confusedRow (latest_blank_quota engine overAll isCandidate)
    (latest_model_quota engine overAll isCandidate candidate.concreteModel.modelId)
    fun empty => by rw [empty]
  rw [seen, ← own]
  unfold keylessRow
  cases credential : candidate.credentialId with
  | none =>
      simp only [sqliteQuotaChain, subject, credential, Option.or_none]
      exact firstHit_pair
  | some id =>
      simp only [sqliteQuotaChain, subject, credential]
      split_ifs with empty
      · subst empty
        exact firstHit_same
      · exact firstHit_triple

def toldQuota (row : Option QuotaObservation) : QuotaState := (row.map Prod.fst).getD .unknown

theorem toldQuota_differs (engine : FallbackEngine) (calls : List EngineCall) (provider : String)
    (credential : Option String)
    (written : latest (quotaRows engine calls)
      ((provider, credential, some "") : ScopeTuple) ≠ none) :
    toldQuota (latest (quotaRows engine calls)
        ((provider, credential, some "") : ScopeTuple)) ≠
      toldQuota (latest (quotaRows engine calls)
        ((provider, credential, none) : ScopeTuple)) := by
  obtain ⟨own, isOwn⟩ := Option.ne_none_iff_exists'.mp written
  have ownTold := (mem_quotaWrites_told (mem_of_latest_eq_some isOwn)).2 (by simp)
  have own' : toldQuota (some own) = .rateLimited := ownTold
  rw [isOwn, own']
  cases isWide : latest (quotaRows engine calls)
      ((provider, credential, none) : ScopeTuple) with
  | none => simp [toldQuota]
  | some wide =>
      have wideTold := (mem_quotaWrites_told (mem_of_latest_eq_some isWide)).1 rfl
      have wide' : toldQuota (some wide) = .exhausted := wideTold
      rw [wide']
      decide

/-- A write to the row that the empty key shares, as a scope of the empty key. -/
theorem keyless_of_scopeKeys (overAll : OverCandidates config calls)
    (isCandidate : IsCandidate config candidate) (keyed : candidate.credentialId ≠ none)
    {write : ScopeTuple × QuotaObservation}
    (member : write ∈ quotaRows engine calls)
    (isKey : sqliteQuotaKey write.1 = (candidate.providerId, "", "")) :
    write.1 = (candidate.providerId, some "", none) ∨
      write.1 = (candidate.providerId, some "", some "") := by
  obtain ⟨call, inCalls, written, key, -⟩ := mem_quotaWrites_key member
  rw [key] at isKey ⊢
  have parts : call.candidate.providerId = candidate.providerId ∧
      scopeKey call.candidate.credentialId = "" ∧ scopeKey written = "" := by
    simpa [sqliteQuotaKey] using isKey
  have sameKind := (overAll call inCalls).credential_none_iff isCandidate parts.1
  have own : call.candidate.credentialId = some "" := by
    rcases eq_of_scopeKey_blank parts.2.1 with absent | own
    · exact absurd (sameKind.mp absent) keyed
    · exact own
  rw [parts.1, own]
  rcases eq_of_scopeKey_blank parts.2.2 with absent | blank
  · exact Or.inl (by rw [absent])
  · exact Or.inr (by rw [blank])

theorem latest_keyless_ne_none_iff (engine : FallbackEngine) (calls : List EngineCall)
    (provider : String) :
    latest (calls.filterMap (quotaWrite sqliteScheme engine))
        ((provider, "", "") : String × String × String) ≠ none ↔
      ∃ write ∈ quotaRows engine calls,
        sqliteQuotaKey write.1 = (provider, "", "") := by
  rw [sqlite_quotaWrites]
  exact latest_map_ne_none_iff sqliteQuotaKey

theorem keylessRow_ne_none_iff (engine : FallbackEngine) (overAll : OverCandidates config calls)
    (isCandidate : IsCandidate config candidate) :
    keylessRow engine calls candidate ≠ none ↔
      ∃ id, candidate.credentialId = some id ∧ id ≠ "" ∧
        ((candidate.providerId, some "", none) ∈ quotaScopes engine calls ∨
          (candidate.providerId, some "", some "") ∈ quotaScopes engine calls) := by
  cases credential : candidate.credentialId with
  | none => simp [keylessRow, credential]
  | some id =>
      by_cases empty : id = ""
      · simp [keylessRow, credential, empty]
      · have isRow : keylessRow engine calls candidate =
            latest (calls.filterMap (quotaWrite sqliteScheme engine))
              ((candidate.providerId, "", "") : String × String × String) := by
          simp only [keylessRow, credential, if_neg empty]
        rw [isRow]
        refine (latest_keyless_ne_none_iff engine calls candidate.providerId).trans ?_
        constructor
        · rintro ⟨write, member, isKey⟩
          have isScope : write.1 ∈ quotaScopes engine calls := List.mem_map_of_mem member
          refine ⟨id, rfl, empty, ?_⟩
          rcases keyless_of_scopeKeys overAll isCandidate (by simp [credential]) member isKey with
            wide | own
          · exact Or.inl (wide ▸ isScope)
          · exact Or.inr (own ▸ isScope)
        · rintro ⟨-, -, -, wide | own⟩
          · obtain ⟨write, member, isScope⟩ := List.mem_map.mp wide
            exact ⟨write, member, by rw [isScope]; rfl⟩
          · obtain ⟨write, member, isScope⟩ := List.mem_map.mp own
            exact ⟨write, member, by rw [isScope]; rfl⟩

theorem toldQuota_keylessRow (engine : FallbackEngine) (calls : List EngineCall)
    (candidate : RouteCandidate) (written : keylessRow engine calls candidate ≠ none) :
    toldQuota (keylessRow engine calls candidate) ≠ .unknown := by
  obtain ⟨row, isRow⟩ := Option.ne_none_iff_exists'.mp written
  have found : latest (calls.filterMap (quotaWrite sqliteScheme engine))
      ((candidate.providerId, "", "") : String × String × String) = some row := by
    unfold keylessRow at isRow
    split at isRow
    · split_ifs at isRow
      exact isRow
    · cases isRow
  rw [sqlite_quotaWrites] at found
  obtain ⟨write, member, same⟩ := List.mem_map.mp (mem_of_latest_eq_some found)
  have told := mem_quotaWrites_told member
  rw [isRow, ← (Prod.mk.inj same).2]
  change write.2.1 ≠ .unknown
  cases scope : write.1.2.2 with
  | none =>
      rw [told.1 scope]
      decide
  | some model =>
      rw [told.2 (by simp [scope])]
      decide

theorem keyApart_iff (engine : FallbackEngine) (overAll : OverCandidates config calls)
    (isCandidate : IsCandidate config candidate) :
    KeyApart (quotaScopes engine calls) candidate.providerId candidate.credentialId
        candidate.concreteModel.modelId ↔
      (keylessRow engine calls candidate ≠ none →
        confusedRow (quotaRows engine calls) candidate.providerId
          candidate.credentialId candidate.concreteModel.modelId ≠ none) := by
  rw [keylessRow_ne_none_iff engine overAll isCandidate, Ne, confusedRow_eq_none_iff, not_and_or,
    not_and_or]
  simp only [← Ne.eq_def, latest_ne_none_iff]
  constructor
  · rintro apart ⟨id, isId, nonempty, shared⟩
    exact apart id isId nonempty shared
  · intro own id isId nonempty shared
    exact own ⟨id, isId, nonempty, shared⟩

end Agreement

end AutoRouteGateway.Routing
