import AutoRouteGateway.Routing.CapabilityGate
import AutoRouteGateway.Service.Failure
import AutoRouteGateway.Service.Payload

/-!
Contract: the service, its adapters, and the candidates of one request.

Owns: adapter construction, adapter and secret lookup, and the pipeline from a
payload to the scored list that `chat` and `chat_stream` share.

Does not own: what adapters do. Their behaviour is `Upstream`, one answer for
each attempt, which may depend on the attempt number, the candidate, the secret
it is called with and the shared store, and may leave that store changed by
other requests.
-/

namespace AutoRouteGateway.Service

open AutoRouteGateway.Config
open AutoRouteGateway.Domain
open AutoRouteGateway.Library
open AutoRouteGateway.Policy
open AutoRouteGateway.Routing
open AutoRouteGateway.Runtime
open AutoRouteGateway.State

/-! ## Adapters -/

/-- The provider type is a key of `ADAPTER_FACTORIES`. -/
def hasFactory : ProviderType → Bool
  | .openaiCompatible | .amd | .modelscope | .opencode | .gemini => true
  | .executor | .unregistered _ => false

/-- The providers that were given an adapter, and those given an executor. -/
structure Adapters where
  adapters : List String := []
  executors : List String := []
deriving DecidableEq, Repr

/-- Construction stops with the first enabled provider of an unregistered type. -/
def buildAdapters (codexEnabled : Bool) :
    List (String × ProviderConfig) → Except ProviderType Adapters
  | [] => .ok {}
  | (pid, provider) :: rest =>
      if provider.enabled = false then buildAdapters codexEnabled rest
      else if provider.type = .executor then
        match buildAdapters codexEnabled rest with
        | .error error => .error error
        | .ok built =>
            if codexEnabled = true ∧ pid = "codex" then
              .ok { built with executors := pid :: built.executors }
            else .ok built
      else if hasFactory provider.type = false then .error provider.type
      else
        match buildAdapters codexEnabled rest with
        | .error error => .error error
        | .ok built => .ok { built with adapters := pid :: built.adapters }

/-- A constructed service. -/
structure GatewayService where
  config : GatewayConfig
  resolver : SecretResolver
  built : Adapters
  isBuilt : buildAdapters config.codexEnabled config.providers.rows = .ok built

/-- The enabled providers that are no executors are the ones with an adapter. -/
theorem mem_adapters_of_buildAdapters {codexEnabled : Bool}
    {rows : List (String × ProviderConfig)} {built : Adapters}
    (isBuilt : buildAdapters codexEnabled rows = .ok built) {pid : String} :
    pid ∈ built.adapters ↔
      ∃ row ∈ rows, row.1 = pid ∧ row.2.enabled = true ∧ row.2.type ≠ .executor := by
  induction rows generalizing built with
  | nil =>
      cases isBuilt
      simp
  | cons row rest inductionHypothesis =>
      obtain ⟨own, provider⟩ := row
      unfold buildAdapters at isBuilt
      by_cases disabled : provider.enabled = false
      · rw [if_pos disabled] at isBuilt
        simp [inductionHypothesis isBuilt, disabled]
      · rw [if_neg disabled] at isBuilt
        have enabled : provider.enabled = true := by simpa using disabled
        by_cases executor : provider.type = .executor
        · rw [if_pos executor] at isBuilt
          split at isBuilt
          · cases isBuilt
          · rename_i later isLater
            have tail := inductionHypothesis isLater
            split_ifs at isBuilt <;> cases isBuilt <;> simp [tail, executor]
        · rw [if_neg executor] at isBuilt
          split_ifs at isBuilt
          split at isBuilt
          · cases isBuilt
          · rename_i later isLater
            cases isBuilt
            simp only [List.mem_cons, inductionHypothesis isLater, exists_eq_or_imp]
            constructor
            · intro member
              rcases member with same | later
              · exact Or.inl ⟨same.symm, enabled, executor⟩
              · exact Or.inr later
            · intro member
              rcases member with ⟨same, -⟩ | later
              · exact Or.inl same.symm
              · exact Or.inr later

/-- One route `v` to the default model of one OpenAI-compatible provider. -/
def singleProviderConfig (keys : List KeyConfig) : GatewayConfig where
  routes := UpsertTable.empty.upsert "v" ⟨[⟨"p", none⟩]⟩
  providers := UpsertTable.empty.upsert "p"
    { id := "p"
      type := .openaiCompatible
      baseUrl := some "u"
      models := [{ id := "m", capabilities := {.text, .usage} }]
      keys := keys }
  idsMatch := idsMatch_single rfl

/-- The service over one provider, with the given keys and variables. -/
def singleProviderService (keys : List KeyConfig) (resolver : SecretResolver) :
    GatewayService where
  config := singleProviderConfig keys
  resolver := resolver
  built := ⟨["p"], []⟩
  isBuilt := rfl

/-- One key, whose variable is set. -/
def keyedService (secret : String) : GatewayService :=
  singleProviderService [{ id := "k", env := "K" }] ⟨UpsertTable.empty.upsert "K" secret, .empty⟩

namespace GatewayService

variable (service : GatewayService)

/-- `adapter_for` finds an adapter. -/
def hasAdapter (candidate : RouteCandidate) : Bool :=
  decide (candidate.providerId ∈ service.built.adapters)

/-- `executor_for` finds an executor. -/
def hasExecutor (candidate : RouteCandidate) : Bool :=
  decide (candidate.providerId ∈ service.built.executors)

/-- The secret of the first key with the credential's id. -/
def secret (candidate : RouteCandidate) : Except SecretError String :=
  match service.config.providers.get? candidate.providerId with
  | none => .error (.unknownProvider candidate.providerId)
  | some provider =>
      match provider.keys.find? fun key => some key.id = candidate.credentialId with
      | none => .error .unknownKey
      | some key =>
          match service.resolver.resolve key.env with
          | none => .error (.missing key.env)
          | some value => .ok value

variable {service}

/-- A secret that resolves belongs to a credential. -/
theorem credential_of_secret {candidate : RouteCandidate} {secret : String}
    (resolved : service.secret candidate = .ok secret) : candidate.credentialId ≠ none := by
  intro keyless
  unfold GatewayService.secret at resolved
  split at resolved
  · cases resolved
  · split at resolved
    · cases resolved
    · rename_i key found
      have isKey := List.find?_some found
      rw [keyless, decide_eq_true_iff] at isKey
      cases isKey

/-- The candidates with an adapter are the api candidates. -/
theorem hasAdapter_iff {candidate : RouteCandidate}
    (isCandidate : IsCandidate service.config candidate) :
    service.hasAdapter candidate = true ↔ candidate.executorType = .api := by
  obtain ⟨built⟩ := isCandidate.builtFrom
  have ownEntry : ∀ row ∈ service.config.providers.rows, row.1 = candidate.providerId →
      row.2 = built.provider := by
    intro row member pid
    have found := lookupRows_eq_some_of_mem service.config.providers.keysNodup member
    rw [pid] at found
    exact Option.some.inj (found.symm.trans built.configured)
  unfold hasAdapter
  rw [decide_eq_true_iff, mem_adapters_of_buildAdapters service.isBuilt]
  rcases built.shape with ⟨executor, cli, -⟩ | ⟨notExecutor, api, -⟩
  · apply iff_of_false
    · intro listed
      obtain ⟨row, member, pid, -, other⟩ := listed
      exact other (ownEntry row member pid ▸ executor)
    · rw [cli]
      exact nofun
  · apply iff_of_true _ api
    obtain ⟨row, member, pid, same⟩ := mem_of_lookupRows_eq_some built.configured
    exact ⟨row, member, pid, same ▸ built.enabled, same ▸ notExecutor⟩

end GatewayService

/-! ## Upstream behaviour -/

/-- The answer to one non-streaming call of an adapter. `unreadable` is a
success body that cannot be read as a dictionary. -/
inductive ApiReply where
  | body (fields : Dict)
  | unreadable (text : String)
  | raised (exception : UpstreamException)

/-- The result of one executor call: the response made from an ok result, the
text raised while making it, the message of a result that is not ok, or an
exception. -/
inductive ExecutorReply where
  | completed (response : Dict)
  | unreadable (text : String)
  | refused (message : Option String)
  | raised (exception : UpstreamException)

/-- The events of one stream and how it ends after them: cleanly, or raising. -/
structure UpstreamStream where
  events : List Event
  ending : Option UpstreamException

/-- What the n-th attempt of a request meets, and the store it leaves. -/
structure Upstream (σ : Type) where
  chatCompletions : Nat → RouteCandidate → (secret : String) → σ → ApiReply × σ
  execute : Nat → RouteCandidate → σ → ExecutorReply × σ
  chatCompletionsStream : Nat → RouteCandidate → (secret : String) → σ → UpstreamStream × σ

/-- Every attempt gets the same answer, and nothing else writes to the store. -/
def Upstream.constant (σ : Type) (reply : ApiReply) (executed : ExecutorReply)
    (stream : UpstreamStream) : Upstream σ where
  chatCompletions := fun _ _ _ s => (reply, s)
  execute := fun _ _ s => (executed, s)
  chatCompletionsStream := fun _ _ _ s => (stream, s)

/-! ## The candidates of one request -/

/-- Requirement, enumeration, gate and scores, in this order, and the counter
after the enumeration. -/
def scoredCandidates {σ : Type} (S : StateStore σ) (service : GatewayService)
    (virtualModel : String) (payload : Dict) (counter : Nat) (s : σ) :
    Except ServiceError (List ScoredCandidate) × Nat :=
  match capabilitiesFromPayload payload with
  | .error text => (.error (.payload text), counter)
  | .ok required =>
      match buildCandidates virtualModel service.config counter with
      | (.error error, counter) => (.error (.unknownVirtualModel error), counter)
      | (.ok candidates, counter) =>
          match capabilityGate candidates required with
          | [] => (.error (.requestValidation required virtualModel), counter)
          | gated => (.ok (scoreCandidates S s gated), counter)

/-- Every scored candidate is an enumerated one. -/
theorem isCandidate_of_mem_scoredCandidates {σ : Type} {S : StateStore σ}
    {service : GatewayService} {virtualModel : String} {payload : Dict} {counter : Nat} {s : σ}
    {scored : List ScoredCandidate} {sc : ScoredCandidate}
    (isScored : (scoredCandidates S service virtualModel payload counter s).1 = .ok scored)
    (member : sc ∈ scored) : IsCandidate service.config sc.candidate := by
  unfold scoredCandidates at isScored
  split at isScored
  · cases isScored
  · split at isScored
    · cases isScored
    · rename_i candidates counter' build
      split at isScored
      · cases isScored
      · cases isScored
        obtain ⟨candidate, gated, rfl⟩ := mem_scoreCandidates.mp member
        exact ⟨virtualModel, counter, candidates, by rw [build], (mem_capabilityGate.mp gated).1⟩

end AutoRouteGateway.Service
