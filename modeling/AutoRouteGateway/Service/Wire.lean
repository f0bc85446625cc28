import AutoRouteGateway.Providers.HttpAdapters
import AutoRouteGateway.Service.OwnSecret
import AutoRouteGateway.Service.StoreDouble

/-!
Contract: what leaves the gateway over HTTP.

An attempt is one adapter call, and an adapter call sends one request at most.
So the requests that leave the process are those of the questions the requests
of the pool wait with, and the protocol of a request says which those can be.

Owns: the adapter of a candidate, the attempts of both entries up to the HTTP
client, and where their requests may go.
-/

namespace AutoRouteGateway.Service

open AutoRouteGateway.Config
open AutoRouteGateway.Domain
open AutoRouteGateway.Library
open AutoRouteGateway.Library.Coroutine
open AutoRouteGateway.Providers
open AutoRouteGateway.Routing
open AutoRouteGateway.Runtime
open AutoRouteGateway.State

/-! ## The adapter of a candidate -/

/-- Every type of an enabled provider has a factory, unless it is the executor. -/
theorem hasFactory_of_buildAdapters {codexEnabled : Bool}
    {rows : List (String × ProviderConfig)} {built : Adapters}
    (isBuilt : buildAdapters codexEnabled rows = .ok built) {row : String × ProviderConfig}
    (member : row ∈ rows) (enabled : row.2.enabled = true) (api : row.2.type ≠ .executor) :
    hasFactory row.2.type = true := by
  induction rows generalizing built with
  | nil => cases member
  | cons head rest inductionHypothesis =>
      obtain ⟨own, provider⟩ := head
      unfold buildAdapters at isBuilt
      rcases List.mem_cons.mp member with isHead | later
      · subst isHead
        rw [if_neg (by simp [show provider.enabled = true from enabled]), if_neg api] at isBuilt
        split_ifs at isBuilt with registered
        exact Bool.eq_true_of_not_eq_false registered
      · split_ifs at isBuilt
        · exact inductionHypothesis isBuilt later
        all_goals
          split at isBuilt
          · cases isBuilt
          · rename_i built' isLater
            exact inductionHypothesis isLater later

namespace GatewayService

variable (service : GatewayService)

/-- `self._adapters[candidate.provider_id]`, as `_build_adapters` has built it. -/
def adapterFor (candidate : RouteCandidate) : Option ProviderAdapter :=
  match service.config.providers.get? candidate.providerId with
  | none => none
  | some provider =>
      if service.hasAdapter candidate = false then none
      else buildAdapter provider.type candidate.providerId (provider.baseUrl.getD "")

/-- The lookup of the model finds an adapter where `hasAdapter` says so. -/
theorem isSome_adapterFor (candidate : RouteCandidate) :
    (service.adapterFor candidate).isSome = service.hasAdapter candidate := by
  unfold adapterFor
  cases listed : service.hasAdapter candidate with
  | false => split <;> rfl
  | true =>
      obtain ⟨row, member, pid, enabled, api⟩ :=
        (mem_adapters_of_buildAdapters service.isBuilt).mp (of_decide_eq_true listed)
      have configured : service.config.providers.get? candidate.providerId = some row.2 := by
        rw [← pid]
        exact lookupRows_eq_some_of_mem service.config.providers.keysNodup member
      rw [configured]
      dsimp only
      rw [if_neg (by simp), isSome_buildAdapter,
        hasFactory_of_buildAdapters service.isBuilt member enabled api]

end GatewayService

/-! ## Attempts up to the client -/

section Attempts

variable (service : GatewayService) (reader : BodyReader)

/-- What `attempt` makes of the adapter's answer. -/
def replyOutcome (virtualModel : String) : ApiReply → AttemptOutcome Dict
  | .raised exception => .failed (candidateFailure exception)
  | .unreadable text => .raised text
  | .body fields => .returned (withModel virtualModel fields)

/-- `attempt` of `chat` on an api candidate. -/
def apiAttempt (virtualModel : String) (payload : Dict) (candidate : RouteCandidate) :
    HttpCall (AttemptOutcome Dict) :=
  match service.adapterFor candidate with
  | none => .unsent (.raised (quoted candidate.providerId))
  | some adapter =>
      match service.secret candidate with
      | .error error => .unsent (.raised error.text)
      | .ok secret =>
          (adapter.chatCompletions reader payload secret candidate.concreteModel.modelId).map
            (replyOutcome virtualModel)

/-- The stream `chat_stream` opens on a candidate it has prepared. -/
def streamContact (payload : Dict) (candidate : RouteCandidate) (secret : String) :
    Option (HttpCall UpstreamStream) :=
  (service.adapterFor candidate).map fun adapter =>
    adapter.chatCompletionsStream reader payload secret candidate.concreteModel.modelId

/-- The upstream a payload meets: the adapters over a client, which may answer
each attempt differently, while other requests change the store. -/
def wireUpstream {σ : Type} (payload : Dict) (client : Nat → HttpClient) (others : Nat → σ → σ)
    (execute : Nat → RouteCandidate → σ → ExecutorReply × σ) : Upstream σ where
  chatCompletions := fun number candidate secret s =>
    match service.adapterFor candidate with
    | none => (.unreadable "", s)
    | some adapter =>
        ((adapter.chatCompletions reader payload secret candidate.concreteModel.modelId).run
          (client number), others number s)
  execute := execute
  chatCompletionsStream := fun number candidate secret s =>
    match streamContact service reader payload candidate secret with
    | none => (⟨[], none⟩, s)
    | some call => (call.run (client number), others number s)

/-- Over the client, an attempt of `chat` comes to what its call makes of the answer. -/
theorem attemptApi_wire {σ : Type} (virtualModel : String) (payload : Dict)
    (client : Nat → HttpClient) (others : Nat → σ → σ)
    (execute : Nat → RouteCandidate → σ → ExecutorReply × σ) (number : Nat)
    (candidate : RouteCandidate) (s : σ) :
    (attemptApi service (wireUpstream service reader payload client others execute) virtualModel
      number candidate s).1 =
      (apiAttempt service reader virtualModel payload candidate).run (client number) := by
  have found := service.isSome_adapterFor candidate
  unfold attemptApi apiAttempt
  cases isAdapter : service.adapterFor candidate with
  | none =>
      rw [isAdapter, Option.isSome_none] at found
      rw [if_pos found.symm]
      rfl
  | some adapter =>
      rw [isAdapter, Option.isSome_some] at found
      rw [if_neg (by simp [← found])]
      dsimp only
      cases service.secret candidate with
      | error error => rfl
      | ok secret =>
          dsimp only
          rw [HttpCall.run_map]
          simp only [wireUpstream, isAdapter]
          split <;> rename_i reply <;> simp only [Prod.mk.injEq] at reply <;>
            rw [reply.1] <;> rfl

/-- The HTTP request that a question of a request sends. -/
def requestSent (virtualModel : String) (payload : Dict) : Question → Option HttpRequest
  | .call _ _ candidate _ =>
      match candidate.executorType with
      | .cli => none
      | .api => (apiAttempt service reader virtualModel payload candidate).request?
  | .contact _ candidate secret _ =>
      (streamContact service reader payload candidate secret).bind HttpCall.request?
  | _ => none

end Attempts

/-! ## Where requests go -/

section Outbound

variable (service : GatewayService) (reader : BodyReader)

/-- A request as an adapter of the type sends it: to an endpoint under the base
URL, with the secret in the adapter's own header, and with the payload, up to
the fields that name the model and the stream. -/
def SentAs (payload : Dict) (baseUrl secret modelId : String) (sent : HttpRequest) :
    ProviderType → Prop
  | .gemini =>
      (sent.url = baseUrl ++ "/models/" ++ modelId ++ ":generateContent" ∨
          sent.url = baseUrl ++ "/models/" ++ modelId ++ ":streamGenerateContent?alt=sse") ∧
        sent.headers = [("x-goog-api-key", secret)] ∧
        toGemini reader.codec payload = .ok sent.body
  | _ =>
      sent.url = baseUrl ++ "/chat/completions" ∧
        sent.headers = [("Authorization", "Bearer " ++ secret),
          ("User-Agent", OpenAiCompatibleAdapter.userAgent)] ∧
        Dict.get? "model" sent.body = some (.str modelId) ∧
        ∀ name, name ≠ "model" → name ≠ "stream" →
          Dict.get? name sent.body = Dict.get? name payload

/-- The request goes to a provider that a step of the route names, with the
secret of a key of this provider, for the model of the step, which covers what
the payload requires. -/
structure GoesOut (virtualModel : String) (payload : Dict) (sent : HttpRequest)
    (provider : ProviderConfig) (key : KeyConfig) (secret : String) (model : ModelConfig) :
    Prop where
  routed : ∃ route, service.config.routes.get? virtualModel = some route ∧
    ∃ step ∈ route.steps, service.config.providers.get? step.provider = some provider ∧
      provider.model step.model = some model
  enabled : provider.enabled = true
  isKey : key ∈ provider.keys
  resolves : service.resolver.resolve key.env = some secret
  covers : ∃ required, capabilitiesFromPayload payload = .ok required ∧
    required ⊆ model.capabilities
  sentAs : SentAs reader payload (stripSlashes (provider.baseUrl.getD "")) secret model.id sent
    provider.type

/-- Whatever the question sends goes out as configured. -/
def Confined (virtualModel : String) (payload : Dict) (question : Question) : Prop :=
  ∀ sent, requestSent service reader virtualModel payload question = some sent →
    ∃ provider key secret model,
      GoesOut service reader virtualModel payload sent provider key secret model

variable {service reader} {virtualModel : String} {payload : Dict} {sent : HttpRequest}
  {candidate : RouteCandidate} {secret : String}

theorem sentAs_of_buildAdapter {kind : ProviderType} {providerId baseUrl modelId : String}
    {adapter : ProviderAdapter} (isBuilt : buildAdapter kind providerId baseUrl = some adapter)
    (sends : (adapter.chatCompletions reader payload secret modelId).request? = some sent ∨
      (adapter.chatCompletionsStream reader payload secret modelId).request? = some sent) :
    SentAs reader payload (stripSlashes baseUrl) secret modelId sent kind := by
  have compatible : adapter = .openAiCompatible (.make providerId baseUrl) →
      sent.url = stripSlashes baseUrl ++ "/chat/completions" ∧
        sent.headers = OpenAiCompatibleAdapter.headers secret ∧
        Dict.get? "model" sent.body = some (.str modelId) ∧
        ∀ name, name ≠ "model" → name ≠ "stream" →
          Dict.get? name sent.body = Dict.get? name payload := by
    intro isOpenAi
    subst isOpenAi
    rcases sends with sends | sends <;> cases sends
    · refine ⟨rfl, rfl, ?_, ?_⟩
      · rw [get?_setField, if_pos rfl]
      · intro name notModel _
        rw [get?_setField, if_neg notModel]
    · refine ⟨rfl, rfl, ?_, ?_⟩
      · rw [get?_setField, if_neg (by decide), get?_setField, if_pos rfl]
      · intro name notModel notStream
        rw [get?_setField, if_neg notStream, get?_setField, if_neg notModel]
  cases kind with
  | gemini =>
      cases isBuilt
      rcases sends with sends | sends
      · unfold ProviderAdapter.chatCompletions GeminiAdapter.chatCompletions at sends
        cases converted : toGemini reader.codec payload with
        | error exception =>
            rw [converted] at sends
            cases sends
        | ok body =>
            rw [converted] at sends
            cases sends
            exact ⟨Or.inl rfl, rfl, converted⟩
      · unfold ProviderAdapter.chatCompletionsStream GeminiAdapter.streamCall at sends
        cases converted : toGemini reader.codec payload with
        | error exception =>
            rw [converted] at sends
            cases sends
        | ok body =>
            rw [converted] at sends
            cases sends
            exact ⟨Or.inr rfl, rfl, converted⟩
  | openaiCompatible => exact compatible (Option.some.inj isBuilt).symm
  | amd => exact compatible (Option.some.inj isBuilt).symm
  | modelscope => exact compatible (Option.some.inj isBuilt).symm
  | opencode => exact compatible (Option.some.inj isBuilt).symm
  | executor => cases isBuilt
  | unregistered name => cases isBuilt

/-- A listed candidate's requests go to its provider, with a key of it. -/
theorem goesOut_of_listed {key : KeyConfig}
    (made : MadeFrom service.config virtualModel candidate key) {required : CapabilitySet}
    (derived : capabilitiesFromPayload payload = .ok required)
    (covers : required ⊆ candidate.capabilities)
    (resolved : service.secret candidate = .ok secret) {adapter : ProviderAdapter}
    (found : service.adapterFor candidate = some adapter)
    (sends : (adapter.chatCompletions reader payload secret
        candidate.concreteModel.modelId).request? = some sent ∨
      (adapter.chatCompletionsStream reader payload secret
        candidate.concreteModel.modelId).request? = some sent) :
    ∃ provider key secret model,
      GoesOut service reader virtualModel payload sent provider key secret model := by
  obtain ⟨route, routed, step, isStep, provider, model, configured, enabled, api, isModel, -,
    isMade⟩ := made
  have own : service.config.providers.get? candidate.providerId = some provider := by
    rw [isMade]
    change service.config.providers.get? provider.id = some provider
    rw [service.config.idsMatch _ _ configured]
    exact configured
  have isSecret := resolved
  unfold GatewayService.secret at isSecret
  rw [own] at isSecret
  dsimp only at isSecret
  split at isSecret
  · cases isSecret
  · rename_i used isUsed
    split at isSecret
    · cases isSecret
    · rename_i resolves
      cases isSecret
      refine ⟨provider, used, secret, model, ⟨route, routed, step, isStep, configured, isModel⟩,
        enabled, List.mem_of_find?_eq_some isUsed, resolves, ⟨required, derived, ?_⟩, ?_⟩
      · rw [isMade] at covers
        exact covers
      · unfold GatewayService.adapterFor at found
        rw [own] at found
        dsimp only at found
        split_ifs at found
        rw [isMade] at sends
        exact sentAs_of_buildAdapter found sends

/-- What an attempt on a listed candidate sends goes out as configured. -/
theorem confined_of_scored {σ : Type} {S : StateStore σ} {counter : Nat} {s : σ}
    {scored : List ScoredCandidate}
    (isScored : (scoredCandidates S service virtualModel payload counter s).1 = .ok scored)
    (listed : candidate ∈ scored.map ScoredCandidate.candidate)
    (resolved : service.secret candidate = .ok secret) {adapter : ProviderAdapter}
    (found : service.adapterFor candidate = some adapter)
    (sends : (adapter.chatCompletions reader payload secret
        candidate.concreteModel.modelId).request? = some sent ∨
      (adapter.chatCompletionsStream reader payload secret
        candidate.concreteModel.modelId).request? = some sent) :
    ∃ provider key secret model,
      GoesOut service reader virtualModel payload sent provider key secret model := by
  obtain ⟨required, enumerated, derived, build, rfl⟩ := scoredCandidates_eq isScored
  obtain ⟨sc, member, rfl⟩ := List.mem_map.mp listed
  obtain ⟨candidate, gated, rfl⟩ := mem_scoreCandidates.mp member
  obtain ⟨inBuild, covers⟩ := mem_capabilityGate.mp gated
  have isCandidate : IsCandidate service.config candidate :=
    ⟨virtualModel, counter, enumerated, build, inBuild⟩
  change service.adapterFor candidate = some adapter at found
  have api : candidate.executorType = .api := by
    rw [← GatewayService.hasAdapter_iff isCandidate, ← service.isSome_adapterFor, found,
      Option.isSome_some]
  obtain ⟨key, made⟩ := (mem_buildCandidates_api_iff build).mp ⟨inBuild, api⟩
  exact goesOut_of_listed made derived covers resolved found sends

/-- A question that may be asked sends nothing else. -/
theorem confined_of_mayAsk {ρ : Type} {kind : StoreKind} {engine : FallbackEngine}
    {arrival : Arrival} {talk : Talk ρ} {question : Question}
    (asks : MayAsk engine service (arrival.request kind service) talk question) :
    Confined service reader arrival.info.virtualModel arrival.payload question := by
  intro sent sends
  cases question with
  | arrival => cases sends
  | yielded attempt event => cases sends
  | call number retries candidate now =>
      obtain ⟨-, mayAttempt, -⟩ := asks
      obtain ⟨s, scored, isScored, listed, -⟩ := mayAttempt.inTurn
      unfold requestSent apiAttempt at sends
      dsimp only at sends
      split at sends
      · cases sends
      · split at sends
        · cases sends
        · rename_i adapter found
          split at sends
          · cases sends
          · rename_i secret resolved
            rw [HttpCall.request?_map] at sends
            exact confined_of_scored isScored listed resolved found (Or.inl sends)
  | contact number candidate secret now =>
      obtain ⟨-, mayAttempt, prepared⟩ := asks
      obtain ⟨s, scored, isScored, listed, -⟩ := mayAttempt.inTurn
      have resolved : service.secret candidate = .ok secret := by
        unfold prepare at prepared
        split_ifs at prepared
        split at prepared
        · cases prepared
        · rename_i value resolves
          cases prepared
          exact resolves
      unfold requestSent streamContact at sends
      dsimp only at sends
      cases found : service.adapterFor candidate with
      | none =>
          rw [found] at sends
          cases sends
      | some adapter =>
          rw [found] at sends
          exact confined_of_scored isScored listed resolved found (Or.inr sends)

/-- However requests interleave, whatever they are answered and whatever the
store holds: every HTTP request that leaves the process for one of them goes to
an endpoint of a provider its route names, and carries a key of that provider. -/
theorem keys_stay_with_provider {ρ ι : Type} [DecidableEq ι] (kind : StoreKind)
    (engine : FallbackEngine) (service : GatewayService) (reader : BodyReader)
    (arrivals : ι → Arrival) (start : kind.Contents)
    (schedule : List (Move ι Question (Question.Answer ρ))) (i : ι) :
    (∀ exchange ∈ (requestPool (ρ := ρ) kind engine service
        (fun i => (arrivals i).request kind service) start).talk i schedule,
      Confined service reader (arrivals i).info.virtualModel (arrivals i).payload
        exchange.question) ∧
    ∀ question, ((requestPool (ρ := ρ) kind engine service
        (fun i => (arrivals i).request kind service) start).run schedule).waitsFor? i =
          some question →
      Confined service reader (arrivals i).info.virtualModel (arrivals i).payload question := by
  have follows := requestPool_follows (ρ := ρ) kind engine service
    (fun i => (arrivals i).request kind service) start i
  constructor
  · intro exchange member
    obtain ⟨earlier, later, split⟩ := List.append_of_mem member
    exact confined_of_mayAsk (Pool.asks_talk follows schedule split)
  · intro question waits
    exact confined_of_mayAsk (Pool.asks_run follows schedule waits)

end Outbound

end AutoRouteGateway.Service
