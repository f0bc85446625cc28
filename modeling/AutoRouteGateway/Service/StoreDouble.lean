import AutoRouteGateway.Service.RouteIsolation

/-!
Contract: the in-memory store stands in for SQLite under the whole service.

After the same history of engine calls both stores answer alike about every
configured candidate, so two services that differ in the store alone go through
the same conversations, whatever they are answered and however their requests
interleave.

Owns: requests as they arrive, before a store is chosen, the relation between
the two stores along a run, and their interchangeability.
-/

namespace AutoRouteGateway.Service

open AutoRouteGateway.Config
open AutoRouteGateway.Domain
open AutoRouteGateway.Library
open AutoRouteGateway.Library.Coroutine
open AutoRouteGateway.Policy
open AutoRouteGateway.Routing
open AutoRouteGateway.Runtime
open AutoRouteGateway.State

/-- A request as it arrives: nothing in it depends on the store. -/
structure Arrival where
  entry : Entry
  info : RequestInfo
  clock : Clock
  payload : Dict
  counter : Nat

/-- The request over a store. -/
def Arrival.request (kind : StoreKind) (service : GatewayService) (arrival : Arrival) :
    Request kind.Contents where
  entry := arrival.entry
  info := arrival.info
  clock := arrival.clock
  scored := fun s => (scoredCandidates kind.store service arrival.info.virtualModel
    arrival.payload arrival.counter s).1

/-- Every candidate that is enumerated for the virtual model is an api candidate. -/
def ApiRoute (config : GatewayConfig) (virtualModel : String) : Prop :=
  ∀ counter built, (buildCandidates virtualModel config counter).1 = .ok built →
    ∀ candidate ∈ built, candidate.executorType = .api

/-! ## The two stores along a run -/

section Relation

variable (config : GatewayConfig) (engine : FallbackEngine)

/-- The stores went through the same history of engine calls on configured api
candidates, and hold the same events. -/
def SameHistory (s : InMemoryStateStore) (s' : SqliteStateStore) : Prop :=
  ∃ calls, OverCandidates config calls ∧ (∀ call ∈ calls, call.candidate.executorType = .api) ∧
    inMemoryScoped.board s =
      boardAfter engine calls (inMemoryScoped.board (StoreKind.empty .inMemory)) ∧
    sqliteScoped.board s' =
      boardAfter engine calls (sqliteScoped.board (StoreKind.empty .sqlite)) ∧
    eventLog .inMemory s = eventLog .sqlite s'

/-- The candidates the stores agree on. -/
def ApiCandidate (candidate : RouteCandidate) : Prop :=
  IsCandidate config candidate ∧ candidate.executorType = .api

variable {config engine} {s : InMemoryStateStore} {s' : SqliteStateStore}
  {candidate : RouteCandidate}

theorem ApiCandidate.keyed (api : ApiCandidate config candidate) :
    candidate.credentialId ≠ none := by
  intro keyless
  have cli := api.1.cli_iff.mpr keyless
  rw [api.2] at cli
  cases cli

/-- The four reads of a configured candidate agree. -/
theorem SameHistory.reads (noClash : NoIdClash config) (same : SameHistory config engine s s')
    (isCandidate : IsCandidate config candidate) :
    InMemoryStateStore.store.getHealth s (subject candidate) =
        SqliteStateStore.store.getHealth s' (subject candidate) ∧
      InMemoryStateStore.store.getQuota s (subject candidate) =
        SqliteStateStore.store.getQuota s' (subject candidate) ∧
      InMemoryStateStore.store.getCredential s (subject candidate) =
        SqliteStateStore.store.getCredential s' (subject candidate) ∧
      InMemoryStateStore.store.getCooldown s (subject candidate) =
        SqliteStateStore.store.getCooldown s' (subject candidate) := by
  obtain ⟨calls, overAll, api, board, board', -⟩ := same
  rw [← board_stateAfter] at board board'
  have accepted : ∀ call ∈ calls, ¬ call.RefusesExecutor := by
    intro call member refused
    cases call with
    | succeeded own => exact refused
    | failed now own failure =>
        have isApi := api _ member
        rw [EngineCall.candidate, refused.2] at isApi
        cases isApi
  have agree : ReadsAgree config engine calls :=
    readsAgree_of_idsApart overAll accepted fun _ configured => noClash.idsApart overAll configured
  have health := agree.health candidate isCandidate
  have quota := agree.quota candidate isCandidate
  have credential := agree.credential candidate isCandidate
  have cooldown := agree.cooldown candidate isCandidate
  refine ⟨?_, ?_, ?_, ?_⟩
  · rw [inMemoryScoped.getHealth_eq, sqliteScoped.getHealth_eq, board, board',
      ← inMemoryScoped.getHealth_eq, ← sqliteScoped.getHealth_eq]
    exact health
  · rw [inMemoryScoped.getQuota_eq, sqliteScoped.getQuota_eq, board, board',
      ← inMemoryScoped.getQuota_eq, ← sqliteScoped.getQuota_eq]
    exact quota
  · rw [inMemoryScoped.getCredential_eq, sqliteScoped.getCredential_eq, board, board',
      ← inMemoryScoped.getCredential_eq, ← sqliteScoped.getCredential_eq]
    exact credential
  · rw [inMemoryScoped.getCooldown_eq, sqliteScoped.getCooldown_eq, board, board',
      ← inMemoryScoped.getCooldown_eq, ← sqliteScoped.getCooldown_eq]
    exact cooldown

/-- One more call on both. -/
theorem SameHistory.called {t : InMemoryStateStore} {t' : SqliteStateStore}
    (same : SameHistory config engine s s') (call : EngineCall)
    (api : ApiCandidate config call.candidate)
    (board : inMemoryScoped.board t = boardCall engine (inMemoryScoped.board s) call)
    (board' : sqliteScoped.board t' = boardCall engine (sqliteScoped.board s') call)
    (log : eventLog .inMemory t = eventLog .inMemory s)
    (log' : eventLog .sqlite t' = eventLog .sqlite s') : SameHistory config engine t t' := by
  obtain ⟨calls, overAll, apis, before, before', logs⟩ := same
  refine ⟨calls ++ [call], ?_, ?_, ?_, ?_, log.trans (logs.trans log'.symm)⟩
  · intro own member
    rcases List.mem_append.mp member with earlier | last
    · exact overAll own earlier
    · rw [List.mem_singleton.mp last]
      exact api.1
  · intro own member
    rcases List.mem_append.mp member with earlier | last
    · exact apis own earlier
    · rw [List.mem_singleton.mp last]
      exact api.2
  · rw [boardAfter_append, board, before]
    rfl
  · rw [boardAfter_append, board', before']
    rfl

/-- The engine on api candidates cannot tell the two implementations apart. -/
theorem indistinct_sameHistory (noClash : NoIdClash config) (engine : FallbackEngine) :
    Indistinct InMemoryStateStore.store SqliteStateStore.store engine (ApiCandidate config)
      (SameHistory config engine) where
  scored := by
    intro candidate s s' covered same
    obtain ⟨health, quota, credential, -⟩ := same.reads noClash covered.1
    simp only [scoreCandidate, health, quota, credential]
  eligible := by
    intro candidate s s' now covered same
    obtain ⟨health, quota, credential, cooldown⟩ := same.reads noClash covered.1
    simp only [eligible, health, quota, credential, cooldown]
  failed := by
    intro candidate s s' failure failure' now failures covered same
    obtain ⟨t, applied, board, log⟩ | ⟨error, t, applied, -, keyless, -⟩ :=
      applyFailure_effect .inMemory engine now candidate failure s
    · obtain ⟨t', applied', board', log'⟩ | ⟨error, t', applied', -, keyless, -⟩ :=
        applyFailure_effect .sqlite engine now candidate failure' s'
      · rw [show applyFailure InMemoryStateStore.store engine now candidate failure s = .done t
          from applied, show applyFailure SqliteStateStore.store engine now candidate failure' s' =
          .done t' from applied']
        rw [← boardFailure_alike failures] at board'
        exact .done (same.called (.failed now candidate failure) covered board board' log log')
      · exact absurd keyless covered.keyed
    · exact absurd keyless covered.keyed
  succeeded := by
    intro candidate s s' covered same
    obtain ⟨t, applied, board, log⟩ := applySuccess_effect .inMemory candidate s
    obtain ⟨t', applied', board', log'⟩ := applySuccess_effect .sqlite candidate s'
    rw [show applySuccess InMemoryStateStore.store candidate s = .done t from applied,
      show applySuccess SqliteStateStore.store candidate s' = .done t' from applied']
    exact .done (same.called (.succeeded candidate) covered board board' log log')
  recorded := by
    intro s s' event same
    obtain ⟨calls, overAll, apis, before, before', logs⟩ := same
    obtain ⟨t, recorded, board, log⟩ := record_effect .inMemory event s
    obtain ⟨t', recorded', board', log'⟩ := record_effect .sqlite event s'
    rw [show InMemoryStateStore.store.recordRouteEvent event s = .done t from recorded,
      show SqliteStateStore.store.recordRouteEvent event s' = .done t' from recorded']
    refine .done ⟨calls, overAll, apis, board.trans before, board'.trans before', ?_⟩
    rw [log, log', logs]

end Relation

/-! ## Interchangeability -/

section Interchange

variable {ρ : Type} (engine : FallbackEngine) (service : GatewayService) {ι : Type}
  [DecidableEq ι] (arrivals : ι → Arrival) (schedule : List (Move ι Question (Question.Answer ρ)))

/-- The requests over a store that is empty at first. -/
abbrev arrivalPool (kind : StoreKind) :
    Pool ι kind.Contents Question (Question.Answer ρ) (RequestEnd ρ) :=
  requestPool kind engine service (fun i => (arrivals i).request kind service) kind.empty

/-- With ids that cannot be mistaken for an absent scope and routes of api
candidates, requests over the in-memory store and over SQLite ask the same
questions, attempt and yield the same and end the same way in every
interleaving, and leave the same events and the same view of every configured
candidate. -/
theorem stores_interchangeable (noClash : NoIdClash service.config)
    (api : ∀ i, ApiRoute service.config (arrivals i).info.virtualModel) :
    let memory := arrivalPool (ρ := ρ) engine service arrivals .inMemory
    let sqlite := arrivalPool (ρ := ρ) engine service arrivals .sqlite
    (∀ i, memory.talk i schedule = sqlite.talk i schedule ∧
        (memory.run schedule).waitsFor? i = (sqlite.run schedule).waitsFor? i ∧
          (memory.run schedule).result? i = (sqlite.run schedule).result? i) ∧
      eventLog .inMemory (memory.run schedule).state =
        eventLog .sqlite (sqlite.run schedule).state ∧
      ∀ candidate, IsCandidate service.config candidate → ∀ now,
        eligible InMemoryStateStore.store now (memory.run schedule).state candidate =
          eligible SqliteStateStore.store now (sqlite.run schedule).state candidate := by
  intro memory sqlite
  have covered : ∀ i counter built,
      (buildCandidates (arrivals i).info.virtualModel service.config counter).1 = .ok built →
        ∀ candidate ∈ built, ApiCandidate service.config candidate := by
    intro i counter built build candidate member
    exact ⟨⟨_, counter, built, build, member⟩, api i counter built build candidate member⟩
  have start : SameHistory service.config engine (StoreKind.empty .inMemory)
      (StoreKind.empty .sqlite) :=
    ⟨[], fun call member => absurd member List.not_mem_nil,
      fun call member => absurd member List.not_mem_nil, rfl, rfl, rfl⟩
  have agree : memory.Agree (SameHistory service.config engine) AnswersAlike (fun _ => True)
      sqlite := by
    refine ⟨start, ?_⟩
    intro i _
    refine coroutine_bisimilar (indistinct_sameHistory noClash engine) rfl rfl rfl ?_ ?_
    · rintro candidate ⟨s, scored, isScored, listed⟩
      obtain ⟨sc, member, rfl⟩ := List.mem_map.mp listed
      obtain ⟨required, enumerated, -, build, rfl⟩ := scoredCandidates_eq isScored
      obtain ⟨candidate, gated, rfl⟩ := mem_scoreCandidates.mp member
      exact covered i _ enumerated build candidate (mem_capabilityGate.mp gated).1
    · intro s s' same
      exact congrArg Prod.fst (scoredCandidates_alike (indistinct_sameHistory noClash engine)
        (arrivals i).info.virtualModel (arrivals i).payload (arrivals i).counter
        (covered i _) same)
  obtain ⟨after, seen⟩ := agree.run_same AnswersAlike.refl schedule
  refine ⟨seen, ?_, ?_⟩
  · obtain ⟨-, -, -, -, -, logs⟩ := after
    exact logs
  · intro candidate isCandidate now
    obtain ⟨health, quota, credential, cooldown⟩ := after.reads noClash isCandidate
    simp only [eligible, health, quota, credential, cooldown]

end Interchange

/-- Two runs for the one keyed provider. -/
def keyedArrival : Arrival where
  entry := .run
  info := ⟨"r", "v"⟩
  clock := ⟨fun _ => 0, fun _ => 0⟩
  payload := []
  counter := 0

/-- The crossed calls leave the same events in both stores. -/
theorem same_events_of_crossed_calls :
    eventLog .inMemory ((arrivalPool (ρ := Dict) {} (keyedService "s")
        (fun _ : Bool => keyedArrival) .inMemory).run crossedCalls).state =
      eventLog .sqlite ((arrivalPool (ρ := Dict) {} (keyedService "s")
        (fun _ : Bool => keyedArrival) .sqlite).run crossedCalls).state := by
  have noClash : NoIdClash (keyedService "s").config := by
    constructor
    · intro candidate isCandidate
      rw [(keyedService_candidate isCandidate).2.1]
      decide
    · intro left right isLeft isRight _ empty
      rw [(keyedService_candidate isLeft).1] at empty
      exact absurd (Option.some.inj empty) (by decide)
  exact (stores_interchangeable {} (keyedService "s") (fun _ : Bool => keyedArrival) crossedCalls
    noClash fun _ counter built build candidate member =>
      (keyedService_candidate ⟨"v", counter, built, build, member⟩).2.2).2.1

end AutoRouteGateway.Service
