import AutoRouteGateway.Service.ChatOrder
import AutoRouteGateway.Service.Indistinct

/-!
Contract: requests on disjoint providers do not notice each other.

The rows of a board are told apart by the provider they are about. A request
reads and writes rows of the providers on its scored list only, so requests
whose lists have no provider in common go through the same steps whether or not
the others run.

Owns: boards that agree on a set of providers, the proof that both entries
respect this agreement, and the isolation of routes under every interleaving.
-/

namespace AutoRouteGateway.Service

open AutoRouteGateway.Config
open AutoRouteGateway.Domain
open AutoRouteGateway.Library
open AutoRouteGateway.Library.Coroutine
open AutoRouteGateway.Policy
open AutoRouteGateway.Routing
open AutoRouteGateway.Runtime
open AutoRouteGateway.State

/-! ## Boards that agree on a set of providers -/

section Boards

variable {scheme : ScopeScheme} (owned : String → Prop)

/-- The boards have the same rows at every scope of the providers. -/
structure SameRows (board board' : Board scheme) : Prop where
  health : ∀ subject : StateSubject, owned subject.providerId →
    board.health (scheme.healthKey subject) = board'.health (scheme.healthKey subject)
  quota : ∀ subject : StateSubject, owned subject.providerId →
    board.quota (scheme.quotaKey subject) = board'.quota (scheme.quotaKey subject)
  credential : ∀ subject : StateSubject, owned subject.providerId →
    board.seenCredential subject = board'.seenCredential subject

variable {owned} {board board' board'' : Board scheme}

theorem SameRows.refl (board : Board scheme) : SameRows owned board board :=
  ⟨fun _ _ => rfl, fun _ _ => rfl, fun _ _ => rfl⟩

theorem SameRows.trans (first : SameRows owned board board')
    (second : SameRows owned board' board'') : SameRows owned board board'' where
  health := fun subject own => (first.health subject own).trans (second.health subject own)
  quota := fun subject own => (first.quota subject own).trans (second.quota subject own)
  credential := fun subject own =>
    (first.credential subject own).trans (second.credential subject own)

/-! ### The same write on both -/

theorem SameRows.postHealth (same : SameRows owned board board') (written : StateSubject)
    (row : HealthObservation) :
    SameRows owned (board.postHealth written row) (board'.postHealth written row) where
  health := fun subject own => by
    simp only [Board.postHealth, Function.update_apply, same.health subject own]
  quota := same.quota
  credential := fun subject own => by
    rw [Board.seenCredential_postHealth, Board.seenCredential_postHealth]
    exact same.credential subject own

theorem SameRows.postQuota (same : SameRows owned board board') (written : StateSubject)
    (row : QuotaObservation) :
    SameRows owned (board.postQuota written row) (board'.postQuota written row) where
  health := same.health
  quota := fun subject own => by
    simp only [Board.postQuota, Function.update_apply, same.quota subject own]
  credential := fun subject own => by
    rw [Board.seenCredential_postQuota, Board.seenCredential_postQuota]
    exact same.credential subject own

theorem SameRows.postCredential (same : SameRows owned board board') (written : StateSubject)
    (state : CredentialState) :
    SameRows owned (board.postCredential written state) (board'.postCredential written state) where
  health := fun subject own => by
    rw [Board.health_postCredential, Board.health_postCredential]
    exact same.health subject own
  quota := fun subject own => by
    rw [Board.quota_postCredential, Board.quota_postCredential]
    exact same.quota subject own
  credential := fun subject own => by
    rw [Board.seenCredential_postCredential, Board.seenCredential_postCredential,
      same.credential subject own]

theorem SameRows.boardFailure (same : SameRows owned board board') (engine : FallbackEngine)
    (now : Instant) (candidate : RouteCandidate) (failure : CandidateFailure) :
    SameRows owned (boardFailure engine now candidate failure board)
      (boardFailure engine now candidate failure board') := by
  unfold Routing.boardFailure
  cases failure.errorClass with
  | auth => exact same.postCredential _ _
  | tokenLimit => exact same
  | rateLimit => exact same.postQuota _ _
  | quota => exact same.postQuota _ _
  | modelNotFound => exact same.postHealth _ _
  | network => exact same.postHealth _ _
  | server => exact same.postHealth _ _
  | unknown => exact same

end Boards

section StoreKinds

variable {kind : StoreKind} {owned : String → Prop}

/-! ### The reads of a candidate -/

/-- The scopes a subject reads are scopes of its provider. -/
theorem exists_of_mem_healthChain {subject : StateSubject}
    {key : kind.scopedStore.scheme.HealthKey}
    (member : key ∈ kind.scopedStore.scheme.healthChain subject) :
    ∃ own : StateSubject, own.providerId = subject.providerId ∧
      key = kind.scopedStore.scheme.healthKey own := by
  obtain ⟨provider, credential, model⟩ := subject
  cases kind with
  | inMemory =>
      obtain ⟨p, c, m⟩ := key
      refine ⟨⟨p, c, m⟩, ?_, rfl⟩
      change (p, c, m) ∈ InMemoryStateStore.fallbackKeys ⟨provider, credential, model⟩ at member
      simp only [InMemoryStateStore.fallbackKeys, List.mem_cons, Prod.mk.injEq,
        List.not_mem_nil, or_false] at member
      rcases member with ⟨p, -⟩ | ⟨p, -⟩ | ⟨p, -⟩ | ⟨p, -⟩ <;> exact p
  | sqlite =>
      obtain ⟨p, m⟩ := key
      refine ⟨⟨p, none, some m⟩, ?_, rfl⟩
      change (p, m) ∈ sqliteHealthChain ⟨provider, credential, model⟩ at member
      cases model <;>
        simp only [sqliteHealthChain, List.mem_cons, Prod.mk.injEq, List.not_mem_nil,
          or_false] at member
      · exact member.1
      · rcases member with ⟨p, -⟩ | ⟨p, -⟩ <;> exact p

theorem exists_of_mem_quotaChain {subject : StateSubject}
    {key : kind.scopedStore.scheme.QuotaKey}
    (member : key ∈ kind.scopedStore.scheme.quotaChain subject) :
    ∃ own : StateSubject, own.providerId = subject.providerId ∧
      key = kind.scopedStore.scheme.quotaKey own := by
  obtain ⟨provider, credential, model⟩ := subject
  cases kind with
  | inMemory =>
      obtain ⟨p, c, m⟩ := key
      refine ⟨⟨p, c, m⟩, ?_, rfl⟩
      change (p, c, m) ∈ InMemoryStateStore.fallbackKeys ⟨provider, credential, model⟩ at member
      simp only [InMemoryStateStore.fallbackKeys, List.mem_cons, Prod.mk.injEq,
        List.not_mem_nil, or_false] at member
      rcases member with ⟨p, -⟩ | ⟨p, -⟩ | ⟨p, -⟩ | ⟨p, -⟩ <;> exact p
  | sqlite =>
      obtain ⟨p, c, m⟩ := key
      refine ⟨⟨p, some c, some m⟩, ?_, rfl⟩
      change (p, c, m) ∈ sqliteQuotaChain ⟨provider, credential, model⟩ at member
      cases credential <;> cases model <;>
        simp only [sqliteQuotaChain, List.mem_cons, Prod.mk.injEq, List.not_mem_nil,
          or_false] at member
      · exact member.1
      · rcases member with ⟨p, -⟩ | ⟨p, -⟩ <;> exact p
      · rcases member with ⟨p, -⟩ | ⟨p, -⟩ <;> exact p
      · rcases member with ⟨p, -⟩ | ⟨p, -⟩ | ⟨p, -⟩ <;> exact p

section Reads

variable {board board' : Board kind.scopedStore.scheme} {reader : StateSubject}

theorem SameRows.seenHealth (same : SameRows owned board board')
    (own : owned reader.providerId) : board.seenHealth reader = board'.seenHealth reader := by
  refine firstHit_congr ?_
  intro key member
  obtain ⟨scope, provider, rfl⟩ := exists_of_mem_healthChain member
  exact same.health scope (provider ▸ own)

theorem SameRows.seenQuota (same : SameRows owned board board')
    (own : owned reader.providerId) : board.seenQuota reader = board'.seenQuota reader := by
  refine firstHit_congr ?_
  intro key member
  obtain ⟨scope, provider, rfl⟩ := exists_of_mem_quotaChain member
  exact same.quota scope (provider ▸ own)

end Reads

variable (kind owned) in
/-- The boards of the stores have the same rows. -/
def Alike (s s' : kind.Contents) : Prop :=
  SameRows owned (kind.scopedStore.board s) (kind.scopedStore.board s')

/-- A candidate is scored and refused alike. -/
theorem Alike.reads {s s' : kind.Contents} (alike : Alike kind owned s s')
    {candidate : RouteCandidate} (own : owned candidate.providerId) :
    scoreCandidate kind.store s candidate = scoreCandidate kind.store s' candidate ∧
      ∀ now, eligible kind.store now s candidate = eligible kind.store now s' candidate := by
  have health : (kind.scopedStore.board s).seenHealth (subject candidate) =
      (kind.scopedStore.board s').seenHealth (subject candidate) := SameRows.seenHealth alike own
  have quota : (kind.scopedStore.board s).seenQuota (subject candidate) =
      (kind.scopedStore.board s').seenQuota (subject candidate) := SameRows.seenQuota alike own
  have credential := alike.credential (subject candidate) own
  constructor
  · simp only [scoreCandidate, kind.scopedStore.getHealth_eq, kind.scopedStore.getQuota_eq,
      kind.scopedStore.getCredential_eq, health, quota, credential]
  · intro now
    refine eligible_congr kind.scopedStore ?_ now
    rw [Board.hold, Board.hold, health, quota, credential]

/-! ### Writes on other providers -/

/-- A call on a candidate of another provider changes no row. -/
theorem sameRows_boardCall (engine : FallbackEngine) (board : Board kind.scopedStore.scheme)
    {call : EngineCall} (foreign : ¬ owned call.candidate.providerId) :
    SameRows owned (boardCall engine board call) board := by
  have apart : ∀ {written reader : StateSubject},
      written.providerId = call.candidate.providerId → owned reader.providerId →
      written.providerId ≠ reader.providerId := by
    intro written reader isOwn own same
    rw [← same, isOwn] at own
    exact foreign own
  have health : ∀ written row, written.providerId = call.candidate.providerId →
      SameRows owned (board.postHealth written row) board := by
    intro written row isOwn
    refine ⟨?_, fun _ _ => rfl, fun _ _ => Board.seenCredential_postHealth ..⟩
    intro reader own
    refine Function.update_of_ne ?_ _ _
    intro sameKey
    have member := (StoreKind.readsHealth_self board reader).1
    rw [sameKey] at member
    exact apart isOwn own (StoreKind.healthKey_mem_healthChain member).1
  have quota : ∀ written row, written.providerId = call.candidate.providerId →
      SameRows owned (board.postQuota written row) board := by
    intro written row isOwn
    refine ⟨fun _ _ => rfl, ?_, fun _ _ => Board.seenCredential_postQuota ..⟩
    intro reader own
    refine Function.update_of_ne ?_ _ _
    intro sameKey
    have member := (StoreKind.readsQuota_self board reader).1
    rw [sameKey] at member
    exact apart isOwn own (StoreKind.quotaKey_mem_quotaChain member).1
  have credential : ∀ written state, written.providerId = call.candidate.providerId →
      SameRows owned (board.postCredential written state) board := by
    intro written state isOwn
    refine ⟨fun _ _ => by rw [Board.health_postCredential],
      fun _ _ => by rw [Board.quota_postCredential], ?_⟩
    intro reader own
    rw [Board.seenCredential_postCredential, if_neg]
    rintro ⟨isSome, sameKey⟩
    exact apart isOwn own (StoreKind.credentialKey_eq isSome sameKey).1
  cases call with
  | succeeded candidate => exact health _ _ rfl
  | failed now candidate failure =>
      simp only [boardCall, Routing.boardFailure]
      cases failure.errorClass with
      | auth => exact credential _ _ rfl
      | tokenLimit => exact .refl board
      | rateLimit => exact quota _ _ rfl
      | quota => exact quota _ _ rfl
      | modelNotFound => exact health _ _ rfl
      | network => exact health _ _ rfl
      | server => exact health _ _ rfl
      | unknown => exact .refl board

theorem sameRows_boardAfter (engine : FallbackEngine) {calls : List EngineCall}
    (foreign : ∀ call ∈ calls, ¬ owned call.candidate.providerId)
    (board : Board kind.scopedStore.scheme) :
    SameRows owned (boardAfter engine calls board) board := by
  induction calls generalizing board with
  | nil => exact .refl board
  | cons call rest inductionHypothesis =>
      exact (inductionHypothesis (fun call member => foreign call (List.mem_cons_of_mem _ member))
        _).trans (sameRows_boardCall engine board (foreign call List.mem_cons_self))

end StoreKinds

/-! ## Requests that share no provider -/

section Requests

variable {kind : StoreKind} {owned : String → Prop} {ρ : Type} {engine : FallbackEngine}
  {service : GatewayService}

omit owned in
/-- Whether a failure can be written depends on its class and its candidate only. -/
theorem applyFailure_alike {alike : kind.Contents → kind.Contents → Prop} {now : Instant}
    {candidate : RouteCandidate} {failure failure' : CandidateFailure}
    (failures : FailuresAlike failure failure') {s s' : kind.Contents}
    (left : alike (applyFailure kind.store engine now candidate failure s).state
      (applyFailure kind.store engine now candidate failure' s').state) :
    ResultAlike alike (applyFailure kind.store engine now candidate failure s)
      (applyFailure kind.store engine now candidate failure' s') := by
  obtain ⟨errorClass, status, message, committed, retryAfter⟩ := failure
  obtain ⟨errorClass', status', message', committed', retryAfter'⟩ := failure'
  obtain ⟨provider, credential, model, capabilities, executor, priority, reserve⟩ := candidate
  obtain rfl : errorClass = errorClass' := failures.errorClass
  cases kind with
  | inMemory => cases errorClass <;> exact .done left
  | sqlite =>
      cases errorClass with
      | auth =>
          cases credential with
          | none => exact .raised _ left
          | some id => exact .done left
      | _ => exact .done left

/-- The engine on candidates of the providers sees their rows only. -/
theorem indistinct_alike (kind : StoreKind) (engine : FallbackEngine) (owned : String → Prop) :
    Indistinct kind.store kind.store engine (fun candidate => owned candidate.providerId)
      (Alike kind owned) where
  scored := fun covered same => (same.reads covered).1
  eligible := fun now covered same => (same.reads covered).2 now
  failed := by
    intro candidate s s' failure failure' now failures covered same
    have rows : Alike kind owned (applyFailure kind.store engine now candidate failure s).state
        (applyFailure kind.store engine now candidate failure' s').state := by
      unfold Alike
      rw [board_applyFailure, board_applyFailure, ← boardFailure_alike failures]
      exact SameRows.boardFailure same engine now candidate failure
    exact applyFailure_alike failures rows
  succeeded := by
    intro candidate s s' covered same
    have rows : Alike kind owned (applySuccess kind.store candidate s).state
        (applySuccess kind.store candidate s').state := by
      unfold Alike
      rw [board_applySuccess, board_applySuccess]
      exact SameRows.postHealth same _ _
    cases kind <;> exact .done rows
  recorded := by
    intro s s' event same
    have rows : Alike kind owned (kind.store.recordRouteEvent event s).state
        (kind.store.recordRouteEvent event s').state := by
      unfold Alike
      rw [kind.scopedStore.record_board, kind.scopedStore.record_board]
      exact same
    cases kind <;> exact .done rows

/-- A request whose list is about other providers leaves their rows as they were. -/
theorem hidden_coroutine {other : Request kind.Contents}
    (lists : ∀ candidate, other.Lists candidate → ¬ owned candidate.providerId) :
    (other.coroutine (ρ := ρ) kind.store engine service).Follows
      (.hidden (Question.Answer ρ) fun s s' => Alike kind owned s' s) [] := by
  refine (follows_coroutine kind engine service other).weaken (fun _ _ _ => trivial) ?_
  intro talk question answer s s' asks effect
  have asked : MayAsk engine service other talk question := asks
  change SameRows owned (kind.scopedStore.board s') (kind.scopedStore.board s)
  rw [effect.board]
  exact sameRows_boardAfter engine (fun call called => lists _ (asked.lists called)) _

end Requests

/-! ## Routes -/

/-- The route of the virtual model, if it has one, names these providers only. -/
def RouteWithin (config : GatewayConfig) (owned : String → Prop) (virtualModel : String) : Prop :=
  ∀ route, config.routes.get? virtualModel = some route →
    ∀ step ∈ route.steps, owned step.provider

theorem provider_of_mem_stepCandidates {config : GatewayConfig} {step : RouteStep}
    {counter : Nat} {candidate : RouteCandidate}
    (member : candidate ∈ (stepCandidates config step counter).1) :
    candidate.providerId = step.provider := by
  unfold stepCandidates at member
  split at member
  · cases member
  · rename_i provider configured
    have sameId : provider.id = step.provider := config.idsMatch _ _ configured
    split_ifs at member
    · cases member
    · cases member
    · split at member
      · cases member
      · rw [List.mem_singleton.mp member]
        exact sameId
    · split at member
      · cases member
      · obtain ⟨key, -, rfl⟩ := List.mem_map.mp member
        exact sameId

theorem provider_of_mem_stepsCandidates {config : GatewayConfig} {steps : List RouteStep}
    {counter : Nat} {candidate : RouteCandidate}
    (member : candidate ∈ (stepsCandidates config steps counter).1) :
    ∃ step ∈ steps, candidate.providerId = step.provider := by
  induction steps generalizing counter with
  | nil => cases member
  | cons step rest inductionHypothesis =>
      rcases List.mem_append.mp member with first | later
      · exact ⟨step, List.mem_cons_self, provider_of_mem_stepCandidates first⟩
      · obtain ⟨own, isStep, provider⟩ := inductionHypothesis later
        exact ⟨own, List.mem_cons_of_mem _ isStep, provider⟩

/-- Every candidate that is enumerated for a route is one of its providers'. -/
theorem RouteWithin.candidate {config : GatewayConfig} {owned : String → Prop}
    {virtualModel : String} (within : RouteWithin config owned virtualModel) {counter : Nat}
    {built : List RouteCandidate}
    (build : (buildCandidates virtualModel config counter).1 = .ok built)
    {candidate : RouteCandidate} (member : candidate ∈ built) : owned candidate.providerId := by
  unfold buildCandidates at build
  split at build
  · cases build
  · rename_i route found
    cases build
    obtain ⟨step, isStep, provider⟩ := provider_of_mem_stepsCandidates member
    rw [provider]
    exact within route found step isStep

section Served

variable {kind : StoreKind} {service : GatewayService} {request : Request kind.Contents}
  {owned : String → Prop}

theorem RouteWithin.lists
    (within : RouteWithin service.config owned request.info.virtualModel)
    (served : ServedBy kind service request) {candidate : RouteCandidate}
    (lists : request.Lists candidate) : owned candidate.providerId := by
  obtain ⟨payload, counter, isScored⟩ := served
  obtain ⟨s, scored, found, listed⟩ := lists
  obtain ⟨sc, member, rfl⟩ := List.mem_map.mp listed
  rw [isScored] at found
  obtain ⟨required, enumerated, -, build, rfl⟩ := scoredCandidates_eq found
  obtain ⟨candidate, gated, rfl⟩ := mem_scoreCandidates.mp member
  exact within.candidate build (mem_capabilityGate.mp gated).1

/-- The scored list depends on the rows of the route's providers only. -/
theorem RouteWithin.scored (engine : FallbackEngine)
    (within : RouteWithin service.config owned request.info.virtualModel)
    (served : ServedBy kind service request) {s s' : kind.Contents}
    (alike : Alike kind owned s s') : request.scored s = request.scored s' := by
  obtain ⟨payload, counter, isScored⟩ := served
  rw [isScored]
  exact congrArg Prod.fst (scoredCandidates_alike (indistinct_alike kind engine owned)
    request.info.virtualModel payload counter
    (fun built build candidate member => within.candidate build member) alike)

end Served

/-! ## Isolation -/

section Isolation

variable {ρ : Type} (kind : StoreKind) (engine : FallbackEngine) (service : GatewayService)
  {ι : Type} [DecidableEq ι] (requests : ι → Request kind.Contents) (start : kind.Contents)
  (schedule : List (Move ι Question (Question.Answer ρ)))

/-- Requests for routes over some providers, among requests for routes over
other providers: in every interleaving each of them asks, attempts and yields
what it would if only they were served, goes on as it would, and every
candidate of those providers is scored and refused as it would be. -/
theorem routes_isolated (owned : String → Prop) (inside : ι → Prop) [DecidablePred inside]
    (served : ∀ i, ServedBy kind service (requests i))
    (own : ∀ i, inside i → RouteWithin service.config owned (requests i).info.virtualModel)
    (others : ∀ i, ¬ inside i →
      RouteWithin service.config (fun id => ¬ owned id) (requests i).info.virtualModel) :
    let pool := requestPool (ρ := ρ) kind engine service requests start
    let ownMoves := schedule.filter fun move => inside move.thread
    (∀ i, inside i → pool.talk i schedule = pool.talk i ownMoves ∧
        (pool.run schedule).waitsFor? i = (pool.run ownMoves).waitsFor? i ∧
          (pool.run schedule).result? i = (pool.run ownMoves).result? i) ∧
      ∀ candidate : RouteCandidate, owned candidate.providerId →
        scoreCandidate kind.store (pool.run schedule).state candidate =
            scoreCandidate kind.store (pool.run ownMoves).state candidate ∧
          ∀ now, eligible kind.store now (pool.run schedule).state candidate =
            eligible kind.store now (pool.run ownMoves).state candidate := by
  intro pool ownMoves
  have agree : pool.Agree (Alike kind owned) AnswersAlike inside pool := by
    refine ⟨SameRows.refl _, ?_⟩
    intro i isIn
    exact coroutine_bisimilar (indistinct_alike kind engine owned) rfl rfl rfl
      (fun candidate lists => (own i isIn).lists (served i) lists)
      (fun s s' alike => (own i isIn).scored engine (served i) alike)
  have hidden : ∀ i, ¬ inside i → (pool.threads i).Follows
      (.hidden (Question.Answer ρ) fun s t => Alike kind owned t s) [] := by
    intro i isOut
    exact hidden_coroutine fun candidate lists => (others i isOut).lists (served i) lists
  have unnoticed : ∀ s t s', Alike kind owned t s → Alike kind owned s s' →
      Alike kind owned t s' := fun s t s' first second => SameRows.trans first second
  obtain ⟨after, seen⟩ := agree.run_filter_same AnswersAlike.refl unnoticed hidden schedule
  exact ⟨seen, fun candidate isOwn => after.reads isOwn⟩

end Isolation

/-! ### Two routes -/

def keyedProvider (id : String) : ProviderConfig where
  id := id
  type := .openaiCompatible
  baseUrl := some "u"
  models := [{ id := "m", capabilities := {.text, .usage} }]
  keys := [{ id := "k", env := "K" }]

/-- The route `v` to the provider `p`, and the route `w` to the provider `q`. -/
def twoRoutesService : GatewayService where
  config :=
    { routes := (UpsertTable.empty.upsert "v" ⟨[⟨"p", none⟩]⟩).upsert "w" ⟨[⟨"q", none⟩]⟩
      providers := (UpsertTable.empty.upsert "p" (keyedProvider "p")).upsert "q" (keyedProvider "q")
      idsMatch := by
        intro pid provider found
        rw [UpsertTable.get?_upsert] at found
        split at found
        · rename_i isOther
          cases found
          exact isOther.symm
        · exact idsMatch_single (show (keyedProvider "p").id = "p" from rfl) pid provider found }
  resolver := ⟨UpsertTable.empty.upsert "K" "s", .empty⟩
  built := ⟨["p", "q"], []⟩
  isBuilt := rfl

/-- One request for `v`, and one for `w`. -/
def twoRequests (other : Bool) : Request InMemoryStateStore where
  entry := .run
  info := ⟨"r", if other then "w" else "v"⟩
  clock := ⟨fun _ => 0, fun _ => 0⟩
  scored := fun s => (scoredCandidates InMemoryStateStore.store twoRoutesService
    (if other then "w" else "v") [] 0 s).1

/-- The key of `q` is refused, and the request for `v` goes on as if it had been alone. -/
theorem refused_key_of_other_route :
    let pool := requestPool .inMemory {} twoRoutesService twoRequests .empty
    (pool.run crossedCalls).waitsFor? false =
        (pool.run (crossedCalls.filter fun move => move.thread = false)).waitsFor? false ∧
      StoreKind.inMemory.store.getCredential (pool.run crossedCalls).state
        ⟨"q", some "k", some "m"⟩ = .authError := by
  intro pool
  have isolated := routes_isolated .inMemory {} twoRoutesService twoRequests .empty crossedCalls
    (fun id => id = "p") (fun other => other = false)
    (by
      intro other
      cases other <;> exact ⟨[], 0, rfl⟩)
    (by
      rintro other rfl route found step isStep
      cases found
      rw [List.mem_singleton.mp isStep])
    (by
      intro other isOther route found step isStep
      cases other with
      | false => exact absurd rfl isOther
      | true =>
          cases found
          rw [List.mem_singleton.mp isStep]
          decide)
  exact ⟨(isolated.1 false rfl).2.1, by decide +kernel⟩

end AutoRouteGateway.Service
