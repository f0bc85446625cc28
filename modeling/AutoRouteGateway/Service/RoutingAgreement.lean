import AutoRouteGateway.Service.Chat
import AutoRouteGateway.Service.StreamFallback

/-!
Contract: `chat` against `chat_stream` when every attempt fails.

Owns: the agreement of the two entries over one list of failures, the exact
condition under which it holds, and what remains of it without the reported
error.

`chat` reports the class of its last failure, and `chat_stream` reports none.
-/

namespace AutoRouteGateway.Service

open AutoRouteGateway.Config
open AutoRouteGateway.Domain
open AutoRouteGateway.Library
open AutoRouteGateway.Policy
open AutoRouteGateway.Routing
open AutoRouteGateway.Runtime
open AutoRouteGateway.State

/-! ## Agreement -/

/-- Every attempt fails before it produces anything. -/
def Upstream.failing (σ : Type) (fails : Nat → RouteCandidate → UpstreamException) :
    Upstream σ where
  chatCompletions := fun number candidate _ s => (.raised (fails number candidate), s)
  execute := fun number candidate s => (.raised (fails number candidate), s)
  chatCompletionsStream := fun number candidate _ s => (⟨[], some (fails number candidate)⟩, s)

/-- The attempts of a position, numbered. -/
def turnAttempts {σ ρ : Type} (turn : Turn σ ρ) : List (Nat × RouteCandidate) :=
  turn.attempts.map fun call => (call.number, turn.scored.candidate)

/-- The attempts of a run, in order. -/
def runAttempts {σ ρ : Type} (log : RunLog σ ρ) : List (Nat × RouteCandidate) :=
  log.turns.flatMap turnAttempts

/-- The attempts of a selection, in order. -/
def Selection.attempted {σ : Type} (selection : Selection σ) : List (Nat × RouteCandidate) :=
  selection.contacts.map fun contact => (contact.attempt, contact.candidate)

/-- Health, quota and credential state. -/
def withoutEvents : (kind : StoreKind) → kind.Contents → kind.Contents
  | .inMemory, s => { s with events := [] }
  | .sqlite, s => { s with routeEvents := [] }

/-- The two entries attempt the same candidates in the same order, leave the
same state, and raise the same `NoEligibleCandidateError`. -/
structure RoutingAgrees (kind : StoreKind) (chatted : ChatResult kind.Contents)
    (streamed : StreamResult kind.Contents) : Prop where
  attempts : ∃ log selection, chatted.run = some log ∧ streamed.selection = some selection ∧
    runAttempts log = selection.attempted
  state : withoutEvents kind chatted.store = withoutEvents kind streamed.store
  raises : ∃ error, chatted.result = .error (.noEligible error) ∧
    streamed.result = .error (.noEligible error)

/-- No position of the list is attempted in this store. -/
def Idle {σ : Type} (S : StateStore σ) (clock : Clock) (scored : List ScoredCandidate)
    (position : Nat) (s : σ) : Prop :=
  ∀ offset sc, scored[offset]? = some sc →
    attemptable S (clock.check (position + offset)) s sc = false

section Idle

variable {σ ρ : Type} {S : StateStore σ} (engine : FallbackEngine) {clock : Clock}
  (request : RequestInfo)

theorem idle_nil (position : Nat) (s : σ) : Idle S clock [] position s := by
  intro offset sc found
  rw [List.getElem?_nil] at found
  cases found

theorem idle_cons {sc : ScoredCandidate} {rest : List ScoredCandidate} {position : Nat} {s : σ} :
    Idle S clock (sc :: rest) position s ↔
      attemptable S (clock.check position) s sc = false ∧ Idle S clock rest (position + 1) s := by
  constructor
  · intro idle
    refine ⟨idle 0 sc rfl, ?_⟩
    intro offset other found
    rw [show position + 1 + offset = position + (offset + 1) by omega]
    exact idle (offset + 1) other found
  · intro idle offset other found
    cases offset with
    | zero => exact Option.some.inj found ▸ idle.1
    | succ offset =>
        rw [show position + (offset + 1) = position + 1 + offset by omega]
        exact idle.2 offset other found

/-- A run over an idle list attempts nothing. -/
theorem runFrom_idle (attemptFn : AttemptFn σ ρ) {scored : List ScoredCandidate}
    {position : Nat} (progress : Progress σ) (idle : Idle S clock scored position progress.store) :
    runAttempts (runFrom S engine clock request attemptFn scored position progress) = [] ∧
      (runFrom S engine clock request attemptFn scored position progress).ending =
        .noEligible ⟨request.virtualModel, progress.attempts, progress.lastError⟩ ∧
      (runFrom S engine clock request attemptFn scored position progress).store =
        progress.store := by
  induction scored generalizing position with
  | nil => exact ⟨rfl, rfl, rfl⟩
  | cons sc rest inductionHypothesis =>
      obtain ⟨closed, idleRest⟩ := idle_cons.mp idle
      obtain ⟨attempts, ending, store⟩ := inductionHypothesis idleRest
      simp only [runFrom, closed, Bool.false_eq_true, if_false]
      exact ⟨attempts, ending, store⟩

/-- A selection over an idle list contacts nobody. -/
theorem selectFrom_idle (service : GatewayService) (upstream : Upstream σ)
    {scored : List ScoredCandidate} {position : Nat} (attempts : Nat) {s : σ}
    (idle : Idle S clock scored position s) :
    (selectFrom S engine service clock upstream request scored position attempts s).contacts =
        [] ∧
      (selectFrom S engine service clock upstream request scored position attempts s).ending =
        .raised (.noEligible ⟨request.virtualModel, attempts, none⟩) ∧
      (selectFrom S engine service clock upstream request scored position attempts s).store =
        s := by
  induction scored generalizing position with
  | nil => exact ⟨rfl, rfl, rfl⟩
  | cons sc rest inductionHypothesis =>
      obtain ⟨closed, idleRest⟩ := idle_cons.mp idle
      obtain ⟨contacts, ending, store⟩ := inductionHypothesis idleRest
      simp only [selectFrom, closed, Bool.false_eq_true, if_false]
      exact ⟨contacts, ending, store⟩

end Idle

/-! ## What is reported -/

section Reported

variable {σ ρ : Type} {S : StateStore σ} {engine : FallbackEngine} {clock : Clock}
  {request : RequestInfo} {attemptFn : AttemptFn σ ρ}

/-- Once a call has failed, an empty pool is reported with the last failure. -/
def Reported : NextStep σ ρ → Prop
  | .retry progress => progress.lastError ≠ none
  | .next progress => progress.lastError ≠ none
  | .stop (.noEligible error) _ => error.lastError ≠ none
  | .stop _ _ => True

theorem afterException_reported (candidate : RouteCandidate) (text : String)
    (progress : Progress σ) :
    Reported (ρ := ρ) (afterException S engine clock request candidate text progress).2 := by
  simp only [afterException]
  split
  · trivial
  · split
    · trivial
    · exact Option.some_ne_none _

theorem afterReturn_reported (candidate : RouteCandidate) (value : ρ) (progress : Progress σ) :
    Reported (afterReturn S engine clock request candidate value progress).2 := by
  simp only [afterReturn]
  split
  · exact afterException_reported _ _ _
  · split
    · exact afterException_reported _ _ _
    · trivial

theorem afterAction_reported (action : FallbackAction) {progress : Progress σ}
    (failed : progress.lastError ≠ none) :
    Reported (ρ := ρ) (afterAction engine request action progress) := by
  unfold afterAction
  split
  · exact failed
  · dsimp only
    split
    · exact failed
    · exact failed

theorem settleCall_reported (candidate : RouteCandidate) (retries : Nat)
    (outcome : AttemptOutcome ρ) (progress : Progress σ) :
    Reported (settleCall S engine clock request candidate retries outcome progress).2 := by
  cases outcome with
  | returned value => exact afterReturn_reported candidate value progress
  | raised text => exact afterException_reported candidate text progress
  | failed failure =>
      simp only [settleCall]
      split
      · simp only [afterCommittedFailure]
        split <;> trivial
      · simp only [afterFailure]
        split
        · trivial
        · split
          · trivial
          · exact afterAction_reported _ (Option.some_ne_none _)

theorem attemptCandidate_reported (candidate : RouteCandidate) (budget retries : Nat)
    (progress : Progress σ) :
    Reported (attemptCandidate S engine clock request attemptFn candidate budget retries
      progress).1 := by
  induction budget generalizing retries progress with
  | zero => trivial
  | succ budget inductionHypothesis =>
      have reported : Reported (oneCall S engine clock request attemptFn candidate retries
        progress).1 := settleCall_reported _ _ _ _
      simp only [attemptCandidate]
      generalize oneCall S engine clock request attemptFn candidate retries progress = call
        at reported ⊢
      obtain ⟨step, log⟩ := call
      cases step with
      | retry progress' => exact inductionHypothesis (retries + 1) progress'
      | next progress' => exact reported
      | stop ending progress' => exact reported

/-- A run that ends without a last error attempted nothing. -/
theorem idle_of_runFrom_unreported {scored : List ScoredCandidate} {position : Nat}
    {progress : Progress σ} {error : NoEligibleCandidateError}
    (ends : (runFrom S engine clock request attemptFn scored position progress).ending =
      .noEligible error)
    (unreported : error.lastError = none) :
    progress.lastError = none ∧ Idle S clock scored position progress.store := by
  induction scored generalizing position progress with
  | nil =>
      cases ends
      exact ⟨unreported, idle_nil position progress.store⟩
  | cons sc rest inductionHypothesis =>
      by_cases ready : attemptable S (clock.check position) progress.store sc = true
      · have reported : Reported (attemptCandidate S engine clock request attemptFn sc.candidate
          (attemptBudget engine progress.attempts) 0 progress).1 :=
          attemptCandidate_reported _ _ _ _
        simp only [runFrom, ready, if_true] at ends
        generalize attemptCandidate S engine clock request attemptFn sc.candidate
          (attemptBudget engine progress.attempts) 0 progress = attempted at reported ends
        obtain ⟨step, calls⟩ := attempted
        cases step with
        | stop ending progress' =>
            have isEnding : ending = .noEligible error := ends
            rw [isEnding] at reported
            exact absurd unreported reported
        | retry progress' => exact absurd (inductionHypothesis ends).1 reported
        | next progress' => exact absurd (inductionHypothesis ends).1 reported
      · have closed : attemptable S (clock.check position) progress.store sc = false := by
          simpa using ready
        simp only [runFrom, closed, Bool.false_eq_true, if_false] at ends
        obtain ⟨none, idleRest⟩ := inductionHypothesis ends
        exact ⟨none, idle_cons.mpr ⟨closed, idleRest⟩⟩

end Reported

section Streaming

variable {σ : Type} (S : StateStore σ) (engine : FallbackEngine) (service : GatewayService)
  (clock : Clock) (request : RequestInfo) (fails : Nat → RouteCandidate → UpstreamException)

/-- A stream that fails before its first event is never selected. -/
theorem contactCandidate_failing (attempt : Nat) (candidate : RouteCandidate) (secret : String)
    (s : σ) :
    (contactCandidate S engine clock (Upstream.failing σ fails) request attempt candidate secret
        s).2 = none ∨
      ∃ error, (contactCandidate S engine clock (Upstream.failing σ fails) request attempt
        candidate secret s).2 = some (.raised (.store error)) := by
  simp only [contactCandidate]
  split
  · rename_i error _ _
    exact Or.inr ⟨error, rfl⟩
  · exact Or.inl rfl

/-- With such streams selection raises, and reports no last error. -/
theorem selectFrom_failing (scored : List ScoredCandidate) (position attempts : Nat) (s : σ) :
    ∃ error, (selectFrom S engine service clock (Upstream.failing σ fails) request scored
        position attempts s).ending = .raised error ∧
      ∀ own, error = .noEligible own → own.lastError = none := by
  induction scored generalizing position attempts s with
  | nil =>
      refine ⟨_, rfl, ?_⟩
      intro own same
      cases same
      rfl
  | cons sc rest inductionHypothesis =>
      simp only [selectFrom]
      split
      · split
        · refine ⟨_, rfl, ?_⟩
          intro own same
          cases same
          rfl
        · split
          · rename_i error lookup
            exact ⟨error, rfl, fun own same => absurd same (prepare_error_ne lookup own)⟩
          · rename_i secret lookup
            rcases contactCandidate_failing S engine clock request fails
                (attempts + 1) sc.candidate secret s
              with goesOn | ⟨error, raised⟩
            · rw [goesOn]
              exact inductionHypothesis (position + 1) (attempts + 1) _
            · rw [raised]
              refine ⟨_, rfl, ?_⟩
              intro own same
              cases same
      · exact inductionHypothesis (position + 1) attempts s

end Streaming

/-- Payloads that require the same capabilities get the same scored list. -/
theorem scoredCandidates_congr {σ : Type} (S : StateStore σ) (service : GatewayService)
    (virtualModel : String) {payload payload' : Dict} (counter : Nat) (s : σ)
    (sameRequired : capabilitiesFromPayload payload = capabilitiesFromPayload payload') :
    scoredCandidates S service virtualModel payload counter s =
      scoredCandidates S service virtualModel payload' counter s := by
  unfold scoredCandidates
  rw [sameRequired]

/-- When every attempt fails and both entries raise the same error, nothing
was attempted. -/
theorem idle_of_raises (kind : StoreKind) {engine : FallbackEngine} {service : GatewayService}
    {clock : Clock} {fails : Nat → RouteCandidate → UpstreamException}
    {requestId virtualModel : String} {payload streamPayload : Dict} {counter : Nat}
    {start : kind.Contents} {scored : List ScoredCandidate}
    (sameRequired : capabilitiesFromPayload streamPayload = capabilitiesFromPayload payload)
    (isScored : (scoredCandidates kind.store service virtualModel payload counter start).1 =
      .ok scored)
    (raises : ∃ error,
      (chat kind.store engine service clock (Upstream.failing _ fails) requestId virtualModel
        payload counter start).result = .error (.noEligible error) ∧
      (chatStream kind.store engine service clock (Upstream.failing _ fails) requestId
        virtualModel streamPayload counter start).result = .error (.noEligible error)) :
    Idle kind.store clock scored 0 start := by
  have isScoredToo := isScored
  rw [← scoredCandidates_congr _ _ _ _ _ sameRequired] at isScoredToo
  obtain ⟨error, raised, unreported⟩ := selectFrom_failing kind.store engine service clock
    ⟨requestId, virtualModel⟩ fails scored 0 0 start
  obtain ⟨log, isLog, -, chatResult, -⟩ := chat_scored engine clock (Upstream.failing _ fails)
    requestId isScored
  obtain ⟨own, chatRaises, streamRaises⟩ := raises
  rw [(chatStream_raised requestId isScoredToo raised).1] at streamRaises
  rw [chatResult] at chatRaises
  have ends := chatEnding_eq_noEligible chatRaises
  rw [isLog] at ends
  exact (idle_of_runFrom_unreported ends (unreported own (Except.error.inj streamRaises))).2

/-- When every attempt fails, `chat` and `chat_stream` agree exactly when there
is nothing to attempt. -/
theorem routingAgrees_iff (kind : StoreKind) (engine : FallbackEngine) (service : GatewayService)
    (clock : Clock) (fails : Nat → RouteCandidate → UpstreamException)
    (requestId virtualModel : String) {payload streamPayload : Dict} (counter : Nat)
    (start : kind.Contents) {scored : List ScoredCandidate}
    (sameRequired : capabilitiesFromPayload streamPayload = capabilitiesFromPayload payload)
    (isScored : (scoredCandidates kind.store service virtualModel payload counter start).1 =
      .ok scored) :
    RoutingAgrees kind
        (chat kind.store engine service clock (Upstream.failing _ fails) requestId virtualModel
          payload counter start)
        (chatStream kind.store engine service clock (Upstream.failing _ fails) requestId
          virtualModel streamPayload counter start) ↔
      ∀ position sc, scored[position]? = some sc →
        attemptable kind.store (clock.check position) start sc = false := by
  have whole : Idle kind.store clock scored 0 start ↔
      ∀ position sc, scored[position]? = some sc →
        attemptable kind.store (clock.check position) start sc = false := by
    simp only [Idle, Nat.zero_add]
  rw [← whole]
  constructor
  · intro agrees
    exact idle_of_raises kind sameRequired isScored agrees.raises
  · intro idle
    have isScoredToo := isScored
    rw [← scoredCandidates_congr _ _ _ _ _ sameRequired] at isScoredToo
    obtain ⟨noAttempts, chatEnds, chatKept⟩ := runFrom_idle engine ⟨requestId, virtualModel⟩
      (chatAttempt service (Upstream.failing _ fails) virtualModel) { store := start } idle
    obtain ⟨noContacts, streamEnds, streamKept⟩ := selectFrom_idle engine
      ⟨requestId, virtualModel⟩ service (Upstream.failing _ fails) 0 idle
    obtain ⟨streamResult, streamStore⟩ := chatStream_raised requestId isScoredToo streamEnds
    obtain ⟨log, isLog, chatRun, chatResult, chatStore⟩ := chat_scored engine clock
      (Upstream.failing _ fails) requestId isScored
    exact
      { attempts := by
          refine ⟨log, _, chatRun, chatStream_selection requestId isScoredToo, ?_⟩
          rw [isLog, Selection.attempted, noContacts]
          exact noAttempts
        state := by
          rw [chatStore, streamStore, streamKept, isLog]
          exact congrArg (withoutEvents kind) chatKept
        raises := by
          refine ⟨⟨virtualModel, 0, none⟩, ?_, streamResult⟩
          rw [chatResult, isLog]
          exact congrArg chatEnding chatEnds }

/-- Every credential of the route is disabled. -/
theorem routingAgrees_iff_disabled :
    RoutingAgrees .inMemory
      (chat InMemoryStateStore.store {} (keyedService "s") ⟨fun _ => 0, fun _ => 0⟩
        (Upstream.failing _ fun _ _ => .http 500 "" []) "r" "v" [] 0
        { InMemoryStateStore.empty with
          credential := UpsertTable.empty.upsert ("p", some "k") .disabled })
      (chatStream InMemoryStateStore.store {} (keyedService "s") ⟨fun _ => 0, fun _ => 0⟩
        (Upstream.failing _ fun _ _ => .http 500 "" []) "r" "v" [] 0
        { InMemoryStateStore.empty with
          credential := UpsertTable.empty.upsert ("p", some "k") .disabled }) := by
  refine (routingAgrees_iff .inMemory {} _ _ _ "r" "v" 0 _ rfl rfl).mpr ?_
  intro position sc found
  obtain ⟨rfl, rfl⟩ : position = 0 ∧ _ = sc := by
    cases position with
    | zero => exact ⟨rfl, Option.some.inj found⟩
    | succ position => cases found
  rfl

/-- The only candidate fails, however it does: `chat` reports a class, and
`chat_stream` reports none. -/
theorem routing_disagrees_on_failure :
    validate (singleProviderConfig [{ id := "k", env := "K" }]) = .ok () ∧
      ∀ fails, ¬ RoutingAgrees .inMemory
        (chat InMemoryStateStore.store {} (keyedService "s") ⟨fun _ => 0, fun _ => 0⟩
          (Upstream.failing _ fails) "r" "v" [] 0 InMemoryStateStore.empty)
        (chatStream InMemoryStateStore.store {} (keyedService "s") ⟨fun _ => 0, fun _ => 0⟩
          (Upstream.failing _ fails) "r" "v" [] 0 InMemoryStateStore.empty) := by
  refine ⟨rfl, ?_⟩
  intro fails agrees
  have idle := idle_of_raises .inMemory rfl rfl agrees.raises
  have closed := idle 0 _ rfl
  revert closed
  decide

/-! ## What the two loops share -/

section Shared

variable (kind : StoreKind) (engine : FallbackEngine) (service : GatewayService) (clock : Clock)
  (request : RequestInfo) (fails : Nat → RouteCandidate → UpstreamException)

/-- An api candidate with an adapter and a secret. -/
structure Contactable (sc : ScoredCandidate) : Prop where
  api : sc.candidate.executorType = .api
  prepared : Prepared service sc.candidate

/-- The run and the selection made the same attempts and left the same store,
events included. They end with as many attempts, or both at the ceiling. -/
structure RoutesAlike {σ : Type} (log : RunLog σ Dict) (selection : Selection σ) : Prop where
  attempts : runAttempts log = selection.attempted
  store : log.store = selection.store
  ending : ∃ made, selection.ending =
      .raised (.noEligible ⟨request.virtualModel, made, none⟩) ∧
    ((∃ lastError, log.ending = .noEligible ⟨request.virtualModel, made, lastError⟩) ∨
      engine.policy.hardAttemptCeiling ≤ made ∧
        log.ending = .hardCeiling ⟨engine.policy.hardAttemptCeiling, request.virtualModel⟩)

variable {service fails}

/-- The bookkeeping of one failed call and of one failed contact leave the same
store, and both loops go on. -/
theorem oneCall_contactCandidate {sc : ScoredCandidate} (contactable : Contactable service sc)
    (unlimited : engine.policy.routeCandidateLimit = none)
    (noRetry : ∀ number candidate,
      nextAction (candidateFailure (fails number candidate)).errorClass 0 engine.policy =
        .nextCandidate)
    (progress : Progress kind.Contents) (secret : String) :
    ∃ progress' call contact,
      oneCall kind.store engine clock request (chatAttempt service (Upstream.failing _ fails)
        request.virtualModel) sc.candidate 0 progress = (.next progress', call) ∧
      contactCandidate kind.store engine clock (Upstream.failing _ fails) request
        (progress.attempts + 1) sc.candidate secret progress.store = (contact, none) ∧
      progress'.attempts = progress.attempts + 1 ∧ call.number = progress.attempts + 1 ∧
      contact.number = progress.attempts + 1 ∧ contact.candidate = sc.candidate ∧
      contact.settled = progress'.store := by
  have keyed := contactable.prepared.keyed
  obtain ⟨own, isSecret⟩ := contactable.prepared.2
  generalize failure : candidateFailure (fails (progress.attempts + 1) sc.candidate) = failed
  have action := noRetry (progress.attempts + 1) sc.candidate
  have uncommitted := candidateFailure_committed (fails (progress.attempts + 1) sc.candidate)
  rw [failure] at action uncommitted
  obtain ⟨applied, isApplied⟩ := applyFailure_done kind engine keyed
    (clock.settle (progress.attempts + 1)) failed progress.store
  obtain ⟨recorded, isRecorded⟩ := recordRouteEvent_done kind (routeEvent request sc.candidate
    (progress.attempts + 1) (some failed.errorClass) .nextCandidate) applied
  have answered : chatAttempt service (Upstream.failing _ fails) request.virtualModel
      (progress.attempts + 1) sc.candidate progress.store = (.failed failed, progress.store) := by
    simp only [chatAttempt, contactable.api, attemptApi, contactable.prepared.1, isSecret,
      Upstream.failing, failure, Bool.true_eq_false, if_false]
  let progress' : Progress kind.Contents :=
    { store := recorded
      attempts := progress.attempts + 1
      fallbackCount := progress.fallbackCount + 1
      lastError := some failed.errorClass
      events := progress.events ++ [routeEvent request sc.candidate (progress.attempts + 1)
        (some failed.errorClass) .nextCandidate] }
  have settled : settleCall kind.store engine clock request sc.candidate 0
      (.failed failed : AttemptOutcome Dict)
      { progress with store := progress.store, attempts := progress.attempts + 1 } =
        (none, .next progress') := by
    simp only [settleCall, uncommitted, Bool.false_eq_true, if_false, afterFailure, isApplied,
      action, actionOf, Progress.record, isRecorded, afterAction, candidateLimitReached,
      unlimited]
    rfl
  refine ⟨progress',
    ⟨progress.attempts + 1, progress.store, .failed failed, progress.store, recorded, none⟩,
    ⟨progress.attempts + 1, sc.candidate, secret,
      ⟨[], some (fails (progress.attempts + 1) sc.candidate)⟩, progress.store, progress.store,
      recorded⟩, ?_, ?_, rfl, rfl, rfl, rfl, rfl⟩
  · simp only [oneCall, answered, settled]
    rfl
  · simp only [contactCandidate, Upstream.failing, readPrefix, settlePrefix, failure, isApplied,
      isRecorded, StoreResult.state_done]

/-- The two loops in lockstep, from one position and one store on. -/
theorem runFrom_selectFrom_alike (unlimited : engine.policy.routeCandidateLimit = none)
    (noRetry : ∀ number candidate,
      nextAction (candidateFailure (fails number candidate)).errorClass 0 engine.policy =
        .nextCandidate)
    {scored : List ScoredCandidate} (contactable : ∀ sc ∈ scored, Contactable service sc)
    (position : Nat) (progress : Progress kind.Contents) :
    RoutesAlike engine request
      (runFrom kind.store engine clock request (chatAttempt service (Upstream.failing _ fails)
        request.virtualModel) scored position progress)
      (selectFrom kind.store engine service clock (Upstream.failing _ fails) request scored
        position progress.attempts progress.store) := by
  induction scored generalizing position progress with
  | nil => exact ⟨rfl, rfl, _, rfl, Or.inl ⟨_, rfl⟩⟩
  | cons sc rest inductionHypothesis =>
      have laterAlike := inductionHypothesis fun sc member =>
        contactable sc (List.mem_cons_of_mem _ member)
      by_cases isOpen : attemptable kind.store (clock.check position) progress.store sc = true
      · by_cases reached : engine.policy.hardAttemptCeiling ≤ progress.attempts
        · simp only [runFrom, selectFrom, isOpen, reached, if_true,
            (attemptBudget_eq_zero_iff engine progress.attempts).mpr reached, attemptCandidate]
          exact ⟨rfl, rfl, _, rfl, Or.inr ⟨reached, rfl⟩⟩
        · have own := contactable sc List.mem_cons_self
          obtain ⟨secret, lookup⟩ := prepare_ok_iff.mpr own.prepared
          obtain ⟨progress', call, contact, called, contacted, attempts, number, contactNumber,
            contactCandidate, settled⟩ := oneCall_contactCandidate kind engine clock request own
              unlimited noRetry progress secret
          obtain ⟨budget, left⟩ := Nat.exists_eq_succ_of_ne_zero fun zero =>
            reached ((attemptBudget_eq_zero_iff engine progress.attempts).mp zero)
          have later := laterAlike (position + 1) progress'
          rw [attempts, ← settled] at later
          simp only [runFrom, selectFrom, isOpen, reached, if_true, if_false, left,
            attemptCandidate, called, lookup, contacted]
          exact
            { attempts := by
                change [(call.number, sc.candidate)] ++ runAttempts _ =
                  [(contact.number, contact.candidate)] ++ Selection.attempted _
                rw [number, contactNumber, contactCandidate]
                exact congrArg _ later.attempts
              store := later.store
              ending := later.ending }
      · have closed : attemptable kind.store (clock.check position) progress.store sc = false := by
          simpa using isOpen
        simp only [runFrom, selectFrom, closed, Bool.false_eq_true, if_false]
        have later := laterAlike (position + 1) progress
        exact ⟨later.attempts, later.store, later.ending⟩

end Shared

/-- Without retries and without a candidate limit, the two entries make the
same attempts and leave the same store, whatever the attempts fail with. -/
theorem chat_chatStream_alike (kind : StoreKind) (engine : FallbackEngine)
    (service : GatewayService) (clock : Clock) (fails : Nat → RouteCandidate → UpstreamException)
    (requestId virtualModel : String) {payload streamPayload : Dict} (counter : Nat)
    (start : kind.Contents) {scored : List ScoredCandidate}
    (sameRequired : capabilitiesFromPayload streamPayload = capabilitiesFromPayload payload)
    (isScored : (scoredCandidates kind.store service virtualModel payload counter start).1 =
      .ok scored)
    (reachable : ∀ sc ∈ scored, sc.candidate.executorType = .api ∧
      ∃ secret, service.secret sc.candidate = .ok secret)
    (unlimited : engine.policy.routeCandidateLimit = none)
    (noRetry : ∀ number candidate,
      nextAction (candidateFailure (fails number candidate)).errorClass 0 engine.policy =
        .nextCandidate) :
    ∃ log selection,
      (chat kind.store engine service clock (Upstream.failing _ fails) requestId virtualModel
        payload counter start).run = some log ∧
      (chatStream kind.store engine service clock (Upstream.failing _ fails) requestId
        virtualModel streamPayload counter start).selection = some selection ∧
      RoutesAlike engine ⟨requestId, virtualModel⟩ log selection := by
  have isScoredToo := isScored
  rw [← scoredCandidates_congr _ _ _ _ _ sameRequired] at isScoredToo
  have contactable : ∀ sc ∈ scored, Contactable service sc := fun sc member =>
    ⟨(reachable sc member).1,
      (prepared_iff (isCandidate_of_mem_scoredCandidates isScored member)).mpr
        (reachable sc member)⟩
  obtain ⟨log, rfl, isLog, -, -⟩ := chat_scored engine clock (Upstream.failing _ fails) requestId
    isScored
  exact ⟨_, _, isLog, chatStream_selection requestId isScoredToo,
    runFrom_selectFrom_alike kind engine clock ⟨requestId, virtualModel⟩ unlimited noRetry
      contactable 0 { store := start }⟩

end AutoRouteGateway.Service
