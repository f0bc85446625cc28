import AutoRouteGateway.Routing.CandidateLimit
import AutoRouteGateway.Service.RouteIsolation

/-!
Contract: a provider in service is reached.

As long as one provider answers every attempt on its candidates, nothing that
happens elsewhere keeps them out: a request that lists one of them runs out of
candidates only when the attempts before it use up the ceiling.

Owns: the invariant that keeps such a candidate eligible in every interleaving,
and how requests that list it can end.
-/

namespace AutoRouteGateway.Service

open AutoRouteGateway.Domain
open AutoRouteGateway.Library
open AutoRouteGateway.Library.Coroutine
open AutoRouteGateway.Policy
open AutoRouteGateway.Routing
open AutoRouteGateway.Runtime
open AutoRouteGateway.State

/-- The provider lets no attempt down: a call returns, and a stream begins with
content or ends cleanly with its marker. -/
def InService {ρ : Type} (providerId : String) : (question : Question) → question.Answer ρ → Prop
  | .call _ _ candidate _, outcome =>
      candidate.providerId = providerId → ∃ value, outcome = AttemptOutcome.returned value
  | .contact _ candidate _ _, stream =>
      candidate.providerId = providerId → ∃ buffered rest,
        readPrefix stream.ending stream.events = .selected buffered rest
  | _, _ => True

/-- The request ran out of candidates with attempts to spare. A stream that was
selected and fails before its first content names the class of that failure. -/
def Starved {ρ : Type} (engine : FallbackEngine) : RequestEnd ρ → Prop
  | .ran (.noEligible _) => True
  | .streamed (.error (.noEligible error)) =>
      error.lastError = none ∧ (error.attempts : Int) < engine.policy.hardAttemptCeiling
  | _ => False

/-! ## What keeps a candidate eligible -/

section Eligibility

variable {kind : StoreKind} {engine : FallbackEngine} {candidate : RouteCandidate} {now : Instant}

/-- The call is about another provider, or a success. -/
def KeepsIn (providerId : String) (call : EngineCall) : Prop :=
  call.candidate.providerId = providerId → ∃ candidate, call = .succeeded candidate

/-- A success holds nobody longer. -/
theorem hold_boardSuccess_le (board : Board kind.scopedStore.scheme) (succeeded : RouteCandidate)
    (reader : StateSubject) : (boardSuccess succeeded board).hold reader ≤ board.hold reader := by
  unfold boardSuccess Board.hold
  rw [Board.seenQuota_postHealth, Board.seenCredential_postHealth]
  by_cases reads : board.ReadsHealth (providerModelSubject succeeded) reader
  · rw [Board.seenHealth_postHealth_of_reads reads]
    exact sup_le_sup_right (sup_le_sup_right bot_le _) _
  · rw [Board.seenHealth_postHealth_of_not_reads reads]

theorem hold_boardAfter_le {calls : List EngineCall}
    (keepsIn : ∀ call ∈ calls, KeepsIn candidate.providerId call)
    (board : Board kind.scopedStore.scheme) :
    (boardAfter engine calls board).hold (subject candidate) ≤ board.hold (subject candidate) := by
  induction calls generalizing board with
  | nil => exact le_refl _
  | cons call rest inductionHypothesis =>
      obtain ⟨own, later⟩ := List.forall_mem_cons.mp keepsIn
      refine le_trans (inductionHypothesis later _) ?_
      by_cases isOwn : call.candidate.providerId = candidate.providerId
      · obtain ⟨succeeded, rfl⟩ := own isOwn
        exact hold_boardSuccess_le board succeeded _
      · have same : SameRows (fun id => id = candidate.providerId) (boardCall engine board call)
            board := sameRows_boardCall engine board isOwn
        unfold Board.hold
        rw [same.seenHealth rfl, same.seenQuota rfl, same.credential _ rfl]

/-- Such calls leave an eligible candidate eligible. -/
theorem eligible_of_keepsIn {calls : List EngineCall}
    (keepsIn : ∀ call ∈ calls, KeepsIn candidate.providerId call) {s s' : kind.Contents}
    (board : kind.scopedStore.board s' = boardAfter engine calls (kind.scopedStore.board s))
    (isEligible : eligible kind.store now s candidate = true) :
    eligible kind.store now s' candidate = true := by
  rw [← Bool.not_eq_false, eligible_eq_false_iff kind.scopedStore] at isEligible ⊢
  rw [board]
  intro blocked
  exact isEligible (lt_of_lt_of_le blocked (hold_boardAfter_le keepsIn _))

/-- An answer in service leads to such calls only. -/
theorem keepsIn_of_inService {ρ : Type} (clock : Clock) {providerId : String}
    {question : Question} {answer : question.Answer ρ}
    (inService : InService providerId question answer) :
    ∀ call ∈ engineCalls clock question answer, KeepsIn providerId call := by
  intro call member isOwn
  cases question with
  | arrival => cases member
  | yielded attempt event => cases member
  | call number retries asked now =>
      rw [candidate_of_mem_outcomeCalls member] at isOwn
      obtain ⟨value, isValue⟩ := inService isOwn
      subst isValue
      exact ⟨asked, List.mem_singleton.mp member⟩
  | contact number asked secret now =>
      obtain ⟨attempt, isAttempt⟩ := candidate_of_mem_engineCalls member
      cases isAttempt
      change UpstreamStream at answer
      obtain ⟨buffered, rest, selected⟩ := inService isOwn
      rw [engineCalls_contact, selected] at member
      cases member

/-- An eligible candidate is scored as usable. -/
theorem usable_of_eligible {σ : Type} {S : StateStore σ} {s : σ}
    (isEligible : eligible S now s candidate = true) :
    (scoreCandidate S s candidate).usable = true := by
  rw [← Bool.not_eq_false, eligible_eq_false_iff_reads, not_or, not_or, not_or] at isEligible
  exact usable_scoreCandidate_iff.mpr ⟨isEligible.1, isEligible.2.1, isEligible.2.2.1⟩

end Eligibility

/-! ## How a request ends -/

section Ends

variable {ρ : Type} {kind : StoreKind} {engine : FallbackEngine} {service : GatewayService}
  {clock : Clock} {request : RequestInfo} {candidate : RouteCandidate} {since : Instant}

variable (ρ kind engine candidate since) in
/-- From states in which the candidate is eligible, and by answers of a provider
in service, the coroutine does not end starved. -/
abbrev Fed : RequestCoroutine kind.Contents ρ → Prop :=
  EndsWell (fun s => eligible kind.store since s candidate = true)
    (InService candidate.providerId) fun ending => ¬ Starved engine ending

theorem afterException_ne_noEligible {called : RouteCandidate} {text : String}
    {progress left : Progress kind.Contents} {error : NoEligibleCandidateError} :
    (afterException (ρ := ρ) kind.store engine clock request called text progress).2 ≠
      .stop (.noEligible error) left := by
  intro stops
  unfold afterException at stops
  dsimp only at stops
  split at stops
  · cases stops
  · split at stops <;> cases stops

/-- Only a used up candidate limit makes the bookkeeping of a call end a run for
want of a candidate. -/
theorem limitReached_of_stop {called : RouteCandidate} {retries : Nat}
    {outcome : AttemptOutcome ρ} {progress left : Progress kind.Contents}
    {error : NoEligibleCandidateError}
    (stops : (settleCall kind.store engine clock request called retries outcome progress).2 =
      .stop (.noEligible error) left) :
    candidateLimitReached engine.policy (progress.fallbackCount + 1) = true := by
  cases outcome with
  | raised text => exact absurd stops afterException_ne_noEligible
  | returned value =>
      unfold settleCall afterReturn at stops
      dsimp only at stops
      split at stops
      · exact absurd stops afterException_ne_noEligible
      · split at stops
        · exact absurd stops afterException_ne_noEligible
        · cases stops
  | failed failure =>
      unfold settleCall at stops
      dsimp only at stops
      split at stops
      · unfold afterCommittedFailure at stops
        split at stops <;> cases stops
      · unfold afterFailure at stops
        dsimp only at stops
        split at stops
        · cases stops
        · split at stops
          · cases stops
          · rename_i recorded
            obtain ⟨-, sameFallbacks⟩ := Progress.record_counters recorded
            unfold afterAction at stops
            split at stops
            · cases stops
            · dsimp only at stops sameFallbacks
              split at stops
              · rename_i reached
                rwa [sameFallbacks] at reached
              · cases stops

/-- Without a candidate limit it ends none so. -/
theorem not_starved_of_stop (unlimited : engine.policy.routeCandidateLimit = none)
    {called : RouteCandidate} {retries : Nat} {outcome : AttemptOutcome ρ}
    {progress left : Progress kind.Contents} {ending : RunEnding ρ}
    (stops : (settleCall kind.store engine clock request called retries outcome progress).2 =
      .stop ending left) : ¬ Starved engine (.ran ending) := by
  cases ending with
  | finished result value => exact id
  | hardCeiling error => exact id
  | storeError error => exact id
  | noEligible error =>
      have reached := limitReached_of_stop stops
      rw [candidateLimitReached, unlimited] at reached
      cases reached

/-- A returned value ends the run. -/
theorem returned_stops (engine : FallbackEngine) (clock : Clock) (request : RequestInfo)
    (called : RouteCandidate) (retries : Nat) (value : ρ) (progress : Progress kind.Contents) :
    ∃ ending left,
      (settleCall kind.store engine clock request called retries (.returned value) progress).2 =
        .stop ending left := by
  obtain ⟨s, applied, -⟩ := applySuccess_effect kind called progress.store
  obtain ⟨left, recorded, -⟩ := progress_record_effect
    (routeEvent request called progress.attempts none .success) { progress with store := s }
  simp only [settleCall, afterReturn, applied, recorded]
  exact ⟨_, _, rfl⟩

/-- The retry loop on one candidate: one of the provider's own ends the run, and
after any other the candidate is still eligible. -/
theorem fed_attemptOn (unlimited : engine.policy.routeCandidateLimit = none)
    {called : RouteCandidate} {proceed : Progress kind.Contents → RequestSegment kind.Contents ρ}
    (proceeds : called.providerId ≠ candidate.providerId → ∀ progress : Progress kind.Contents,
      eligible kind.store since progress.store candidate = true →
        Fed ρ kind engine candidate since (proceed progress).2)
    (budget retries : Nat) (now : Instant) (progress : Progress kind.Contents) :
    Fed ρ kind engine candidate since
      (attemptOn kind.store engine clock request called proceed budget retries now progress).2 := by
  induction budget generalizing retries now progress with
  | zero => exact id
  | succ budget inductionHypothesis =>
      rw [attemptOn]
      refine endsWell_pause.mpr ?_
      intro outcome s held inService
      change AttemptOutcome ρ at outcome
      let returned : Progress kind.Contents :=
        { progress with store := s, attempts := progress.attempts + 1 }
      obtain ⟨-, settled⟩ :=
        settleCall_effect engine clock request called retries outcome returned
      have keepsIn := keepsIn_of_inService clock inService
      have still := eligible_of_keepsIn keepsIn settled.board held
      cases isStep : (settleCall kind.store engine clock request called retries outcome
          returned).2 with
      | stop ending left => exact not_starved_of_stop unlimited isStep
      | retry left => exact inductionHypothesis _ _ left
      | next left =>
          rw [isStep] at still
          refine proceeds ?_ left still
          intro own
          obtain ⟨value, isValue⟩ := inService own
          obtain ⟨ending, last, stops⟩ := returned_stops engine clock request called retries value
            returned
          rw [isValue, stops] at isStep
          cases isStep

variable (candidate) in
/-- The candidate is still to come, and was found usable. -/
def Listed (scored : List ScoredCandidate) : Prop :=
  ∃ sc ∈ scored, sc.candidate = candidate ∧ sc.usable = true

theorem Listed.rest {sc : ScoredCandidate} {rest : List ScoredCandidate}
    (listed : Listed candidate (sc :: rest))
    (passed : sc.candidate = candidate → sc.usable = true → False) : Listed candidate rest := by
  obtain ⟨own, member, isOwn, usable⟩ := listed
  rcases List.mem_cons.mp member with rfl | later
  · exact (passed isOwn usable).elim
  · exact ⟨own, later, isOwn, usable⟩

/-- An eligible candidate that was found usable is attempted when its turn comes. -/
theorem attemptable_of_eligible (clocked : ∀ position, since ≤ clock.check position)
    {s : kind.Contents} (held : eligible kind.store since s candidate = true)
    {sc : ScoredCandidate} (isOwn : sc.candidate = candidate) (usable : sc.usable = true)
    (position : Nat) : attemptable kind.store (clock.check position) s sc = true := by
  rw [attemptable, usable, isOwn]
  exact eligible_later held (clocked position)

/-- The loop over the scored list, by induction on it. -/
theorem fed_runOver (unlimited : engine.policy.routeCandidateLimit = none)
    (clocked : ∀ position, since ≤ clock.check position) {scored : List ScoredCandidate}
    (listed : Listed candidate scored) (position : Nat)
    (progress : Progress kind.Contents)
    (held : eligible kind.store since progress.store candidate = true) :
    Fed ρ kind engine candidate since
      (runOver kind.store engine clock request scored position progress).2 := by
  induction scored generalizing position progress with
  | nil =>
      obtain ⟨sc, member, -⟩ := listed
      cases member
  | cons sc rest inductionHypothesis =>
      rw [runOver]
      split
      · apply fed_attemptOn unlimited
        intro foreign left held'
        refine inductionHypothesis (listed.rest ?_) _ left held'
        exact fun isOwn _ => foreign (congrArg RouteCandidate.providerId isOwn)
      · rename_i closed
        refine inductionHypothesis (listed.rest ?_) _ progress held
        exact fun isOwn usable =>
          closed (attemptable_of_eligible clocked held isOwn usable position)

/-! ### Streams -/

/-- A delivery that fails names the class of its failure. -/
theorem not_starved_deliveryFailure (handle : StreamHandle) (exception : UpstreamException)
    (committed : Bool) (s : kind.Contents) :
    ¬ Starved (ρ := ρ) engine
      (.streamed (deliveryFailure kind.store request handle exception committed s).result) := by
  obtain ⟨s', recorded, -⟩ := record_effect kind
    (routeEvent request handle.candidate handle.attempt
      (some (candidateFailure exception).errorClass)
      (if committed then .partialStreamFailure else .nextCandidate)) s
  simp only [deliveryFailure, recorded]
  cases committed with
  | false =>
      rintro ⟨classless, -⟩
      cases classless
  | true => exact id

theorem fed_deliveryEnd (handle : StreamHandle) (exception : UpstreamException)
    (committed : Bool) (s : kind.Contents) :
    Fed ρ kind engine candidate since
      (deliveryEnd kind.store request handle exception committed s).2 :=
  not_starved_deliveryFailure handle exception committed s

theorem fed_deliverOn (handle : StreamHandle) (items : List (Bool × Event)) (committed : Bool)
    (s : kind.Contents) :
    Fed ρ kind engine candidate since
      (deliverOn kind.store request handle items committed s).2 := by
  induction items generalizing committed s with
  | nil =>
      rw [deliverOn]
      cases handle.ending with
      | none => exact id
      | some exception => exact fed_deliveryEnd _ _ _ _
  | cons item rest inductionHypothesis =>
      obtain ⟨replayed, event⟩ := item
      rw [deliverOn]
      cases commits replayed committed event with
      | error text => exact fed_deliveryEnd _ _ _ _
      | ok committed' =>
          dsimp only
          cases recordDone kind.store request handle event s with
          | raised error s' => exact fed_deliveryEnd _ _ _ _
          | done s' =>
              refine endsWell_pause.mpr ?_
              intro answer s'' held inService
              exact inductionHypothesis committed' s''

/-- After a contact: one of the provider's own selects its stream, and after any
other the candidate is still eligible. -/
theorem fed_contactEnd {called : RouteCandidate}
    {proceed : kind.Contents → RequestSegment kind.Contents ρ}
    (proceeds : called.providerId ≠ candidate.providerId → ∀ s : kind.Contents,
      eligible kind.store since s candidate = true →
        Fed ρ kind engine candidate since (proceed s).2)
    {number : Nat} {secret : String} {now : Instant} {stream : UpstreamStream}
    {s : kind.Contents} (held : eligible kind.store since s candidate = true)
    (inService : InService (ρ := ρ) candidate.providerId (.contact number called secret now)
      stream) :
    Fed ρ kind engine candidate since
      (contactEnd kind.store engine clock request number called proceed stream s).2 := by
  have keepsIn := keepsIn_of_inService clock inService
  rw [engineCalls_contact] at keepsIn
  unfold contactEnd
  cases read : readPrefix stream.ending stream.events with
  | selected buffered rest => exact fed_deliverOn _ _ _ _
  | exhausted =>
      obtain ⟨s', recorded, board, -⟩ := record_effect kind
        (routeEvent request called number (some .server) .nextCandidate) s
      have untouched : kind.scopedStore.board s' =
          boardAfter engine [] (kind.scopedStore.board s) := board
      simp only [settlePrefix, recorded]
      refine proceeds ?_ s' (eligible_of_keepsIn (List.forall_mem_nil _) untouched held)
      intro own
      obtain ⟨buffered, rest, selected⟩ := inService own
      rw [selected] at read
      cases read
  | failed exception =>
      rw [read] at keepsIn
      obtain ⟨s', applied, board, -⟩ | ⟨error, s', applied, -⟩ := applyFailure_effect kind engine
        (clock.settle number) called (candidateFailure exception) s
      · obtain ⟨s'', recorded, sameBoard, -⟩ := record_effect kind
          (routeEvent request called number (some (candidateFailure exception).errorClass)
            .nextCandidate) s'
        simp only [settlePrefix, applied, recorded]
        refine proceeds ?_ s'' (eligible_of_keepsIn keepsIn (sameBoard.trans board) held)
        intro own
        obtain ⟨buffered, rest, selected⟩ := inService own
        rw [selected] at read
        cases read
      · simp only [settlePrefix, applied]
        exact id

/-- The selection loop, by induction on the list. -/
theorem fed_selectOver (clocked : ∀ position, since ≤ clock.check position)
    {scored : List ScoredCandidate} (listed : Listed candidate scored)
    (position attempts : Nat) (s : kind.Contents)
    (held : eligible kind.store since s candidate = true) :
    Fed ρ kind engine candidate since
      (selectOver kind.store engine service clock request scored position attempts s).2 := by
  induction scored generalizing position attempts s with
  | nil =>
      obtain ⟨sc, member, -⟩ := listed
      cases member
  | cons sc rest inductionHypothesis =>
      rw [selectOver]
      split
      · split
        · rename_i used
          rintro ⟨-, spare⟩
          exact absurd used (Int.not_le.mpr spare)
        · cases prepared : prepare service sc.candidate with
          | error error =>
              cases error with
              | noEligible own => exact absurd rfl (prepare_error_ne prepared own)
              | _ => exact id
          | ok secret =>
              dsimp only
              refine endsWell_pause.mpr ?_
              intro stream s' held' inService
              refine fed_contactEnd ?_ held' inService
              intro foreign s'' held''
              refine inductionHypothesis (listed.rest ?_) _ _ s'' held''
              exact fun isOwn _ => foreign (congrArg RouteCandidate.providerId isOwn)
      · rename_i closed
        refine inductionHypothesis (listed.rest ?_) _ _ s held
        exact fun isOwn usable =>
          closed (attemptable_of_eligible clocked held isOwn usable position)

end Ends

/-! ## Every interleaving -/

section Interleaved

variable {ρ : Type} (kind : StoreKind) (engine : FallbackEngine) (service : GatewayService)
  {ι : Type} [DecidableEq ι] (requests : ι → Request kind.Contents) (start : kind.Contents)
  (schedule : List (Move ι Question (Question.Answer ρ)))

/-- Without a candidate limit, and whatever the other providers do: while a
provider is in service, a candidate of its that was eligible stays so, and no
request that lists it runs out of candidates before the ceiling. -/
theorem provider_in_service_is_reached (unlimited : engine.policy.routeCandidateLimit = none)
    (candidate : RouteCandidate) (since : Instant)
    (isEligible : eligible kind.store since start candidate = true)
    (inService : ∀ made ∈
      (requestPool (ρ := ρ) kind engine service requests start).transcript schedule,
      InService candidate.providerId made.2.question made.2.answer) :
    eligible kind.store since
        ((requestPool (ρ := ρ) kind engine service requests start).run schedule).state candidate =
          true ∧
      ∀ i, ServedBy kind service (requests i) →
        (∀ position, since ≤ (requests i).clock.check position) →
        (∀ s scored, (requests i).scored s = .ok scored →
          candidate ∈ scored.map ScoredCandidate.candidate) →
        ∀ ending,
          ((requestPool (ρ := ρ) kind engine service requests start).run schedule).result? i =
            some ending → ¬ Starved engine ending := by
  have follows := requestPool_follows (ρ := ρ) kind engine service requests start
  have kept : ∀ i talk question (answer : question.Answer ρ) (s s' : kind.Contents),
      (requestProtocol kind engine service (requests i)).asks talk question →
      (requestProtocol kind engine service (requests i)).effect talk question answer s s' →
      InService candidate.providerId question answer →
      eligible kind.store since s candidate = true →
      eligible kind.store since s' candidate = true := by
    intro i talk question answer s s' asks effect served held
    exact eligible_of_keepsIn (keepsIn_of_inService _ served) effect.board held
  refine ⟨Pool.invariant_run follows kept isEligible schedule inService, ?_⟩
  intro i served clocked lists ending isOver
  have fed : Fed ρ kind engine candidate since
      ((requests i).coroutine kind.store engine service) := by
    refine endsWell_pause.mpr ?_
    intro arrived s held _
    unfold Request.start
    cases isScored : (requests i).scored s with
    | error error => exact id
    | ok scored =>
        have listed : Listed candidate scored := by
          obtain ⟨sc, member, isOwn⟩ := List.mem_map.mp (lists s scored isScored)
          refine ⟨sc, member, isOwn, ?_⟩
          obtain ⟨payload, counter, isList⟩ := served
          rw [isList] at isScored
          obtain ⟨required, enumerated, -, -, rfl⟩ := scoredCandidates_eq isScored
          obtain ⟨listed, -, rfl⟩ := mem_scoreCandidates.mp member
          subst isOwn
          exact usable_of_eligible held
        cases entry : (requests i).entry with
        | run => exact fed_runOver unlimited clocked listed 0 { store := s } held
        | chatStream => exact fed_selectOver clocked listed 0 0 s held
  have ends := Pool.endsWell_run follows kept isEligible fed schedule inService
  unfold Pool.result? at isOver
  split at isOver
  · rename_i result thread
    cases isOver
    rw [thread] at ends
    exact ends
  · cases isOver

end Interleaved

/-! ### Two steps -/

/-- The route `v` to the provider `p`, then to the provider `q`. -/
def twoStepsService : GatewayService where
  config := { twoRoutesService.config with
    routes := UpsertTable.empty.upsert "v" ⟨[⟨"p", none⟩, ⟨"q", none⟩]⟩ }
  resolver := twoRoutesService.resolver
  built := twoRoutesService.built
  isBuilt := twoRoutesService.isBuilt

def twoStepsRequest : Request InMemoryStateStore where
  entry := .run
  info := ⟨"r", "v"⟩
  clock := ⟨fun _ => 0, fun _ => 0⟩
  scored := fun s =>
    (scoredCandidates InMemoryStateStore.store twoStepsService "v" [] 0 s).1

/-- The candidate of a provider with one key and one model. -/
def keyedCandidate (id : String) : RouteCandidate where
  providerId := id
  credentialId := some "k"
  concreteModel := ⟨"m", id, {.text, .usage}⟩
  capabilities := {.text, .usage}
  executorType := .api

/-- The request arrives, the key of `p` is refused, and `q` answers. -/
def refusedThenServed : List (Move Unit Question (Question.Answer Dict)) :=
  [⟨(), calledBack (.returned [])⟩, ⟨(), calledBack (.failed { errorClass := .auth })⟩,
    ⟨(), calledBack (.returned [])⟩]

/-- `q` is in service, so the request does not run out of candidates. -/
theorem served_after_refused_key :
    ∃ ending, ((requestPool .inMemory {} twoStepsService (fun _ : Unit => twoStepsRequest)
      .empty).run refusedThenServed).result? () = some ending ∧ ¬ Starved {} ending := by
  refine ⟨_, rfl, ?_⟩
  refine (provider_in_service_is_reached .inMemory {} twoStepsService
    (fun _ : Unit => twoStepsRequest) .empty refusedThenServed rfl (keyedCandidate "q") 0 rfl
    ?_).2 () ⟨[], 0, rfl⟩ (fun _ => le_refl _) ?_ _ rfl
  · have made : (requestPool .inMemory {} twoStepsService (fun _ : Unit => twoStepsRequest)
        .empty).transcript refusedThenServed =
        [((), ⟨.arrival, ()⟩),
          ((), ⟨.call 1 0 (keyedCandidate "p") 0,
            AttemptOutcome.failed { errorClass := .auth }⟩),
          ((), ⟨.call 2 0 (keyedCandidate "q") 0, AttemptOutcome.returned []⟩)] := rfl
    rw [made, List.forall_mem_cons, List.forall_mem_cons, List.forall_mem_singleton]
    refine ⟨trivial, ?_, fun _ => ⟨[], rfl⟩⟩
    exact fun own => absurd own (by decide)
  · intro s scored found
    obtain ⟨required, enumerated, isRequired, build, rfl⟩ := scoredCandidates_eq found
    cases isRequired
    cases build
    exact List.mem_map.mpr ⟨_, mem_scoreCandidates.mpr ⟨keyedCandidate "q", by decide, rfl⟩, rfl⟩

end AutoRouteGateway.Service
