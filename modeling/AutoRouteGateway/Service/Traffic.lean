import AutoRouteGateway.Library.Stops
import AutoRouteGateway.Service.RequestProtocol

/-!
Contract: any number of requests on one store, in any interleaving.

Owns: what the conversation of each request looks like, which events the log
holds, and which history of the engine the board went through.

Every result is about an arbitrary schedule: which request moves next, and what
its attempts are answered, is not restricted.
-/

namespace AutoRouteGateway.Service

open AutoRouteGateway.Domain
open AutoRouteGateway.Library
open AutoRouteGateway.Policy
open AutoRouteGateway.Routing
open AutoRouteGateway.Runtime
open AutoRouteGateway.State

/-! ## The conversation of one request -/

section Orderly

variable {σ ρ : Type} (engine : FallbackEngine) (service : GatewayService) (request : Request σ)

/-- A conversation that keeps to the protocol, and what that means for the whole of it. -/
structure Orderly (talk : Talk ρ) : Prop where
  asked : ∀ earlier exchange later, talk = earlier ++ exchange :: later →
    MayAsk engine service request earlier exchange.question
  numbered : (attemptsOf talk).map Prod.fst = List.range' 1 (attemptsOf talk).length
  bounded : ((attemptsOf talk).length : Int) ≤ max 0 engine.policy.hardAttemptCeiling
  inTurn : turnsOf talk ≠ [] → ∃ s scored, request.scored s = .ok scored ∧
    (turnsOf talk).Sublist (scored.map ScoredCandidate.candidate)
  oneStream : yieldsOf talk ≠ [] → ∃ stream : UpstreamStream, yieldsOf talk <+: stream.events ∧
    ∃ earlier attempt candidate secret now later,
      talk = earlier ++ ⟨.contact attempt candidate secret now, stream⟩ :: later ∧
        yieldsOf earlier = [] ∧ attemptsOf later = []

variable {engine service request}

theorem MayYield.oneStream {talk : Talk ρ} {attempt : Nat} {event : Event}
    (mayYield : MayYield talk attempt event) :
    ∃ stream : UpstreamStream, (yieldsOf talk ++ [event]) <+: stream.events ∧
      ∃ earlier attempt candidate secret now later,
        talk = earlier ++ ⟨.contact attempt candidate secret now, stream⟩ :: later ∧
          yieldsOf earlier = [] ∧ attemptsOf later = [] := by
  obtain ⟨earlier, later, candidate, secret, now, stream, split, last, first, -, begins⟩ := mayYield
  have whole : yieldsOf talk = yieldsOf later := by
    rw [split, yieldsOf_append, first]
    rfl
  exact ⟨stream, whole ▸ begins, earlier, attempt, candidate, secret, now, later, split, first,
    last⟩

/-- An attempt that may start keeps the conversation in order. -/
theorem Orderly.attempted {talk : Talk ρ} {last : Exchange Question (Question.Answer ρ)}
    (before : Orderly engine service request talk)
    (asked : ∀ earlier exchange later, talk ++ [last] = earlier ++ exchange :: later →
      MayAsk engine service request earlier exchange.question)
    {number : Nat} {candidate : RouteCandidate}
    (attempt : last.question.attempt? = some (number, candidate))
    (may : MayAttempt engine request talk last.question number candidate)
    (silent : last.question.event? = none) :
    Orderly engine service request (talk ++ [last]) := by
  have attempts : attemptsOf (talk ++ [last]) = attemptsOf talk ++ [(number, candidate)] := by
    simp [attemptsOf, attempt]
  have turns : turnsOf (talk ++ [last]) = turnsOf talk ++ last.question.turn?.toList := by
    cases turn : last.question.turn? <;> simp [turnsOf, turn]
  have yields : yieldsOf (talk ++ [last]) = [] := by
    rw [yieldsOf_append, may.undelivered]
    simp [yieldsOf, silent]
  refine ⟨asked, ?_, ?_, ?_, fun some => absurd yields some⟩
  · rw [attempts, List.map_append, before.numbered, List.length_append, List.length_singleton,
      List.range'_1_concat, may.next, Nat.add_comm 1]
    rfl
  · rw [attempts, List.length_append, List.length_singleton, ← may.next]
    exact Int.le_trans may.below (Int.le_max_right _ _)
  · intro _
    obtain ⟨s, scored, isScored, -, sublist⟩ := may.inTurn
    exact ⟨s, scored, isScored, turns ▸ sublist⟩

/-- So does a question that starts no attempt. -/
theorem Orderly.kept {talk : Talk ρ} {last : Exchange Question (Question.Answer ρ)}
    (before : Orderly engine service request talk)
    (asked : ∀ earlier exchange later, talk ++ [last] = earlier ++ exchange :: later →
      MayAsk engine service request earlier exchange.question)
    (noAttempt : last.question.attempt? = none) (noTurn : last.question.turn? = none)
    (oneStream : yieldsOf (talk ++ [last]) ≠ [] → ∃ stream : UpstreamStream,
      yieldsOf (talk ++ [last]) <+: stream.events ∧
      ∃ earlier attempt candidate secret now later,
        talk = earlier ++ ⟨.contact attempt candidate secret now, stream⟩ :: later ∧
          yieldsOf earlier = [] ∧ attemptsOf later = []) :
    Orderly engine service request (talk ++ [last]) := by
  have attempts : attemptsOf (talk ++ [last]) = attemptsOf talk := by
    simp [attemptsOf, noAttempt]
  have turns : turnsOf (talk ++ [last]) = turnsOf talk := by
    simp [turnsOf, noTurn]
  refine ⟨asked, ?_, ?_, ?_, ?_⟩
  · rw [attempts]
    exact before.numbered
  · rw [attempts]
    exact before.bounded
  · rw [turns]
    exact before.inTurn
  · intro delivered
    obtain ⟨stream, begins, earlier, attempt, candidate, secret, now, later, split, first,
      silent⟩ := oneStream delivered
    refine ⟨stream, begins, earlier, attempt, candidate, secret, now, later ++ [last], ?_, first,
      ?_⟩
    · rw [split, List.append_assoc]
      rfl
    · rw [attemptsOf_append, silent]
      simp [attemptsOf, noAttempt]

/-- By induction on the conversation: what its last question may follow says how
it goes on. -/
theorem orderly_of_asked {talk : Talk ρ}
    (asked : ∀ earlier exchange later, talk = earlier ++ exchange :: later →
      MayAsk engine service request earlier exchange.question) :
    Orderly engine service request talk := by
  induction talk using List.reverseRecOn with
  | nil =>
      exact ⟨asked, rfl, by simp [attemptsOf], fun none => absurd rfl none,
        fun none => absurd rfl none⟩
  | append_singleton talk last inductionHypothesis =>
      have before := inductionHypothesis fun earlier exchange later split =>
        asked earlier exchange (later ++ [last]) (by rw [split]; simp)
      have mayAsk := asked talk last [] rfl
      obtain ⟨question, answer⟩ := last
      cases question with
      | arrival =>
          refine before.kept asked rfl rfl fun delivered => absurd ?_ delivered
          rw [show talk = [] from mayAsk]
          rfl
      | call number retries candidate now => exact before.attempted asked rfl mayAsk.2.1 rfl
      | contact number candidate secret now => exact before.attempted asked rfl mayAsk.2.1 rfl
      | yielded attempt event =>
          refine before.kept asked rfl rfl fun _ => ?_
          obtain ⟨stream, begins, rest⟩ := MayYield.oneStream mayAsk.2
          exact ⟨stream, by rwa [yieldsOf_append], rest⟩

/-- Every exchange but the first one is an attempt or a yield. -/
theorem Orderly.length_le {talk : Talk ρ} (orderly : Orderly engine service request talk) :
    (talk.length : Int) ≤
      1 + max 0 engine.policy.hardAttemptCeiling + (yieldsOf talk).length := by
  have counted : ∀ rest : Talk ρ, (∀ exchange ∈ rest, exchange.question ≠ .arrival) →
      rest.length = (attemptsOf rest).length + (yieldsOf rest).length := by
    intro rest started
    induction rest with
    | nil => rfl
    | cons exchange rest inductionHypothesis =>
        obtain ⟨own, later⟩ := List.forall_mem_cons.mp started
        have before := inductionHypothesis later
        obtain ⟨question, answer⟩ := exchange
        cases question with
        | arrival => exact absurd rfl own
        | call number retries candidate now =>
            simp only [attemptsOf, yieldsOf, List.filterMap_cons, Question.attempt?,
              Question.event?, List.length_cons] at before ⊢
            omega
        | contact number candidate secret now =>
            simp only [attemptsOf, yieldsOf, List.filterMap_cons, Question.attempt?,
              Question.event?, List.length_cons] at before ⊢
            omega
        | yielded attempt event =>
            simp only [attemptsOf, yieldsOf, List.filterMap_cons, Question.attempt?,
              Question.event?, List.length_cons] at before ⊢
            omega
  have bounded := orderly.bounded
  cases talk with
  | nil =>
      have nonneg := Int.le_max_left 0 engine.policy.hardAttemptCeiling
      simp only [List.length_nil, yieldsOf, List.filterMap_nil]
      omega
  | cons first rest =>
      have started : ∀ exchange ∈ rest, exchange.question ≠ .arrival := by
        intro exchange member isArrival
        obtain ⟨earlier, later, split⟩ := List.append_of_mem member
        have asked := orderly.asked (first :: earlier) exchange later (by rw [split]; rfl)
        rw [isArrival] at asked
        cases asked
      have whole := counted rest started
      have attempts : (attemptsOf rest).length ≤ (attemptsOf (first :: rest)).length :=
        ((List.sublist_cons_self first rest).filterMap _).length_le
      have yields : (yieldsOf rest).length ≤ (yieldsOf (first :: rest)).length :=
        ((List.sublist_cons_self first rest).filterMap _).length_le
      rw [List.length_cons]
      omega

end Orderly

/-! ## What one answer leaves -/

section Answers

variable {ρ : Type} (kind : StoreKind) (engine : FallbackEngine) {ι : Type}
  (requests : ι → Request kind.Contents)

/-- The event of a call of a run. -/
def callEvents (info : RequestInfo) (exchange : Exchange Question (Question.Answer ρ)) :
    List RouteEvent :=
  match exchange with
  | ⟨.call number retries candidate _, outcome⟩ =>
      [outcomeEvent engine info candidate number retries (outcome : AttemptOutcome ρ)]
  | _ => []

/-- The event is about the request. -/
def IsAbout (info : RequestInfo) (event : RouteEvent) : Prop :=
  event.requestId = info.requestId ∧ event.virtualModel = info.virtualModel

instance (info : RequestInfo) (event : RouteEvent) : Decidable (IsAbout info event) := by
  unfold IsAbout
  infer_instance

/-- The events of one request, in order. -/
def eventsAbout (info : RequestInfo) (s : kind.Contents) : List RouteEvent :=
  (eventLog kind s).filter fun event => IsAbout info event

theorem eventsAbout_of_other {info other : RequestInfo} (different : other ≠ info) {number : Nat}
    {candidate : RouteCandidate} {s s' : kind.Contents}
    (adds : AddsEvent kind other number candidate s s') :
    eventsAbout kind info s' = eventsAbout kind info s := by
  have notAbout : ∀ errorClass action,
      ¬ IsAbout info (routeEvent other candidate number errorClass action) := by
    intro errorClass action about
    obtain ⟨ownId, ownModel⟩ := info
    obtain ⟨otherId, otherModel⟩ := other
    obtain ⟨rfl, rfl⟩ := about
    exact different rfl
  unfold eventsAbout
  rcases adds with same | ⟨errorClass, action, added⟩
  · rw [same]
  · rw [added, List.filter_append, List.filter_singleton,
      decide_eq_false (notAbout errorClass action)]
    exact List.append_nil _

/-- The event tells of an attempt that one of the requests has made. -/
def Attributed (talks : ι → Talk ρ) (event : RouteEvent) : Prop :=
  ∃ i candidate, (event.attempt, candidate) ∈ attemptsOf (talks i) ∧
    event = routeEvent (requests i).info candidate event.attempt event.errorClass event.action

variable {kind requests} in
theorem attributed_of_addsEvent {talks : ι → Talk ρ} {i : ι} {number : Nat}
    {candidate : RouteCandidate} {s s' : kind.Contents}
    (attempted : (number, candidate) ∈ attemptsOf (talks i))
    (adds : AddsEvent kind (requests i).info number candidate s s') :
    ∃ added, eventLog kind s' = eventLog kind s ++ added ∧ added.length ≤ 1 ∧
      ∀ event ∈ added, Attributed kind requests talks event := by
  rcases adds with same | ⟨errorClass, action, log⟩
  · exact ⟨[], by rw [same, List.append_nil], Nat.zero_le _, fun event member => by cases member⟩
  · refine ⟨_, log, Nat.le_refl _, ?_⟩
    intro event member
    rw [List.mem_singleton.mp member]
    exact ⟨i, candidate, attempted, rfl⟩

variable {kind engine requests} in
/-- The events an answer adds tell of the attempts made up to it. -/
theorem attributed_of_effect {talks : ι → Talk ρ} {i : ι} {talk : Talk ρ} {question : Question}
    {answer : question.Answer ρ} {s s' : kind.Contents}
    (spoken : talks i = talk ++ [⟨question, answer⟩])
    (log : LogEffect kind engine (requests i) talk question answer s s') :
    ∃ added, eventLog kind s' = eventLog kind s ++ added ∧ added.length ≤ 1 ∧
      ∀ event ∈ added, Attributed kind requests talks event := by
  have own : ∀ number candidate, question.attempt? = some (number, candidate) →
      (number, candidate) ∈ attemptsOf (talks i) := by
    intro number candidate attempt
    rw [spoken, attemptsOf_append]
    exact List.mem_append_right _ (by simp [attemptsOf, attempt])
  cases question with
  | arrival =>
      refine ⟨[], ?_, Nat.zero_le _, fun event member => by cases member⟩
      rw [List.append_nil]
      exact log
  | call number retries candidate now =>
      exact attributed_of_addsEvent (own number candidate rfl) log.1
  | contact number candidate secret now =>
      exact attributed_of_addsEvent (own number candidate rfl) log
  | yielded attempt event =>
      obtain ⟨candidate, attempted, adds⟩ := log
      refine attributed_of_addsEvent ?_ adds
      rw [spoken, attemptsOf_append]
      exact List.mem_append_left _ attempted

/-- The engine calls of a transcript, in order. -/
def historyOf (transcript : List (ι × Exchange Question (Question.Answer ρ))) :
    List EngineCall :=
  transcript.flatMap fun made =>
    engineCalls (requests made.1).clock made.2.question made.2.answer

/-- The candidate is on a list that the request may score. -/
def Request.Lists {σ : Type} (request : Request σ) (candidate : RouteCandidate) : Prop :=
  ∃ s scored, request.scored s = .ok scored ∧ candidate ∈ scored.map ScoredCandidate.candidate

/-- Every call is about the candidate of the attempt that was answered. -/
theorem candidate_of_mem_engineCalls {clock : Clock} {question : Question}
    {answer : question.Answer ρ} {call : EngineCall}
    (member : call ∈ engineCalls clock question answer) :
    ∃ number, question.attempt? = some (number, call.candidate) := by
  cases question with
  | arrival => cases member
  | yielded attempt event => cases member
  | call number retries candidate now =>
      rw [candidate_of_mem_outcomeCalls member]
      exact ⟨number, rfl⟩
  | contact number candidate secret now =>
      refine ⟨number, ?_⟩
      change UpstreamStream at answer
      rw [engineCalls_contact] at member
      cases read : readPrefix answer.ending answer.events with
      | selected buffered rest =>
          rw [read] at member
          cases member
      | exhausted =>
          rw [read] at member
          cases member
      | failed exception =>
          rw [read] at member
          rw [List.mem_singleton.mp member]
          rfl

/-- Every call a request makes is about a candidate it lists. -/
theorem MayAsk.lists {σ : Type} {engine : FallbackEngine} {service : GatewayService}
    {request : Request σ} {clock : Clock} {talk : Talk ρ} {question : Question}
    {answer : question.Answer ρ} {call : EngineCall}
    (asks : MayAsk engine service request talk question)
    (called : call ∈ engineCalls clock question answer) : request.Lists call.candidate := by
  obtain ⟨number, attempt⟩ := candidate_of_mem_engineCalls called
  have mayAttempt : MayAttempt engine request talk question number call.candidate := by
    cases question with
    | arrival => cases attempt
    | yielded attempt' event => cases attempt
    | call own retries candidate now =>
        cases attempt
        exact asks.2.1
    | contact own candidate secret now =>
        cases attempt
        exact asks.2.1
  obtain ⟨s, scored, isScored, listed, -⟩ := mayAttempt.inTurn
  exact ⟨s, scored, isScored, listed⟩

end Answers

/-! ## Every interleaving -/

section Interleaved

variable {ρ : Type} (kind : StoreKind) (engine : FallbackEngine) (service : GatewayService)
  {ι : Type} (requests : ι → Request kind.Contents) (start : kind.Contents)

theorem requestPool_follows (i : ι) :
    ((requestPool (ρ := ρ) kind engine service requests start).threads i).Follows
      (requestProtocol kind engine service (requests i)) [] :=
  follows_coroutine kind engine service (requests i)

variable [DecidableEq ι] (schedule : List (Move ι Question (Question.Answer ρ)))

/-- Whatever the requests are, whatever they are answered and in whatever order
they move: every request attempts its candidates in the order of its list, with
consecutive numbers under the ceiling, retries only after a failure that asks
for it, and delivers events of one stream only, in order and after its last
attempt. Its list is the one scored in the store it found on arrival. -/
theorem requests_keep_protocol (i : ι) :
    Orderly engine service (requests i)
        ((requestPool (ρ := ρ) kind engine service requests start).talk i schedule) ∧
      (∀ question,
        ((requestPool (ρ := ρ) kind engine service requests start).run schedule).waitsFor? i =
          some question →
        MayAsk engine service (requests i)
          ((requestPool (ρ := ρ) kind engine service requests start).talk i schedule)
          question) ∧
      ∀ found,
        (requestPool (ρ := ρ) kind engine service requests start).firstState i schedule =
          some found →
        Orderly engine service ((requests i).arrivedAt found)
            ((requestPool (ρ := ρ) kind engine service requests start).talk i schedule) ∧
          ∀ question,
            ((requestPool (ρ := ρ) kind engine service requests start).run schedule).waitsFor? i =
              some question →
            MayAsk engine service ((requests i).arrivedAt found)
              ((requestPool (ρ := ρ) kind engine service requests start).talk i schedule)
              question := by
  have follows := requestPool_follows (ρ := ρ) kind engine service requests start
  refine ⟨orderly_of_asked ?_, fun question waits => Pool.asks_run (follows i) schedule waits, ?_⟩
  · intro earlier exchange later split
    exact Pool.asks_talk (follows i) schedule split
  · intro found isFound
    obtain ⟨answer, rest, begins, asked, later⟩ := Pool.follows_of_firstState rfl
      (follows_start kind engine service (requests i)) schedule isFound
    refine ⟨orderly_of_asked ?_, ?_⟩
    · rw [begins]
      intro earlier exchange later split
      cases earlier with
      | nil =>
          cases split
          rfl
      | cons first earlier =>
          cases split
          exact asked earlier exchange later rfl
    · intro question waits
      obtain ⟨leave, next, thread⟩ := Pool.waitsFor?_eq_some waits
      rw [thread] at later
      exact later.1

/-- No request waits for ever: whatever the others do and whatever it is
answered, it is over after one move to start, one for each attempt the ceiling
allows, and one for each event of the stream it delivers. -/
theorem requests_end (i : ι) (longest : Nat)
    (bounded : ∀ move ∈ schedule, move.thread = i → ∀ attempt candidate secret now,
      (show UpstreamStream from
        move.answer (.contact attempt candidate secret now)).events.length ≤ longest)
    (moved : 1 + max 0 engine.policy.hardAttemptCeiling + longest <
      (schedule.countP fun move => move.thread = i : Nat)) :
    ∃ ending,
      ((requestPool (ρ := ρ) kind engine service requests start).run schedule).result? i =
        some ending := by
  have follows := requestPool_follows (ρ := ρ) kind engine service requests start
  have orderly : Orderly engine service (requests i)
      ((requestPool (ρ := ρ) kind engine service requests start).talk i schedule) :=
    orderly_of_asked fun earlier exchange later split =>
      Pool.asks_talk (follows i) schedule split
  by_contra none
  have waits := Option.eq_none_iff_forall_not_mem.mpr fun ending isOver => none ⟨ending, isOver⟩
  have length := Pool.length_talk waits
  have total := orderly.length_le
  have delivered : (yieldsOf
      ((requestPool (ρ := ρ) kind engine service requests start).talk i schedule)).length ≤
        longest := by
    by_cases silent : yieldsOf
        ((requestPool (ρ := ρ) kind engine service requests start).talk i schedule) = []
    · rw [silent]
      exact Nat.zero_le _
    · obtain ⟨stream, begins, earlier, attempt, candidate, secret, now, later, split, -⟩ :=
        orderly.oneStream silent
      have contacted : ⟨.contact attempt candidate secret now, stream⟩ ∈
          (requestPool (ρ := ρ) kind engine service requests start).talk i schedule := by
        rw [split]
        exact List.mem_append_right _ List.mem_cons_self
      obtain ⟨move, isMove, own, told⟩ := Pool.answer_of_mem_talk contacted
      have short := bounded move isMove own attempt candidate secret now
      rw [show move.answer (.contact attempt candidate secret now) = stream from told] at short
      exact begins.length_le.trans short
  omega

/-- A request that may attempt twice is over after its fourth move. -/
theorem over_after_four_moves :
    ∃ ending, ((requestPool .inMemory { policy := { hardAttemptCeiling := 2 } } (keyedService "s")
      (fun _ : Unit => keyedRequest) .empty).run (List.replicate 4
        ⟨(), calledBack (.failed { errorClass := .tokenLimit })⟩)).result? () = some ending := by
  refine requests_end .inMemory _ (keyedService "s") (fun _ => keyedRequest) .empty _ () 0 ?_
    (by decide)
  intro move member _ attempt candidate secret now
  rw [List.eq_of_mem_replicate member]
  exact Nat.le_refl 0

/-! ### The event log -/

/-- In every interleaving, the events of a request that runs candidates with
credentials are exactly those of its answered calls, one for each, in order,
whatever is recorded for other requests in between. -/
theorem log_of_interleaved_run (i : ι)
    (alone : ∀ j, j ≠ i → (requests j).info ≠ (requests i).info)
    (isRun : (requests i).entry = .run)
    (keyed : ∀ s scored, (requests i).scored s = .ok scored →
      ∀ candidate ∈ scored.map ScoredCandidate.candidate, candidate.credentialId ≠ none) :
    let pool := requestPool (ρ := ρ) kind engine service requests start
    eventsAbout kind (requests i).info (pool.run schedule).state =
      eventsAbout kind (requests i).info start ++
        (pool.talk i schedule).flatMap (callEvents engine (requests i).info) := by
  have follows := requestPool_follows (ρ := ρ) kind engine service requests start
  refine Pool.observed_run (eventsAbout kind (requests i).info) i
    (callEvents engine (requests i).info) follows ?_ ?_ schedule
  · intro talk question answer s s' asks effect
    have log := effect.log
    cases question with
    | arrival =>
        rw [eventsAbout, show eventLog kind s' = eventLog kind s from log]
        exact (List.append_nil _).symm
    | call number retries candidate now =>
        obtain ⟨-, may, -⟩ := asks
        obtain ⟨start', scored, isScored, listed, -⟩ := may.inTurn
        have added := log.2 (keyed start' scored isScored candidate listed)
        rw [eventsAbout, added, List.filter_append]
        exact congrArg _ (by simp [IsAbout, outcomeEvent, routeEvent, callEvents])
    | contact number candidate secret now =>
        have isStream := asks.1
        rw [isRun] at isStream
        cases isStream
    | yielded attempt event =>
        have isStream := asks.1
        rw [isRun] at isStream
        cases isStream
  · intro j other talk question answer s s' asks effect
    have log := effect.log
    cases question with
    | arrival => rw [eventsAbout, show eventLog kind s' = eventLog kind s from log, eventsAbout]
    | call number retries candidate now => exact eventsAbout_of_other kind (alone j other) log.1
    | contact number candidate secret now => exact eventsAbout_of_other kind (alone j other) log
    | yielded attempt event =>
        obtain ⟨candidate, -, adds⟩ := log
        exact eventsAbout_of_other kind (alone j other) adds

/-- What the candidates of the one keyed provider carry. -/
theorem keyedService_candidate {secret : String} {candidate : RouteCandidate}
    (isCandidate : IsCandidate (keyedService secret).config candidate) :
    candidate.credentialId = some "k" ∧ candidate.concreteModel.modelId = "m" ∧
      candidate.executorType = .api := by
  obtain ⟨built⟩ := isCandidate.builtFrom
  have configured : (singleProviderConfig [{ id := "k", env := "K" }]).providers.get?
      candidate.providerId = some built.provider := built.configured
  simp only [singleProviderConfig, UpsertTable.get?_upsert] at configured
  split at configured
  · have own := Option.some.inj configured
    have isModel := built.modelConfigured
    have shape := built.shape
    rw [← own] at isModel shape
    rw [built.modelId, List.mem_singleton.mp isModel]
    rcases shape with ⟨executor, -⟩ | ⟨-, api, key, isKey, credential⟩
    · cases executor
    · rw [credential, List.mem_singleton.mp isKey]
      exact ⟨rfl, rfl, api⟩
  · cases configured

/-- The same request twice, under two ids. -/
def requestsNamed (second : Bool) : Request InMemoryStateStore :=
  { keyedRequest with info := ⟨if second then "r2" else "r", "v"⟩ }

/-- The first request's log is the one retry it asked for, although the second
one is answered in between. -/
theorem log_of_first_request :
    eventsAbout .inMemory ⟨"r", "v"⟩
        ((requestPool .inMemory {} (keyedService "s") requestsNamed .empty).run
          crossedCalls).state =
      (Pool.talk false (requestPool .inMemory {} (keyedService "s") requestsNamed .empty)
        crossedCalls).flatMap (callEvents {} ⟨"r", "v"⟩) := by
  refine log_of_interleaved_run .inMemory {} (keyedService "s") requestsNamed .empty crossedCalls
    false ?_ rfl ?_
  · intro second other same
    cases second with
    | false => exact other rfl
    | true => exact absurd (congrArg RequestInfo.requestId same) (by decide)
  · intro s scored isScored candidate member
    obtain ⟨sc, listed, rfl⟩ := List.mem_map.mp member
    rw [(keyedService_candidate (isCandidate_of_mem_scoredCandidates isScored listed)).1]
    exact Option.some_ne_none "k"

/-- Every event of every interleaving tells of an attempt that the request it
names has made, and an answer adds one event at most. -/
theorem every_event_attributed :
    ∃ added,
      eventLog kind ((requestPool (ρ := ρ) kind engine service requests start).run
          schedule).state = eventLog kind start ++ added ∧
        added.length ≤
          ((requestPool (ρ := ρ) kind engine service requests start).transcript
            schedule).length ∧
        ∀ event ∈ added,
          Attributed kind requests
            (fun i =>
              (requestPool (ρ := ρ) kind engine service requests start).talk i schedule)
            event := by
  let pool := requestPool (ρ := ρ) kind engine service requests start
  change ∃ added, eventLog kind (pool.run schedule).state = eventLog kind start ++ added ∧
    added.length ≤ (pool.transcript schedule).length ∧
    ∀ event ∈ added, Attributed kind requests (fun i => pool.talk i schedule) event
  have follows := requestPool_follows (ρ := ρ) kind engine service requests start
  induction schedule using List.reverseRecOn with
  | nil => exact ⟨[], (List.append_nil _).symm, Nat.le_refl _, fun event member => by cases member⟩
  | append_singleton schedule move inductionHypothesis =>
      obtain ⟨added, log, count, attributed⟩ := inductionHypothesis
      have kept : ∀ event ∈ added,
          Attributed kind requests (fun i => pool.talk i (schedule ++ [move])) event := by
        intro event member
        obtain ⟨i, candidate, attempted, tells⟩ := attributed event member
        refine ⟨i, candidate, ?_, tells⟩
        dsimp only
        rw [Pool.talk_concat, attemptsOf_append]
        exact List.mem_append_left _ attempted
      rw [Pool.run_concat, Pool.transcript_concat]
      cases waits : (pool.run schedule).threads move.thread with
      | done result =>
          rw [Pool.step_done waits, Pool.exchange?_done waits]
          exact ⟨added, log, by simpa using count, kept⟩
      | await question leave next =>
          have effect := (Pool.effect_run (follows move.thread) schedule waits).2
          have spoken : pool.talk move.thread (schedule ++ [move]) =
              pool.talk move.thread schedule ++ [⟨question, move.answer question⟩] := by
            rw [Pool.talk_concat, Pool.said, if_pos rfl, Pool.exchange?_await waits]
            rfl
          let talks : ι → Talk ρ := fun i => pool.talk i (schedule ++ [move])
          have spoken' : talks move.thread =
            pool.talk move.thread schedule ++ [⟨question, move.answer question⟩] := spoken
          obtain ⟨last, lastLog, one, lastAttributed⟩ := attributed_of_effect spoken' effect.log
          rw [Pool.exchange?_await waits]
          refine ⟨added ++ last, ?_, ?_, ?_⟩
          · rw [lastLog, log, List.append_assoc]
          · rw [List.length_append, List.length_append]
            exact Nat.add_le_add count one
          · intro event member
            rcases List.mem_append.mp member with earlier | isLast
            · exact kept event earlier
            · exact lastAttributed event isLast

/-! ### The board -/

theorem board_of_traffic :
    let pool := requestPool (ρ := ρ) kind engine service requests start
    kind.scopedStore.board (pool.run schedule).state =
      kind.scopedStore.board (stateAfter kind.store engine
        (historyOf kind requests (pool.transcript schedule)) start) := by
  intro pool
  rw [board_stateAfter]
  refine (Pool.simulated_run kind.scopedStore.board (fun board made => boardAfter engine
    (engineCalls (requests made.1).clock made.2.question made.2.answer) board)
    (requestPool_follows kind engine service requests start)
    (fun i talk question answer s s' asks effect => effect.board) schedule).trans ?_
  exact (List.foldl_flatMap ..).symm

theorem lists_of_mem_history {call : EngineCall}
    (member : call ∈ historyOf kind requests
      ((requestPool (ρ := ρ) kind engine service requests start).transcript schedule)) :
    ∃ i, (requests i).Lists call.candidate := by
  have follows := requestPool_follows (ρ := ρ) kind engine service requests start
  obtain ⟨⟨i, question, answer⟩, isMade, called⟩ := List.mem_flatMap.mp member
  obtain ⟨talk, asks⟩ := Pool.asks_transcript follows schedule isMade
  exact ⟨i, MayAsk.lists asks called⟩

/-- Whatever the requests are and in whatever order they move, the board goes
through a sequential history of the fallback engine: one call for each answer
that leads to one, in the order of the answers, on candidates the requests
list. Every eligibility check reads what it would after that history. -/
theorem traffic_refines_history :
    kind.scopedStore.board
          ((requestPool (ρ := ρ) kind engine service requests start).run schedule).state =
        kind.scopedStore.board
          (stateAfter kind.store engine (historyOf kind requests
            ((requestPool (ρ := ρ) kind engine service requests start).transcript schedule))
            start) ∧
      (∀ call ∈ historyOf kind requests
          ((requestPool (ρ := ρ) kind engine service requests start).transcript schedule),
        ∃ i, (requests i).Lists call.candidate) ∧
      ∀ now candidate,
        eligible kind.store now
            ((requestPool (ρ := ρ) kind engine service requests start).run schedule).state
            candidate =
          eligible kind.store now
            (stateAfter kind.store engine (historyOf kind requests
              ((requestPool (ρ := ρ) kind engine service requests start).transcript schedule))
              start)
            candidate := by
  have board := board_of_traffic kind engine service requests start schedule
  refine ⟨board, fun call member => lists_of_mem_history kind engine service requests start
    schedule member, ?_⟩
  intro now candidate
  apply eligible_congr kind.scopedStore
  rw [board]

end Interleaved

end AutoRouteGateway.Service
