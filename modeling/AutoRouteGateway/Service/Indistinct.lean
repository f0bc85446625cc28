import AutoRouteGateway.Library.Bisimulation
import AutoRouteGateway.Routing.RunMaps
import AutoRouteGateway.Service.TrafficRows

/-!
Contract: a request cannot tell two stores apart that answer it alike, nor two
failures of the same class.

The stores may be of different implementations. What they have to agree on is
what the engine asks of the candidates a request lists: their scores, their
eligibility, and whether a write raises. Of a failure nothing counts but its
class, whether the stream was committed, and how long to wait.

Owns: answers that differ in their texts only, relations between stores that
the engine keeps, and the proof that both entries carry them from one question
to the next.
-/

namespace AutoRouteGateway.Service

open AutoRouteGateway.Domain
open AutoRouteGateway.Library
open AutoRouteGateway.Library.Coroutine
open AutoRouteGateway.Policy
open AutoRouteGateway.Routing
open AutoRouteGateway.Runtime
open AutoRouteGateway.State

/-! ## Answers -/

/-- The failures differ in their texts only. -/
structure FailuresAlike (failure failure' : CandidateFailure) : Prop where
  errorClass : failure.errorClass = failure'.errorClass
  committed : failure.committed = failure'.committed
  retryAfter : failure.retryAfterSeconds = failure'.retryAfterSeconds

theorem FailuresAlike.refl (failure : CandidateFailure) : FailuresAlike failure failure :=
  ⟨rfl, rfl, rfl⟩

/-- A board shows nothing of the texts of a failure. -/
theorem boardFailure_alike {scheme : ScopeScheme} {engine : FallbackEngine} {now : Instant}
    {candidate : RouteCandidate} {board : Board scheme} {failure failure' : CandidateFailure}
    (failures : FailuresAlike failure failure') :
    boardFailure engine now candidate failure board =
      boardFailure engine now candidate failure' board := by
  unfold boardFailure rateLimitDeadline
  rw [failures.errorClass, failures.retryAfter]

/-- The exceptions are classified alike. -/
def ExceptionsAlike (exception exception' : UpstreamException) : Prop :=
  (candidateFailure exception).errorClass = (candidateFailure exception').errorClass

theorem ExceptionsAlike.failures {exception exception' : UpstreamException}
    (same : ExceptionsAlike exception exception') :
    FailuresAlike (candidateFailure exception) (candidateFailure exception') where
  errorClass := same
  committed := by rw [candidateFailure_committed, candidateFailure_committed]
  retryAfter := by cases exception <;> cases exception' <;> rfl

/-- The outcomes differ in the texts of failures and exceptions only. -/
inductive OutcomesAlike {ρ : Type} : AttemptOutcome ρ → AttemptOutcome ρ → Prop
  | returned (value : ρ) : OutcomesAlike (.returned value) (.returned value)
  | failed {failure failure' : CandidateFailure} (same : FailuresAlike failure failure') :
      OutcomesAlike (.failed failure) (.failed failure')
  | raised (text text' : String) : OutcomesAlike (.raised text) (.raised text')

theorem OutcomesAlike.refl {ρ : Type} (outcome : AttemptOutcome ρ) :
    OutcomesAlike outcome outcome := by
  cases outcome with
  | returned value => exact .returned value
  | failed failure => exact .failed (.refl failure)
  | raised text => exact .raised text text

/-- The same events, and endings that are classified alike. -/
structure SameStream (stream stream' : UpstreamStream) : Prop where
  events : stream.events = stream'.events
  ending : Option.Rel ExceptionsAlike stream.ending stream'.ending

theorem SameStream.refl (stream : UpstreamStream) : SameStream stream stream := by
  refine ⟨rfl, ?_⟩
  cases stream.ending with
  | none => exact .none
  | some exception => exact .some rfl

/-- Answers that differ in the texts of errors only. -/
def AnswersAlike {ρ : Type} : (question : Question) → question.Answer ρ → question.Answer ρ → Prop
  | .call _ _ _ _, outcome, outcome' => OutcomesAlike (ρ := ρ) outcome outcome'
  | .contact _ _ _ _, stream, stream' => SameStream stream stream'
  | _, _, _ => True

theorem AnswersAlike.refl {ρ : Type} (question : Question) (answer : question.Answer ρ) :
    AnswersAlike question answer answer := by
  cases question with
  | arrival => trivial
  | call number retries candidate now => exact OutcomesAlike.refl answer
  | contact number candidate secret now => exact SameStream.refl answer
  | yielded attempt event => trivial

/-! ## Stores -/

section Results

variable {σ σ' : Type}

/-- The same outcome, in stores that are alike. -/
inductive ResultAlike (alike : σ → σ' → Prop) : StoreResult σ → StoreResult σ' → Prop
  | done {s : σ} {s' : σ'} (same : alike s s') : ResultAlike alike (.done s) (.done s')
  | raised {s : σ} {s' : σ'} (error : StoreError) (same : alike s s') :
      ResultAlike alike (.raised error s) (.raised error s')

/-- The engine on the candidates cannot tell stores apart that are alike. -/
structure Indistinct (S : StateStore σ) (S' : StateStore σ') (engine : FallbackEngine)
    (covers : RouteCandidate → Prop) (alike : σ → σ' → Prop) : Prop where
  scored : ∀ {candidate s s'}, covers candidate → alike s s' →
    scoreCandidate S s candidate = scoreCandidate S' s' candidate
  eligible : ∀ {candidate s s'} now, covers candidate → alike s s' →
    eligible S now s candidate = eligible S' now s' candidate
  failed : ∀ {candidate s s' failure failure'} now, FailuresAlike failure failure' →
    covers candidate → alike s s' →
      ResultAlike alike (applyFailure S engine now candidate failure s)
        (applyFailure S' engine now candidate failure' s')
  succeeded : ∀ {candidate s s'}, covers candidate → alike s s' →
    ResultAlike alike (applySuccess S candidate s) (applySuccess S' candidate s')
  recorded : ∀ {s s'} event, alike s s' →
    ResultAlike alike (S.recordRouteEvent event s) (S'.recordRouteEvent event s')

end Results

/-! ## The bookkeeping of one call -/

section Bookkeeping

variable {σ σ' ρ : Type} {S : StateStore σ} {S' : StateStore σ'} {engine : FallbackEngine}
  {covers : RouteCandidate → Prop} {alike : σ → σ' → Prop}

/-- The same progress, in stores that are alike. -/
inductive ProgressAlike (alike : σ → σ' → Prop) : Progress σ → Progress σ' → Prop
  | moved (progress : Progress σ) {s' : σ'} (same : alike progress.store s') :
      ProgressAlike alike progress (progress.map fun _ => s')

/-- The same step, in stores that are alike. -/
inductive StepAlike (alike : σ → σ' → Prop) : NextStep σ ρ → NextStep σ' ρ → Prop
  | retry {progress : Progress σ} {progress' : Progress σ'}
      (same : ProgressAlike alike progress progress') :
      StepAlike alike (.retry progress) (.retry progress')
  | next {progress : Progress σ} {progress' : Progress σ'}
      (same : ProgressAlike alike progress progress') :
      StepAlike alike (.next progress) (.next progress')
  | stop (ending : RunEnding ρ) {progress : Progress σ} {progress' : Progress σ'}
      (same : alike progress.store progress'.store) :
      StepAlike alike (.stop ending progress) (.stop ending progress')

section Steps

variable (indistinct : Indistinct S S' engine covers alike) (clock : Clock)
  (request : RequestInfo) {candidate : RouteCandidate} {progress : Progress σ}
  {progress' : Progress σ'}

include indistinct

theorem progress_record_alike (event : RouteEvent)
    (same : ProgressAlike alike progress progress') :
    ResultAlike (ProgressAlike alike) (progress.record S event) (progress'.record S' event) := by
  obtain ⟨same⟩ := same
  unfold Progress.record
  have recorded := indistinct.recorded event same
  dsimp only [Progress.map]
  generalize S.recordRouteEvent event progress.store = result at recorded ⊢
  generalize S'.recordRouteEvent event _ = result' at recorded ⊢
  cases recorded with
  | done same => exact .done (.moved _ same)
  | raised error same => exact .raised error (.moved _ same)

theorem afterException_alike (text text' : String) (covered : covers candidate)
    (same : ProgressAlike alike progress progress') :
    StepAlike (ρ := ρ) alike (afterException S engine clock request candidate text progress).2
      (afterException S' engine clock request candidate text' progress').2 := by
  obtain ⟨same⟩ := same
  simp only [afterException, Progress.map]
  have failures : FailuresAlike { errorClass := .server, message := truncate 200 text }
      { errorClass := .server, message := truncate 200 text' } := ⟨rfl, rfl, rfl⟩
  have failed := indistinct.failed (clock.settle progress.attempts) failures covered same
  generalize applyFailure S engine (clock.settle progress.attempts) candidate _ progress.store
    = result at failed ⊢
  generalize applyFailure S' engine (clock.settle progress.attempts) candidate _ _ = result'
    at failed ⊢
  cases failed with
  | raised error same => exact .stop _ same
  | @done t t' same =>
      have recorded := progress_record_alike indistinct
        (routeEvent request candidate progress.attempts (some .server) .nextCandidate)
        (ProgressAlike.moved { progress with store := t } same)
      dsimp only [Progress.map] at recorded ⊢
      generalize Progress.record S _ _ = result at recorded ⊢
      generalize Progress.record S' _ _ = result' at recorded ⊢
      cases recorded with
      | raised error same =>
          obtain ⟨same⟩ := same
          exact .stop _ same
      | done same =>
          obtain ⟨same⟩ := same
          exact .next (.moved _ same)

omit indistinct in
theorem afterAction_alike (action : FallbackAction)
    (same : ProgressAlike alike progress progress') :
    StepAlike (ρ := ρ) alike (afterAction engine request action progress)
      (afterAction engine request action progress') := by
  cases same with
  | @moved s' same =>
      cases action with
      | retrySameCandidate => exact .retry (.moved _ same)
      | nextCandidate | stop =>
          simp only [afterAction]
          have sameCount : (progress.map fun _ => s').fallbackCount = progress.fallbackCount := rfl
          rw [sameCount]
          split_ifs
          · exact .stop _ same
          · exact .next (.moved { progress with fallbackCount := progress.fallbackCount + 1 } same)

/-- The bookkeeping of a call does not tell the stores apart. -/
theorem settleCall_alike (retries : Nat) {outcome outcome' : AttemptOutcome ρ}
    (outcomes : OutcomesAlike outcome outcome') (covered : covers candidate)
    (same : ProgressAlike alike progress progress') :
    StepAlike alike (settleCall S engine clock request candidate retries outcome progress).2
      (settleCall S' engine clock request candidate retries outcome' progress').2 := by
  cases outcomes with
  | raised text text' =>
      exact afterException_alike indistinct clock request text text' covered same
  | returned value =>
      obtain ⟨same⟩ := same
      simp only [settleCall, afterReturn]
      have succeeded := indistinct.succeeded covered same
      dsimp only [Progress.map]
      generalize applySuccess S candidate progress.store = result at succeeded ⊢
      generalize applySuccess S' candidate _ = result' at succeeded ⊢
      cases succeeded with
      | @raised t t' error same =>
          exact afterException_alike indistinct clock request _ _ covered
            (.moved { progress with store := t } same)
      | @done t t' same =>
          have recorded := progress_record_alike indistinct
            (routeEvent request candidate progress.attempts none .success)
            (ProgressAlike.moved { progress with store := t } same)
          dsimp only [Progress.map] at recorded ⊢
          generalize Progress.record S _ _ = result at recorded ⊢
          generalize Progress.record S' _ _ = result' at recorded ⊢
          cases recorded with
          | raised error same =>
              exact afterException_alike indistinct clock request _ _ covered same
          | done same =>
              obtain ⟨same⟩ := same
              exact .stop _ same
  | @failed failure failure' failures =>
      by_cases committed : failure.committed = true
      · have committed' : failure'.committed = true := failures.committed ▸ committed
        simp only [settleCall, committed, committed', if_true, afterCommittedFailure]
        have attempts : progress'.attempts = progress.attempts := by
          cases same
          rfl
        have recorded := progress_record_alike indistinct
          (routeEvent request candidate progress.attempts (some failure.errorClass)
            .stopCommittedStream) same
        rw [attempts, ← failures.errorClass]
        generalize Progress.record S _ _ = result at recorded ⊢
        generalize Progress.record S' _ _ = result' at recorded ⊢
        cases recorded with
        | raised error same =>
            obtain ⟨same⟩ := same
            exact .stop _ same
        | done same =>
            obtain ⟨same⟩ := same
            exact .stop _ same
      · have uncommitted : ¬ failure'.committed = true := failures.committed ▸ committed
        obtain ⟨same⟩ := same
        simp only [settleCall, committed, uncommitted, if_false, afterFailure,
          Bool.false_eq_true]
        have failed := indistinct.failed (clock.settle progress.attempts) failures covered same
        dsimp only [Progress.map]
        generalize applyFailure S engine (clock.settle progress.attempts) candidate failure _
          = result at failed ⊢
        generalize applyFailure S' engine (clock.settle progress.attempts) candidate failure' _
          = result' at failed ⊢
        rw [← failures.errorClass]
        cases failed with
        | raised error same => exact .stop _ same
        | @done t t' same =>
            have recorded := progress_record_alike indistinct
              (routeEvent request candidate progress.attempts (some failure.errorClass)
                (actionOf (nextAction failure.errorClass retries engine.policy)))
              (ProgressAlike.moved { progress with store := t } same)
            dsimp only [Progress.map] at recorded ⊢
            generalize Progress.record S _ _ = result at recorded ⊢
            generalize Progress.record S' _ _ = result' at recorded ⊢
            cases recorded with
            | raised error same =>
                obtain ⟨same⟩ := same
                exact .stop _ same
            | @done left left' same =>
                obtain ⟨same⟩ := same
                exact afterAction_alike request _
                  (.moved { left with lastError := some failure.errorClass } same)

end Steps

end Bookkeeping

/-! ## Streams that are alike -/

section Streams

/-- The same prefix, up to the texts of what ended it. -/
inductive ReadsAlike : PrefixResult → PrefixResult → Prop
  | selected (buffered rest : List Event) :
      ReadsAlike (.selected buffered rest) (.selected buffered rest)
  | exhausted : ReadsAlike .exhausted .exhausted
  | failed {exception exception' : UpstreamException}
      (same : ExceptionsAlike exception exception') :
      ReadsAlike (.failed exception) (.failed exception')

/-- The prefix of streams that are alike, by induction on the events. -/
theorem readPrefix_alike {ending ending' : Option UpstreamException}
    (endings : Option.Rel ExceptionsAlike ending ending') (events : List Event) :
    ReadsAlike (readPrefix ending events) (readPrefix ending' events) := by
  induction events with
  | nil =>
      cases endings with
      | none => exact .exhausted
      | some same => exact .failed same
  | cons event rest inductionHypothesis =>
      rw [readPrefix, readPrefix]
      split_ifs
      · exact .selected _ _
      · cases isValidChunk event with
        | error text => exact .failed rfl
        | ok valid =>
            cases valid with
            | true => exact .selected _ _
            | false =>
                dsimp only
                generalize readPrefix ending rest = read at inductionHypothesis ⊢
                generalize readPrefix ending' rest = read' at inductionHypothesis ⊢
                cases inductionHypothesis with
                | selected buffered rest => exact .selected _ _
                | exhausted => exact .exhausted
                | failed same => exact .failed same

theorem SameStream.reads {stream stream' : UpstreamStream}
    (streams : SameStream stream stream') :
    ReadsAlike (readPrefix stream.ending stream.events)
      (readPrefix stream'.ending stream'.events) := by
  rw [← streams.events]
  exact readPrefix_alike streams.ending _

/-- Handles of the same attempt, with endings that are classified alike. -/
structure HandlesAlike (handle handle' : StreamHandle) : Prop where
  attempt : handle.attempt = handle'.attempt
  candidate : handle.candidate = handle'.candidate
  ending : Option.Rel ExceptionsAlike handle.ending handle'.ending

end Streams

/-! ## Requests -/

section Requests

variable {σ σ' ρ : Type} {S : StateStore σ} {S' : StateStore σ'} {engine : FallbackEngine}
  {covers : RouteCandidate → Prop} {alike : σ → σ' → Prop}
  (indistinct : Indistinct S S' engine covers alike) {service : GatewayService} {clock : Clock}
  {request : RequestInfo}

include indistinct

/-- The retry loop, by induction on the budget. -/
theorem attemptOn_alike {candidate : RouteCandidate} (covered : covers candidate)
    {proceed : Progress σ → RequestSegment σ ρ} {proceed' : Progress σ' → RequestSegment σ' ρ}
    (proceeds : ∀ progress progress', ProgressAlike alike progress progress' →
      SegmentsAlike alike AnswersAlike (proceed progress) (proceed' progress'))
    (budget retries : Nat) (now : Instant) {progress : Progress σ} {progress' : Progress σ'}
    (same : ProgressAlike alike progress progress') :
    SegmentsAlike alike AnswersAlike
      (attemptOn S engine clock request candidate proceed budget retries now progress)
      (attemptOn S' engine clock request candidate proceed' budget retries now progress') := by
  induction budget generalizing retries now progress progress' with
  | zero =>
      obtain ⟨same⟩ := same
      exact .done same _
  | succ budget inductionHypothesis =>
      obtain ⟨store⟩ := same
      refine ⟨store, bisimilar_pause ?_⟩
      intro outcome outcome' t t' outcomes same
      have settled := settleCall_alike indistinct clock request retries outcomes covered
        (.moved { progress with store := t, attempts := progress.attempts + 1 } same)
      refine (?_ : ∀ step step', StepAlike alike step step' → SegmentsAlike alike AnswersAlike
        (callEnd (fun left => attemptOn S engine clock request candidate proceed budget
          (retries + 1) (clock.settle left.attempts) left) proceed step)
        (callEnd (fun left => attemptOn S' engine clock request candidate proceed' budget
          (retries + 1) (clock.settle left.attempts) left) proceed' step')) _ _ settled
      intro step step' alike
      cases alike with
      | stop ending same => exact .done same _
      | next same => exact proceeds _ _ same
      | retry same =>
          obtain ⟨same⟩ := same
          exact inductionHypothesis _ _ (.moved _ same)

/-- The loop over the scored list, by induction on what is left of it. -/
theorem runOver_alike {scored : List ScoredCandidate} (covered : ∀ sc ∈ scored, covers sc.candidate)
    (position : Nat) {progress : Progress σ} {progress' : Progress σ'}
    (same : ProgressAlike alike progress progress') :
    SegmentsAlike (ρ := RequestEnd ρ) alike AnswersAlike
      (runOver S engine clock request scored position progress)
      (runOver S' engine clock request scored position progress') := by
  induction scored generalizing position progress progress' with
  | nil =>
      obtain ⟨same⟩ := same
      exact .done same _
  | cons sc rest inductionHypothesis =>
      have own := covered sc List.mem_cons_self
      have later := inductionHypothesis fun sc member => covered sc (List.mem_cons_of_mem _ member)
      have store : alike progress.store progress'.store := by
        obtain ⟨same⟩ := same
        exact same
      have attempts : progress'.attempts = progress.attempts := by
        cases same
        rfl
      rw [runOver, runOver, attemptable, attemptable, indistinct.eligible _ own store, attempts]
      split_ifs
      · exact attemptOn_alike indistinct own (fun _ _ same => later (position + 1) same) _ 0 _ same
      · exact later (position + 1) same

theorem deliveryEnd_alike {handle handle' : StreamHandle} (handles : HandlesAlike handle handle')
    {exception exception' : UpstreamException} (exceptions : ExceptionsAlike exception exception')
    (committed : Bool) {s : σ} {s' : σ'} (same : alike s s') :
    SegmentsAlike (ρ := RequestEnd ρ) alike AnswersAlike
      (deliveryEnd S request handle exception committed s)
      (deliveryEnd S' request handle' exception' committed s') := by
  simp only [deliveryEnd, deliveryFailure, ← handles.attempt, ← handles.candidate,
    ← show _ = _ from exceptions]
  have recorded := indistinct.recorded (routeEvent request handle.candidate handle.attempt
    (some (candidateFailure exception).errorClass)
    (if committed then .partialStreamFailure else .nextCandidate)) same
  generalize S.recordRouteEvent _ s = result at recorded ⊢
  generalize S'.recordRouteEvent _ s' = result' at recorded ⊢
  cases recorded with
  | raised error same => exact .done same _
  | done same =>
      dsimp only
      split_ifs <;> exact .done same _

/-- The delivery, by induction on what is still to come. -/
theorem deliverOn_alike {handle handle' : StreamHandle} (handles : HandlesAlike handle handle')
    (items : List (Bool × Event)) (committed : Bool)
    {s : σ} {s' : σ'} (same : alike s s') :
    SegmentsAlike (ρ := RequestEnd ρ) alike AnswersAlike
      (deliverOn S request handle items committed s)
      (deliverOn S' request handle' items committed s') := by
  induction items generalizing committed s s' with
  | nil =>
      rw [deliverOn, deliverOn]
      have endings := handles.ending
      generalize handle.ending = ending at endings ⊢
      generalize handle'.ending = ending' at endings ⊢
      cases endings with
      | none => exact .done same _
      | some exceptions => exact deliveryEnd_alike indistinct handles exceptions committed same
  | cons item rest inductionHypothesis =>
      obtain ⟨replayed, event⟩ := item
      rw [deliverOn, deliverOn]
      cases commits replayed committed event with
      | error text => exact deliveryEnd_alike indistinct handles rfl committed same
      | ok committed' =>
          dsimp only
          rw [← handles.attempt]
          have goesOn : Bisimilar (ρ := RequestEnd ρ) alike AnswersAlike
              (pause (.yielded handle.attempt event) fun _ s =>
                deliverOn S request handle rest committed' s)
              (pause (.yielded handle.attempt event) fun _ s =>
                deliverOn S' request handle' rest committed' s) :=
            bisimilar_pause fun _ _ _ _ _ same => inductionHypothesis committed' same
          have recorded : ResultAlike alike (recordDone S request handle event s)
              (recordDone S' request handle' event s') := by
            unfold recordDone
            rw [← handles.attempt, ← handles.candidate]
            split_ifs
            · exact indistinct.recorded _ same
            · exact .done same
          generalize recordDone S request handle event s = result at recorded ⊢
          generalize recordDone S' request handle' event s' = result' at recorded ⊢
          cases recorded with
          | raised error same =>
              exact deliveryEnd_alike indistinct handles rfl committed' same
          | done same => exact ⟨same, goesOn⟩

theorem settlePrefix_alike (attempt : Nat) {candidate : RouteCandidate}
    (covered : covers candidate) {read read' : PrefixResult} (reads : ReadsAlike read read')
    {s : σ} {s' : σ'} (same : alike s s') :
    ResultAlike alike (settlePrefix S engine clock request attempt candidate s read)
      (settlePrefix S' engine clock request attempt candidate s' read') := by
  cases reads with
  | selected buffered rest => exact .done same
  | exhausted => exact indistinct.recorded _ same
  | failed exceptions =>
      simp only [settlePrefix, ← show _ = _ from exceptions]
      have failed := indistinct.failed (clock.settle attempt) exceptions.failures covered same
      generalize applyFailure S engine (clock.settle attempt) candidate _ s = result at failed ⊢
      generalize applyFailure S' engine (clock.settle attempt) candidate _ s' = result'
        at failed ⊢
      cases failed with
      | raised error same => exact .raised error same
      | done same => exact indistinct.recorded _ same

theorem contactEnd_alike (attempt : Nat) {candidate : RouteCandidate}
    (covered : covers candidate) {stream stream' : UpstreamStream}
    (streams : SameStream stream stream')
    {proceed : σ → RequestSegment σ ρ} {proceed' : σ' → RequestSegment σ' ρ}
    (proceeds : ∀ s s', alike s s' → SegmentsAlike alike AnswersAlike (proceed s) (proceed' s'))
    {s : σ} {s' : σ'} (same : alike s s') :
    SegmentsAlike alike AnswersAlike
      (contactEnd S engine clock request attempt candidate proceed stream s)
      (contactEnd S' engine clock request attempt candidate proceed' stream' s') := by
  simp only [contactEnd]
  have reads := streams.reads
  have settled : ResultAlike alike
      (settlePrefix S engine clock request attempt candidate s
        (readPrefix stream.ending stream.events))
      (settlePrefix S' engine clock request attempt candidate s'
        (readPrefix stream'.ending stream'.events)) :=
    settlePrefix_alike indistinct attempt covered reads same
  generalize settlePrefix S engine clock request attempt candidate s _ = result at settled ⊢
  generalize settlePrefix S' engine clock request attempt candidate s' _ = result' at settled ⊢
  cases settled with
  | raised error same => exact .done same _
  | done same =>
      dsimp only
      generalize readPrefix stream.ending stream.events = read at reads ⊢
      generalize readPrefix stream'.ending stream'.events = read' at reads ⊢
      cases reads with
      | selected buffered rest =>
          have handles : HandlesAlike ⟨attempt, candidate, buffered, rest, stream.ending⟩
              ⟨attempt, candidate, buffered, rest, stream'.ending⟩ := ⟨rfl, rfl, streams.ending⟩
          exact deliverOn_alike indistinct handles _ false same
      | exhausted => exact proceeds _ _ same
      | failed exceptions => exact proceeds _ _ same

/-- The selection loop, by induction on what is left of the scored list. -/
theorem selectOver_alike {scored : List ScoredCandidate}
    (covered : ∀ sc ∈ scored, covers sc.candidate) (position attempts : Nat) {s : σ} {s' : σ'}
    (same : alike s s') :
    SegmentsAlike (ρ := RequestEnd ρ) alike AnswersAlike
      (selectOver S engine service clock request scored position attempts s)
      (selectOver S' engine service clock request scored position attempts s') := by
  induction scored generalizing position attempts s s' with
  | nil => exact .done same _
  | cons sc rest inductionHypothesis =>
      have own := covered sc List.mem_cons_self
      have later := inductionHypothesis fun sc member => covered sc (List.mem_cons_of_mem _ member)
      rw [selectOver, selectOver, attemptable, attemptable, indistinct.eligible _ own same]
      split_ifs
      · exact .done same _
      · split
        · exact .done same _
        · exact ⟨same, bisimilar_pause fun stream stream' t t' streams same =>
            contactEnd_alike indistinct (attempts + 1) own streams
              (fun _ _ same => later (position + 1) (attempts + 1) same) same⟩
      · exact later (position + 1) attempts same

/-- The scored list of a request, when all its candidates are covered. -/
theorem scoredCandidates_alike (virtualModel : String) (payload : Dict) (counter : Nat)
    (covered : ∀ built, (buildCandidates virtualModel service.config counter).1 = .ok built →
      ∀ candidate ∈ built, covers candidate) {s : σ} {s' : σ'} (same : alike s s') :
    scoredCandidates S service virtualModel payload counter s =
      scoredCandidates S' service virtualModel payload counter s' := by
  dsimp only [scoredCandidates]
  cases capabilitiesFromPayload payload with
  | error text => rfl
  | ok required =>
      cases build : buildCandidates virtualModel service.config counter with
      | mk found counter' =>
          cases found with
          | error error => rfl
          | ok enumerated =>
              dsimp only
              have scores : ∀ candidate ∈ capabilityGate enumerated required,
                  scoreCandidate S s candidate = scoreCandidate S' s' candidate := by
                intro candidate gated
                exact indistinct.scored (covered enumerated (congrArg Prod.fst build) candidate
                  (mem_capabilityGate.mp gated).1) same
              cases gate : capabilityGate enumerated required with
              | nil => rfl
              | cons first rest =>
                  rw [gate] at scores
                  dsimp only [scoreCandidates]
                  rw [List.map_congr_left scores]

/-- A request and its counterpart over the other store: whatever they are
answered, they ask the same questions and end the same way. -/
theorem coroutine_bisimilar {own : Request σ} {other : Request σ'} (entry : other.entry = own.entry)
    (info : other.info = own.info) (sameClock : other.clock = own.clock)
    (lists : ∀ candidate, own.Lists candidate → covers candidate)
    (scores : ∀ s s', alike s s' → own.scored s = other.scored s') :
    Bisimilar alike AnswersAlike (own.coroutine (ρ := ρ) S engine service)
      (other.coroutine (ρ := ρ) S' engine service) := by
  refine bisimilar_pause ?_
  intro answer answer' s s' _ same
  rw [Request.start, Request.start, ← scores s s' same, entry, info, sameClock]
  cases isScored : own.scored s with
  | error error => exact .done same _
  | ok scored =>
      have covered : ∀ sc ∈ scored, covers sc.candidate :=
        fun sc member => lists _ ⟨s, scored, isScored, List.mem_map_of_mem member⟩
      cases own.entry with
      | run => exact runOver_alike indistinct covered 0 (.moved { store := s } same)
      | chatStream => exact selectOver_alike indistinct covered 0 0 same

end Requests

end AutoRouteGateway.Service
