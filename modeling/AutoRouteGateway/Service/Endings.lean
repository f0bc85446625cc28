import AutoRouteGateway.Service.StreamDelivery
import AutoRouteGateway.Service.StreamFallback
import AutoRouteGateway.Service.Traffic

/-!
Contract: what the end of a request says about its conversation.

A request knows nothing but its own conversation. Its result is therefore
compared with that conversation: a body is the answer to its last call, a
stream that ends well was delivered to its last event, and an error tells the
class of the failure it stands for.

Owns: this account of every end, and that every request in every interleaving
gives it.
-/

namespace AutoRouteGateway.Service

open AutoRouteGateway.Domain
open AutoRouteGateway.Library
open AutoRouteGateway.Library.Coroutine
open AutoRouteGateway.Policy
open AutoRouteGateway.Routing
open AutoRouteGateway.Runtime
open AutoRouteGateway.State

/-! ## The account -/

section Accounts

variable {ρ : Type}

/-- The class of an answered call; other exchanges leave the class before them. -/
def laterClass (seen : Option ErrorClass) :
    Exchange Question (Question.Answer ρ) → Option ErrorClass
  | ⟨.call _ _ _ _, outcome⟩ => AttemptOutcome.errorClass (outcome : AttemptOutcome ρ)
  | _ => seen

/-- The class of the last failed call, none if the last one returned. -/
def lastClass (talk : Talk ρ) : Option ErrorClass := talk.foldl laterClass none

/-- The last call of the conversation, and its outcome. -/
def EndsInCall (talk : Talk ρ) (number : Nat) (candidate : RouteCandidate)
    (outcome : AttemptOutcome ρ) : Prop :=
  ∃ earlier retries now, talk = earlier ++ [⟨.call number retries candidate now, outcome⟩]

/-- The last attempt of the conversation opened the stream. -/
def LastContact (talk : Talk ρ) (number : Nat) (candidate : RouteCandidate)
    (stream : UpstreamStream) : Prop :=
  ∃ (earlier later : Talk ρ) (secret : String) (now : Instant),
    talk = earlier ++ ⟨.contact number candidate secret now, stream⟩ :: later ∧
      attemptsOf later = []

/-- The delivery of the stream was stopped by an exception: the one the stream
ends with, or the one an event raises that is inspected. -/
def StoppedBy (talk : Talk ρ) (stream : UpstreamStream) (exception : UpstreamException) : Prop :=
  (yieldsOf talk = stream.events ∧ stream.ending = some exception) ∨
    ∃ event rest text, yieldsOf talk ++ event :: rest = stream.events ∧
      isValidChunk event = .error text ∧ exception = .other text

/-- No store can record that the key of a candidate without one was refused. -/
def Unwritable (candidate : RouteCandidate) (failure : CandidateFailure) : Prop :=
  failure.errorClass = .auth ∧ candidate.credentialId = none

/-- How a run ends. -/
def RunAccount (engine : FallbackEngine) (talk : Talk ρ) : RunEnding ρ → Prop
  | .finished result (some value) => result.success = true ∧
      result.attempts = (attemptsOf talk).length ∧
      EndsInCall talk result.attempts result.candidate (.returned value)
  | .finished result none => result.success = false ∧
      result.attempts = (attemptsOf talk).length ∧ ∃ failure, failure.committed = true ∧
        result.errorClass = some failure.errorClass ∧
        EndsInCall talk result.attempts result.candidate (.failed failure)
  | .noEligible error => error.attempts = (attemptsOf talk).length ∧
      error.lastError = lastClass talk
  | .hardCeiling _ => engine.policy.hardAttemptCeiling ≤ ((attemptsOf talk).length : Int)
  | .storeError _ => ∃ number candidate failure, Unwritable candidate failure ∧
      EndsInCall talk number candidate (.failed failure)

/-- How a stream ends. -/
def StreamAccount (service : GatewayService) (talk : Talk ρ) : Except ServiceError Unit → Prop
  | .ok () => ∃ number candidate stream, LastContact talk number candidate stream ∧
      yieldsOf talk = stream.events ∧ stream.ending = none
  | .error (.partialStream errorClass) => HasValidChunk (yieldsOf talk) ∧
      ∃ number candidate stream exception, LastContact talk number candidate stream ∧
        StoppedBy talk stream exception ∧ errorClass = (candidateFailure exception).errorClass
  | .error (.noEligible error) =>
      match error.lastError with
      | none => yieldsOf talk = [] ∧ error.attempts = (attemptsOf talk).length
      | some errorClass => ¬ HasValidChunk (yieldsOf talk) ∧
          ∃ candidate stream exception, LastContact talk error.attempts candidate stream ∧
            StoppedBy talk stream exception ∧
            errorClass = (candidateFailure exception).errorClass
  | .error (.store _) => yieldsOf talk = [] ∧ ∃ number candidate stream exception,
      LastContact talk number candidate stream ∧
        readPrefix stream.ending stream.events = .failed exception ∧
        Unwritable candidate (candidateFailure exception)
  | .error error => yieldsOf talk = [] ∧ ∃ candidate, prepare service candidate = .error error

/-- How a request ends. -/
def EndAccount {σ : Type} (engine : FallbackEngine) (service : GatewayService)
    (request : Request σ) (talk : Talk ρ) : RequestEnd ρ → Prop
  | .unscored error => attemptsOf talk = [] ∧ ∃ s, request.scored s = .error error
  | .ran ending => request.entry = .run ∧ RunAccount engine talk ending
  | .streamed result => request.entry = .chatStream ∧ StreamAccount service talk result

end Accounts

/-! ## A run -/

section Runs

variable {ρ : Type} {kind : StoreKind} {engine : FallbackEngine} {clock : Clock}
  {info : RequestInfo} {candidate : RouteCandidate} {retries : Nat}

/-- What the bookkeeping of a call leaves for the account: an end that the call
accounts for, or the class of its failure. -/
def StepAccount (engine : FallbackEngine) (talk : Talk ρ) (outcome : AttemptOutcome ρ)
    (attempts : Nat) : NextStep kind.Contents ρ → Prop
  | .stop ending _ => RunAccount engine talk ending
  | .next left | .retry left => left.attempts = attempts ∧ left.lastError = outcome.errorClass

/-- A call that was just answered. -/
structure Answered (talk : Talk ρ) (number : Nat) (candidate : RouteCandidate)
    (outcome : AttemptOutcome ρ) : Prop where
  last : EndsInCall talk number candidate outcome
  attempts : (attemptsOf talk).length = number

theorem Answered.lastClass {talk : Talk ρ} {number : Nat} {outcome : AttemptOutcome ρ}
    (answered : Answered talk number candidate outcome) :
    lastClass talk = outcome.errorClass := by
  obtain ⟨earlier, retries, now, rfl⟩ := answered.last
  rw [Service.lastClass, List.foldl_append]
  rfl

theorem stepAccount_afterException {talk : Talk ρ} {text : String}
    {progress : Progress kind.Contents} :
    StepAccount engine talk (.raised text) progress.attempts
      (afterException kind.store engine clock info candidate text progress).2 := by
  obtain ⟨s, applied, -⟩ | ⟨error, s, applied, auth, -⟩ := applyFailure_effect kind engine
    (clock.settle progress.attempts) candidate (serverFailure text) progress.store
  · obtain ⟨left, recorded, attempts, -⟩ := progress_record_effect
      (routeEvent info candidate progress.attempts (some .server) .nextCandidate)
      { progress with store := s }
    unfold serverFailure at applied
    simp only [afterException, applied, recorded]
    exact ⟨attempts, rfl⟩
  · cases auth

/-- The decision after a failure: the candidate limit may end the run, and it
names the class of that failure. -/
theorem stepAccount_afterAction {talk : Talk ρ} {number : Nat} {failure : CandidateFailure}
    (answered : Answered talk number candidate (.failed failure)) (action : FallbackAction)
    {left : Progress kind.Contents} (attempts : left.attempts = number) :
    StepAccount engine talk (.failed failure) number (afterAction engine info action
      { left with lastError := some failure.errorClass }) := by
  have limited : RunAccount engine talk (.noEligible
      ⟨info.virtualModel, left.attempts, some failure.errorClass⟩) := by
    refine ⟨?_, ?_⟩
    · exact attempts.trans answered.attempts.symm
    · rw [answered.lastClass]
      rfl
  cases action with
  | retrySameCandidate => exact ⟨attempts, rfl⟩
  | nextCandidate =>
      simp only [afterAction]
      split
      · exact limited
      · exact ⟨attempts, rfl⟩
  | stop =>
      simp only [afterAction]
      split
      · exact limited
      · exact ⟨attempts, rfl⟩

theorem stepAccount_settleCall {talk : Talk ρ} {outcome : AttemptOutcome ρ}
    {progress : Progress kind.Contents}
    (answered : Answered talk progress.attempts candidate outcome) :
    StepAccount engine talk outcome progress.attempts
      (settleCall kind.store engine clock info candidate retries outcome progress).2 := by
  cases outcome with
  | raised text => exact stepAccount_afterException
  | returned value =>
      obtain ⟨s, applied, -⟩ := applySuccess_effect kind candidate progress.store
      obtain ⟨left, recorded, attempts, -⟩ := progress_record_effect
        (routeEvent info candidate progress.attempts none .success) { progress with store := s }
      simp only [settleCall, afterReturn, applied, recorded]
      have counted : left.attempts = progress.attempts := attempts
      refine ⟨rfl, counted.trans answered.attempts.symm, ?_⟩
      dsimp only
      rw [counted]
      exact answered.last
  | failed failure =>
      unfold settleCall
      dsimp only
      split
      · rename_i committed
        obtain ⟨left, recorded, attempts, -⟩ := progress_record_effect
          (routeEvent info candidate progress.attempts (some failure.errorClass)
            .stopCommittedStream) progress
        simp only [afterCommittedFailure, recorded]
        refine ⟨rfl, attempts.trans answered.attempts.symm, failure, committed, rfl, ?_⟩
        dsimp only
        rw [attempts]
        exact answered.last
      · unfold afterFailure
        obtain ⟨s, applied, -⟩ | ⟨error, s, applied, auth, keyless, -⟩ := applyFailure_effect kind
          engine (clock.settle progress.attempts) candidate failure progress.store
        · obtain ⟨left, recorded, attempts, -⟩ := progress_record_effect
            (routeEvent info candidate progress.attempts (some failure.errorClass)
              (actionOf (nextAction failure.errorClass retries engine.policy)))
            { progress with store := s }
          simp only [applied, recorded]
          exact stepAccount_afterAction answered _ attempts
        · simp only [applied]
          exact ⟨_, _, failure, ⟨auth, keyless⟩, answered.last⟩

variable {service : GatewayService} {request : Request kind.Contents}

variable (engine service request) in
/-- Whatever the coroutine is answered, it ends with a result its conversation
accounts for. -/
abbrev Accounted (talk : Talk ρ) (coroutine : RequestCoroutine kind.Contents ρ) : Prop :=
  coroutine.Concludes (EndAccount engine service request) talk

/-- The counters of a run are those of its conversation. -/
structure Counted (talk : Talk ρ) (progress : Progress kind.Contents) : Prop where
  attempts : progress.attempts = (attemptsOf talk).length
  lastError : progress.lastError = lastClass talk

/-- The retry loop, by induction on the budget. -/
theorem accounted_attemptOn (isRun : request.entry = .run)
    {proceed : Progress kind.Contents → RequestSegment kind.Contents ρ}
    (proceeds : ∀ (talk : Talk ρ) progress, Counted talk progress →
      Accounted engine service request talk (proceed progress).2)
    (budget retries : Nat) (now : Instant) (progress : Progress kind.Contents)
    (isBudget : budget = attemptBudget engine progress.attempts) {talk : Talk ρ}
    (counted : Counted talk progress) :
    Accounted engine service request talk
      (attemptOn kind.store engine clock info candidate proceed budget retries now progress).2 := by
  induction budget generalizing retries now progress talk with
  | zero =>
      refine ⟨isRun, ?_⟩
      have above := (attemptBudget_eq_zero_iff engine progress.attempts).mp isBudget.symm
      rw [counted.attempts] at above
      exact above
  | succ budget inductionHypothesis =>
      rw [attemptOn]
      refine concludes_pause.mpr ?_
      intro outcome s
      change AttemptOutcome ρ at outcome
      let talk' : Talk ρ := talk ++ [⟨.call (progress.attempts + 1) retries candidate now, outcome⟩]
      have answered : Answered talk' (progress.attempts + 1) candidate outcome := by
        refine ⟨⟨talk, retries, now, rfl⟩, ?_⟩
        rw [attemptsOf_append, List.length_append, ← counted.attempts]
        rfl
      let returned : Progress kind.Contents :=
        { progress with store := s, attempts := progress.attempts + 1 }
      have account : StepAccount engine talk' outcome returned.attempts
          (settleCall kind.store engine clock info candidate retries outcome returned).2 :=
        stepAccount_settleCall answered
      cases isStep : (settleCall kind.store engine clock info candidate retries outcome
          returned).2 with
      | stop ending left =>
          rw [isStep] at account
          exact ⟨isRun, account⟩
      | next left =>
          rw [isStep] at account
          refine proceeds talk' left ⟨?_, ?_⟩
          · exact account.1.trans answered.attempts.symm
          · exact account.2.trans answered.lastClass.symm
      | retry left =>
          rw [isStep] at account
          refine inductionHypothesis _ _ left ?_ ⟨?_, ?_⟩
          · exact (attemptBudget_succ engine isBudget).trans
              (congrArg (attemptBudget engine) account.1.symm)
          · exact account.1.trans answered.attempts.symm
          · exact account.2.trans answered.lastClass.symm

/-- The loop over the scored list, by induction on it. -/
theorem accounted_runOver (isRun : request.entry = .run) (scored : List ScoredCandidate)
    (position : Nat) (progress : Progress kind.Contents) {talk : Talk ρ}
    (counted : Counted talk progress) :
    Accounted engine service request talk
      (runOver kind.store engine clock info scored position progress).2 := by
  induction scored generalizing position progress talk with
  | nil => exact ⟨isRun, counted.attempts, counted.lastError⟩
  | cons sc rest inductionHypothesis =>
      rw [runOver]
      split
      · refine accounted_attemptOn isRun ?_ _ 0 _ progress rfl counted
        intro talk' progress' counted'
        exact inductionHypothesis _ progress' counted'
      · exact inductionHypothesis _ progress counted

end Runs

/-! ## A stream -/

section Streams

variable {ρ : Type} {kind : StoreKind} {engine : FallbackEngine} {clock : Clock}
  {info : RequestInfo} {service : GatewayService} {request : Request kind.Contents}

theorem hasValidChunk_concat {events : List Event} {event : Event} :
    HasValidChunk (events ++ [event]) ↔
      HasValidChunk events ∨ isValidChunk event = .ok true := by
  induction events with
  | nil => simp [HasValidChunk]
  | cons head rest inductionHypothesis =>
      rw [List.cons_append, hasValidChunk_cons, hasValidChunk_cons, inductionHypothesis, or_assoc]

/-- The stream is delivered from the handle, with `items` still to come. -/
structure Relays (handle : StreamHandle) (stream : UpstreamStream) (items : List (Bool × Event))
    (committed : Bool) (talk : Talk ρ) : Prop where
  contact : LastContact talk handle.attempt handle.candidate stream
  events : yieldsOf talk ++ items.map Prod.snd = stream.events
  ending : handle.ending = stream.ending
  committed : committed = true ↔ HasValidChunk (yieldsOf talk)

/-- An exception is a partial stream once content was delivered, and a failure
of the candidate before. -/
theorem accounted_deliveryEnd (isStream : request.entry = .chatStream) {handle : StreamHandle}
    {stream : UpstreamStream} {items : List (Bool × Event)} {committed : Bool} {talk : Talk ρ}
    (relays : Relays handle stream items committed talk) {exception : UpstreamException}
    (stopped : StoppedBy talk stream exception) (s : kind.Contents) :
    Accounted engine service request talk
      (deliveryEnd kind.store info handle exception committed s).2 := by
  obtain ⟨s', recorded, -⟩ := record_effect kind
    (routeEvent info handle.candidate handle.attempt
      (some (candidateFailure exception).errorClass)
      (if committed then .partialStreamFailure else .nextCandidate)) s
  have isCommitted := relays.committed
  simp only [deliveryEnd, deliveryFailure, recorded]
  refine ⟨isStream, ?_⟩
  cases committed with
  | true => exact ⟨isCommitted.mp rfl, _, _, stream, exception, relays.contact, stopped, rfl⟩
  | false =>
      refine ⟨?_, _, stream, exception, relays.contact, stopped, rfl⟩
      intro valid
      cases isCommitted.mpr valid

/-- The delivery, by induction on what is still to come. -/
theorem accounted_deliverOn (isStream : request.entry = .chatStream) {handle : StreamHandle}
    {stream : UpstreamStream} (items : List (Bool × Event)) (committed : Bool)
    (s : kind.Contents) {talk : Talk ρ} (relays : Relays handle stream items committed talk) :
    Accounted engine service request talk
      (deliverOn kind.store info handle items committed s).2 := by
  induction items generalizing committed s talk with
  | nil =>
      have whole := relays.events
      rw [List.map_nil, List.append_nil] at whole
      rw [deliverOn]
      cases ending : handle.ending with
      | none =>
          exact ⟨isStream, _, _, stream, relays.contact, whole, relays.ending.symm.trans ending⟩
      | some exception =>
          exact accounted_deliveryEnd isStream relays
            (Or.inl ⟨whole, relays.ending.symm.trans ending⟩) s
  | cons item rest inductionHypothesis =>
      obtain ⟨replayed, event⟩ := item
      rw [deliverOn]
      cases looked : commits replayed committed event with
      | error text =>
          refine accounted_deliveryEnd isStream relays (Or.inr ⟨event, _, text, relays.events, ?_,
            rfl⟩) s
          unfold commits at looked
          split at looked
          · cases looked
          · split at looked
            · rename_i raised
              rw [raised, Except.error.inj looked]
            · cases looked
      | ok committed' =>
          have pulled : Accounted engine service request talk
              (pause (.yielded handle.attempt event) fun _ s =>
                deliverOn kind.store info handle rest committed' s) := by
            refine concludes_pause.mpr ?_
            intro answer s''
            refine inductionHypothesis committed' s'' ?_
            obtain ⟨earlier, later, secret, now, split, last⟩ := relays.contact
            have yields : yieldsOf (talk ++
                [⟨.yielded handle.attempt event, answer⟩]) = yieldsOf talk ++ [event] := by
              rw [yieldsOf_append]
              rfl
            refine ⟨⟨earlier, later ++ [⟨.yielded handle.attempt event, answer⟩], secret, now, ?_,
              ?_⟩, ?_, relays.ending, ?_⟩
            · rw [split, List.append_assoc]
              rfl
            · rw [attemptsOf_append, last]
              rfl
            · rw [yields, List.append_assoc]
              exact relays.events
            · rw [commits_ok looked, relays.committed, yields, hasValidChunk_concat]
          dsimp only
          unfold recordDone
          split_ifs
          · obtain ⟨s', recorded, -⟩ := record_effect kind
              (routeEvent info handle.candidate handle.attempt none .success) s
            rw [recorded]
            exact pulled
          · exact pulled

/-- What follows a contact. -/
theorem accounted_contactEnd (isStream : request.entry = .chatStream) {number : Nat}
    {candidate : RouteCandidate} {secret : String} {now : Instant} {stream : UpstreamStream}
    {before : Talk ρ} (undelivered : yieldsOf before = [])
    {proceed : kind.Contents → RequestSegment kind.Contents ρ}
    (proceeds : ∀ s, Accounted engine service request
      (before ++ [⟨.contact number candidate secret now, stream⟩]) (proceed s).2)
    (s : kind.Contents) :
    Accounted engine service request (before ++ [⟨.contact number candidate secret now, stream⟩])
      (contactEnd kind.store engine clock info number candidate proceed stream s).2 := by
  let talk : Talk ρ := before ++ [⟨.contact number candidate secret now, stream⟩]
  have contact : LastContact talk number candidate stream :=
    ⟨before, [], secret, now, rfl, rfl⟩
  have silent : yieldsOf talk = [] := by
    rw [yieldsOf_append, undelivered]
    rfl
  unfold contactEnd
  cases read : readPrefix stream.ending stream.events with
  | selected buffered rest =>
      let handle : StreamHandle := ⟨number, candidate, buffered, rest, stream.ending⟩
      have relays : Relays handle stream handle.iterated false talk := by
        refine ⟨contact, ?_, rfl, ?_⟩
        · have whole := (readPrefix_selected read).1
          rw [silent, ← whole]
          simp [StreamHandle.iterated, handle, Function.comp_def]
        · rw [silent]
          exact iff_of_false Bool.false_ne_true not_hasValidChunk_nil
      exact accounted_deliverOn isStream _ false s relays
  | exhausted =>
      obtain ⟨s', recorded, -⟩ := record_effect kind
        (routeEvent info candidate number (some .server) .nextCandidate) s
      simp only [settlePrefix, recorded]
      exact proceeds s'
  | failed exception =>
      obtain ⟨s', applied, -⟩ | ⟨error, s', applied, auth, keyless, -⟩ := applyFailure_effect kind
        engine (clock.settle number) candidate (candidateFailure exception) s
      · obtain ⟨s'', recorded, -⟩ := record_effect kind
          (routeEvent info candidate number (some (candidateFailure exception).errorClass)
            .nextCandidate) s'
        simp only [settlePrefix, applied, recorded]
        exact proceeds s''
      · simp only [settlePrefix, applied]
        exact ⟨isStream, silent, _, _, stream, exception, contact, read, auth, keyless⟩

theorem streamAccount_of_prepare {talk : Talk ρ} (undelivered : yieldsOf talk = [])
    {candidate : RouteCandidate} {error : ServiceError}
    (prepared : prepare service candidate = .error error) :
    StreamAccount service talk (.error error) := by
  have raised := prepared
  unfold prepare at raised
  split at raised
  · cases raised
    exact ⟨undelivered, candidate, prepared⟩
  · split at raised
    · cases raised
      exact ⟨undelivered, candidate, prepared⟩
    · cases raised

/-- The selection loop, by induction on the list. -/
theorem accounted_selectOver (isStream : request.entry = .chatStream)
    (scored : List ScoredCandidate) (position attempts : Nat) (s : kind.Contents)
    {talk : Talk ρ} (counted : attempts = (attemptsOf talk).length)
    (undelivered : yieldsOf talk = []) :
    Accounted engine service request talk
      (selectOver kind.store engine service clock info scored position attempts s).2 := by
  induction scored generalizing position attempts s talk with
  | nil => exact ⟨isStream, undelivered, counted⟩
  | cons sc rest inductionHypothesis =>
      rw [selectOver]
      split_ifs
      · exact ⟨isStream, undelivered, counted⟩
      · cases prepared : prepare service sc.candidate with
        | error error => exact ⟨isStream, streamAccount_of_prepare undelivered prepared⟩
        | ok secret =>
            dsimp only
            refine concludes_pause.mpr ?_
            intro stream s'
            refine accounted_contactEnd isStream undelivered ?_ s'
            intro s''
            refine inductionHypothesis _ _ s'' ?_ ?_
            · rw [attemptsOf_append, List.length_append, ← counted]
              rfl
            · rw [yieldsOf_append, undelivered]
              rfl
      · exact inductionHypothesis _ _ s counted undelivered

end Streams

/-! ## Every interleaving -/

/-- A request is accounted for, whatever it is answered and in whatever stores. -/
theorem accounted_coroutine {ρ : Type} (kind : StoreKind) (engine : FallbackEngine)
    (service : GatewayService) (request : Request kind.Contents) :
    Accounted engine service request [] (request.coroutine (ρ := ρ) kind.store engine service) := by
  refine concludes_pause.mpr ?_
  intro answer s
  unfold Request.start
  cases isScored : request.scored s with
  | error error => exact ⟨rfl, s, isScored⟩
  | ok scored =>
      cases entry : request.entry with
      | run => exact accounted_runOver entry scored 0 { store := s } ⟨rfl, rfl⟩
      | chatStream => exact accounted_selectOver entry scored 0 0 s rfl rfl

section Interleaved

variable {ρ : Type} (kind : StoreKind) (engine : FallbackEngine) (service : GatewayService)
  {ι : Type} [DecidableEq ι] (requests : ι → Request kind.Contents) (start : kind.Contents)
  (schedule : List (Move ι Question (Question.Answer ρ)))

/-- However requests interleave: a body that is returned is the answer to the
last call of its request; a stream that ends well was delivered up to its last
event, and a partial one after content. An exhausted run tells the number of its
attempts and the class of its last failure, an exhausted stream the number only,
unless its last contact was stopped before content; a run at the ceiling tells
neither, but has made that many attempts. -/
theorem ends_accounted_for (i : ι) (ending : RequestEnd ρ)
    (isOver : ((requestPool (ρ := ρ) kind engine service requests start).run schedule).result? i =
      some ending) :
    EndAccount engine service (requests i)
      ((requestPool (ρ := ρ) kind engine service requests start).talk i schedule) ending :=
  Pool.accounts_result (accounted_coroutine kind engine service (requests i)) isOver

end Interleaved

/-- A request whose key is refused has made one attempt, and tells its class. -/
theorem refused_request_accounted :
    ∃ error : NoEligibleCandidateError, error.lastError = some .auth ∧
      EndAccount {} (keyedService "s") keyedRequest
        ((requestPool .inMemory {} (keyedService "s") (fun _ => keyedRequest) .empty).talk true
          crossedCalls) (.ran (.noEligible error)) :=
  ⟨⟨"v", 1, some .auth⟩, rfl, ends_accounted_for .inMemory {} (keyedService "s")
    (fun _ => keyedRequest) .empty crossedCalls true _ rfl⟩

end AutoRouteGateway.Service
