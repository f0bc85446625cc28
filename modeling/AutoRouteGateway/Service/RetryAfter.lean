import AutoRouteGateway.Providers.OpenAiCompatible
import AutoRouteGateway.Service.LocalProblem
import AutoRouteGateway.Service.StoredSecrets

/-!
Contract: how long a rate limit keeps its candidate out.

An adapter hands over the headers of an error response. The conversion to a
candidate failure drops them, so the cooldown a rate limit writes is the
configured one, whatever the provider asked for.

Owns: the failures the service applies, and the exact condition under which the
cooldown that follows reaches the time a `retry-after` header asks for.

Does not own: a stream that fails after it was selected, which writes no state.
-/

namespace AutoRouteGateway.Service

open AutoRouteGateway.Config
open AutoRouteGateway.Domain
open AutoRouteGateway.Library
open AutoRouteGateway.Policy
open AutoRouteGateway.Providers
open AutoRouteGateway.Routing
open AutoRouteGateway.Runtime
open AutoRouteGateway.State

section RetryAfter

variable (kind : StoreKind) (engine : FallbackEngine) (service : GatewayService) (clock : Clock)
  (upstream : Upstream kind.Contents)

/-- An exception from upstream that the service applies as the failure of a
candidate: the time the failure was applied at, and the store before and after
it was handled. It is the outcome of an attempt of `chat`, or ends the prefix of
a stream of `chat_stream`. -/
inductive AppliedException (exception : UpstreamException) :
    Instant → RouteCandidate → (before after : kind.Contents) → Prop where
  | chat {requestId virtualModel : String} {payload : Dict} {counter : Nat}
      {start : kind.Contents} {log : RunLog kind.Contents Dict}
      {turn : Turn kind.Contents Dict} {call : AttemptLog kind.Contents Dict}
      (ran : (chat kind.store engine service clock upstream requestId virtualModel payload counter
        start).run = some log)
      (visited : turn ∈ log.turns) (made : call ∈ turn.attempts)
      (answer : call.outcome = .failed (candidateFailure exception)) :
      AppliedException exception (clock.settle call.number) turn.scored.candidate
        call.returned call.settled
  | stream {requestId virtualModel : String} {payload : Dict} {counter : Nat}
      {start : kind.Contents} {selection : Selection kind.Contents}
      {turn : StreamTurn kind.Contents} {attempt : StreamAttempt kind.Contents}
      (selected : (chatStream kind.store engine service clock upstream requestId virtualModel
        payload counter start).selection = some selection)
      (visited : turn ∈ selection.turns) (made : turn.verdict = .contacted attempt)
      (answer : readPrefix attempt.stream.ending attempt.stream.events = .failed exception) :
      AppliedException exception (clock.settle attempt.number) attempt.candidate
        attempt.returned attempt.settled

variable {kind engine service clock upstream}

/-! ## What applying a failure does to the board -/

/-- A failure before commit is written to the board, whatever follows it. -/
theorem board_afterFailure (request : RequestInfo) (candidate : RouteCandidate)
    (failure : CandidateFailure) (retries : Nat) (progress : Progress kind.Contents) :
    kind.scopedStore.board (afterFailure (ρ := Dict) kind.store engine clock request candidate
        failure retries progress).2.progress.store =
      boardFailure engine (clock.settle progress.attempts) candidate failure
        (kind.scopedStore.board progress.store) := by
  have applied := board_applyFailure kind.scopedStore engine (clock.settle progress.attempts)
    candidate failure progress.store
  unfold afterFailure
  dsimp only
  cases result : applyFailure kind.store engine (clock.settle progress.attempts) candidate
      failure progress.store with
  | raised error s =>
      rw [result] at applied
      exact applied
  | done s =>
      rw [result] at applied
      have recorded := board_record { progress with store := s } (routeEvent request candidate
        progress.attempts (some failure.errorClass)
        (actionOf (nextAction failure.errorClass retries engine.policy)))
      dsimp only
      cases outcome : Progress.record kind.store { progress with store := s }
          (routeEvent request candidate progress.attempts (some failure.errorClass)
            (actionOf (nextAction failure.errorClass retries engine.policy))) with
      | raised error progress' =>
          rw [outcome] at recorded
          exact recorded.trans applied
      | done progress' =>
          rw [outcome] at recorded
          dsimp only
          rw [afterAction_store]
          exact recorded.trans applied

theorem board_settlePrefix_failed (request : RequestInfo) (attempt : Nat)
    (candidate : RouteCandidate) (exception : UpstreamException) (s : kind.Contents) :
    kind.scopedStore.board (settlePrefix kind.store engine clock request attempt candidate s
        (.failed exception)).state =
      boardFailure engine (clock.settle attempt) candidate (candidateFailure exception)
        (kind.scopedStore.board s) := by
  have applied := board_applyFailure kind.scopedStore engine (clock.settle attempt) candidate
    (candidateFailure exception) s
  unfold settlePrefix
  dsimp only
  cases result : applyFailure kind.store engine (clock.settle attempt) candidate
      (candidateFailure exception) s with
  | raised error s' =>
      rw [result] at applied
      exact applied
  | done s' =>
      rw [result] at applied
      exact (kind.scopedStore.record_board _ s').trans applied

/-- What the service applies is the failure made of the exception. -/
theorem AppliedException.board {exception : UpstreamException} {now : Instant}
    {candidate : RouteCandidate} {before after : kind.Contents}
    (applied : AppliedException kind engine service clock upstream exception now candidate
      before after) :
    kind.scopedStore.board after =
      boardFailure engine now candidate (candidateFailure exception)
        (kind.scopedStore.board before) := by
  cases applied with
  | @chat requestId virtualModel payload counter start log turn call ran visited made answer =>
      obtain ⟨scored, -, rfl⟩ := run_of_chat ran
      obtain ⟨earlier, later, split⟩ := List.append_of_mem made
      have logged := runFrom_logged scored 0 { store := start } visited split
      obtain ⟨progress, step, isReturned, isNumber, settled, isSettled⟩ := logged.settled
      rw [answer, settleCall, if_neg (by rw [candidateFailure_committed]; decide)] at settled
      have isStep : step = (afterFailure kind.store engine clock ⟨requestId, virtualModel⟩
          turn.scored.candidate (candidateFailure exception) earlier.length progress).2 :=
        (congrArg Prod.snd settled).symm
      rw [isSettled, isStep, board_afterFailure, isReturned, isNumber]
  | @stream requestId virtualModel payload counter start selection turn attempt selected visited
      made answer =>
      obtain ⟨scored, -, rfl⟩ := selection_of_chatStream selected
      obtain ⟨-, isAttempt⟩ := (selectFrom_performed kind.store engine service clock upstream
        ⟨requestId, virtualModel⟩ scored 0 0 start).contacted turn visited attempt made
      rw [contactCandidate_log] at isAttempt
      have stream : attempt.stream = _ := congrArg StreamAttempt.stream isAttempt
      have returned : attempt.returned = _ := congrArg StreamAttempt.returned isAttempt
      have settled : attempt.settled = _ := congrArg StreamAttempt.settled isAttempt
      have number : attempt.number = _ := congrArg StreamAttempt.number isAttempt
      have candidate : attempt.candidate = _ := congrArg StreamAttempt.candidate isAttempt
      dsimp only at stream returned settled number candidate
      rw [settled, ← stream, ← returned, answer, board_settlePrefix_failed, number, candidate]

/-! ## The cooldown after a rate limit -/

/-- The headers carry a `retry-after` of so many seconds. -/
def RetryAfter (headers : List (String × String)) (seconds : Nat) : Prop :=
  headers.lookup "retry-after" = some (toString seconds)

instance (headers : List (String × String)) (seconds : Nat) :
    Decidable (RetryAfter headers seconds) :=
  inferInstanceAs (Decidable (_ = _))

/-- The cooldown of the candidate reaches the time, and it is not eligible before. -/
structure CooledUntil (kind : StoreKind) (s : kind.Contents) (candidate : RouteCandidate)
    (time : Instant) : Prop where
  cooldown : ∃ deadline, kind.store.getCooldown s (subject candidate) = some deadline ∧
    time ≤ deadline
  ineligible : ∀ earlier, earlier < time → eligible kind.store earlier s candidate = false

/-- The health row that the candidate reads has a cooldown that reaches the time. -/
def HealthCooledUntil (kind : StoreKind) (s : kind.Contents) (candidate : RouteCandidate)
    (time : Instant) : Prop :=
  ∃ deadline, ((kind.scopedStore.board s).seenHealth (subject candidate)).bind Prod.snd =
    some deadline ∧ time ≤ deadline

theorem boardFailure_rateLimit {status : Int} {body : String}
    (rateLimited : classifyError (some status) body = .rateLimit)
    (headers : List (String × String)) (now : Instant) (candidate : RouteCandidate)
    (board : Board kind.scopedStore.scheme) :
    boardFailure engine now candidate (candidateFailure (.http status body headers)) board =
      board.postQuota (subject candidate)
        (.rateLimited, some (now + engine.rateLimitCooldown)) := by
  have isClass := errorClass_candidateFailure_http status body headers
  rw [rateLimited] at isClass
  unfold boardFailure
  rw [isClass]
  simp only [rateLimitDeadline, cooldown, candidateFailure, Option.getD_none, Int.add_zero]

theorem laterDeadline_reaches_iff {left : Option Instant} {right time : Instant} :
    (∃ deadline, laterDeadline left (some right) = some deadline ∧ time ≤ deadline) ↔
      time ≤ right ∨ ∃ deadline, left = some deadline ∧ time ≤ deadline := by
  cases left with
  | none => simp [laterDeadline]
  | some left => simp [laterDeadline, or_comm]

/-- After a rate limit at a time, the cooldown reaches a later time exactly when
the configured cooldown does, or the health row the candidate reads. -/
theorem cooledUntil_iff {status : Int} {body : String} {headers : List (String × String)}
    {now time : Instant} {candidate : RouteCandidate} {before after : kind.Contents}
    (applied : AppliedException kind engine service clock upstream (.http status body headers)
      now candidate before after)
    (rateLimited : classifyError (some status) body = .rateLimit) :
    CooledUntil kind after candidate time ↔
      time ≤ now + engine.rateLimitCooldown ∨ HealthCooledUntil kind before candidate time := by
  have posted := applied.board
  rw [boardFailure_rateLimit rateLimited] at posted
  have reads : kind.store.getCooldown after (subject candidate) =
      laterDeadline (((kind.scopedStore.board before).seenHealth (subject candidate)).bind
        Prod.snd) (some (now + engine.rateLimitCooldown)) := by
    rw [kind.scopedStore.getCooldown_eq, posted, Board.seenHealth_postQuota,
      Board.seenQuota_postQuota_of_reads (StoreKind.readsQuota_self _ _)]
    rfl
  have reaches : (∃ deadline, kind.store.getCooldown after (subject candidate) = some deadline ∧
      time ≤ deadline) ↔
        time ≤ now + engine.rateLimitCooldown ∨
          HealthCooledUntil kind before candidate time := by
    rw [reads]
    exact laterDeadline_reaches_iff
  constructor
  · intro cooled
    exact reaches.mp cooled.cooldown
  · intro enough
    obtain ⟨deadline, isCooldown, late⟩ := reaches.mpr enough
    refine ⟨⟨deadline, isCooldown, late⟩, ?_⟩
    intro earlier isEarlier
    rw [eligible_eq_false_iff_reads]
    exact Or.inr (Or.inr (Or.inr ⟨deadline, isCooldown, lt_of_lt_of_le isEarlier late⟩))

/-- A `retry-after` of a rate limit is honoured exactly when the configured
cooldown is no shorter, or the health row that the candidate reads already has a
cooldown that reaches as far. -/
theorem retry_after_honoured_iff {status : Int} {body : String}
    {headers : List (String × String)} {seconds : Nat} {now : Instant}
    {candidate : RouteCandidate} {before after : kind.Contents}
    (applied : AppliedException kind engine service clock upstream (.http status body headers)
      now candidate before after)
    (rateLimited : classifyError (some status) body = .rateLimit)
    (_asks : RetryAfter headers seconds) :
    CooledUntil kind after candidate (now + seconds * second) ↔
      seconds * second ≤ engine.rateLimitCooldown ∨
        HealthCooledUntil kind before candidate (now + seconds * second) := by
  rw [cooledUntil_iff applied rateLimited, Int.add_le_add_iff_left]

end RetryAfter

/-! ## One key that is asked to wait -/

/-- Every attempt is answered with `429` and the headers. -/
def limitedUpstream (headers : List (String × String)) : Upstream SqliteStateStore :=
  .constant _ (.raised (classifyHttpError 429 "" headers)) (.completed []) ⟨[], none⟩

/-- The headers leave no trace in an attempt. -/
theorem chatAttempt_limited (headers : List (String × String)) :
    chatAttempt (keyedService "sk") (limitedUpstream headers) "v" =
      chatAttempt (keyedService "sk") (limitedUpstream []) "v" := rfl

/-- A call with one key, at time zero on an empty store. Its only attempt is
refused, and a minute later the key is back. -/
theorem limited_applied (headers : List (String × String)) :
    ∃ candidate before after, AppliedException .sqlite {} (keyedService "sk")
        ⟨fun _ => 0, fun _ => 0⟩ (limitedUpstream headers) (classifyHttpError 429 "" headers) 0
        candidate before after ∧
      StoreKind.sqlite.store.getCooldown after (subject candidate) = some (60 * second) ∧
      eligible StoreKind.sqlite.store (60 * second) after candidate = true := by
  obtain ⟨log, isLog, ran, -, -⟩ := chat_scored {} ⟨fun _ => 0, fun _ => 0⟩
    (limitedUpstream headers) "r"
    (show (scoredCandidates SqliteStateStore.store (keyedService "sk") "v" [] 0 .empty).1 = .ok _
      from rfl)
  rw [chatAttempt_limited] at isLog
  have attempted : log.turns.length = 1 ∧ ∀ turn ∈ log.turns, turn.attempts.length = 1 ∧
      turn.scored.candidate.executorType = .api ∧
      (keyedService "sk").hasAdapter turn.scored.candidate = true ∧
      (keyedService "sk").secret turn.scored.candidate = .ok "sk" ∧
      ∀ call ∈ turn.attempts,
        StoreKind.sqlite.store.getCooldown call.settled (subject turn.scored.candidate) =
          some (60 * second) ∧
        eligible StoreKind.sqlite.store (60 * second) call.settled turn.scored.candidate =
          true := by
    rw [isLog]
    decide +kernel
  obtain ⟨turn, onlyTurn⟩ := List.length_eq_one_iff.mp attempted.1
  have visited : turn ∈ log.turns := by simp [onlyTurn]
  obtain ⟨once, api, adapter, resolved, settled⟩ := attempted.2 turn visited
  obtain ⟨call, onlyCall⟩ := List.length_eq_one_iff.mp once
  have made : call ∈ turn.attempts := by simp [onlyCall]
  have logged := runFrom_logged _ _ _ (isLog ▸ visited)
    (show turn.attempts = [] ++ call :: [] from onlyCall)
  have answer : call.outcome = .failed (candidateFailure (classifyHttpError 429 "" headers)) := by
    have refused := logged.answered
    simp only [chatAttempt, api, attemptApi, adapter, resolved, limitedUpstream,
      Upstream.constant] at refused
    exact (congrArg Prod.fst refused).symm
  exact ⟨_, _, _, .chat ran visited made answer, settled call made⟩

/-- Half a minute is within the default cooldown. -/
theorem retry_after_honoured_iff_half_minute :
    ∃ candidate after,
      CooledUntil .sqlite after candidate (0 + (30 : Nat) * second) := by
  obtain ⟨candidate, before, after, applied, -⟩ := limited_applied [("Retry-After", "30")]
  have asks : RetryAfter [("retry-after", "30")] 30 := by decide +kernel
  exact ⟨candidate, after, (retry_after_honoured_iff applied (by decide +kernel) asks).mpr
    (Or.inl (by decide))⟩

/-- Two minutes are asked for; after one, the key is in use again. -/
theorem retry_after_dropped :
    classifyError (some 429) "" = .rateLimit ∧ RetryAfter [("retry-after", "120")] 120 ∧
      ∃ candidate before after, AppliedException .sqlite {} (keyedService "sk")
          ⟨fun _ => 0, fun _ => 0⟩ (limitedUpstream [("Retry-After", "120")])
          (.http 429 "" [("retry-after", "120")]) 0 candidate before after ∧
        StoreKind.sqlite.store.getCooldown after (subject candidate) = some (60 * second) ∧
        ¬ CooledUntil .sqlite after candidate (0 + (120 : Nat) * second) := by
  obtain ⟨candidate, before, after, applied, isCooldown, back⟩ :=
    limited_applied [("Retry-After", "120")]
  refine ⟨by decide +kernel, by decide +kernel, candidate, before, after, applied, isCooldown, ?_⟩
  intro cooled
  have out := cooled.ineligible (60 * second) (by decide)
  exact absurd (back.symm.trans out) (by decide)

end AutoRouteGateway.Service
