import AutoRouteGateway.Routing.FailureWrites
import AutoRouteGateway.Routing.RunRecord
import AutoRouteGateway.Routing.StoreAgreement
import AutoRouteGateway.Service.Chat

/-!
Contract: the two ways in which an executor fails, in `chat`.

What `execute` raises is classified inside the `try` of `attempt`. A result that is
not ok becomes an exception behind it, which the engine takes for a server failure.

Owns: what the handling of one executor reply writes, and that the two ways never
write the same.
-/

namespace AutoRouteGateway.Service

open AutoRouteGateway.Domain
open AutoRouteGateway.Policy
open AutoRouteGateway.Routing
open AutoRouteGateway.Runtime
open AutoRouteGateway.State

/-- Without a status, a body that signals nothing is a transport failure. -/
theorem classifyError_none_ne_server (bodyText : String) :
    classifyError none bodyText ≠ .server := by
  intro server
  cases decided : bodyClass (lower bodyText) with
  | some errorClass =>
      simp only [classifyError, decided] at server
      subst server
      simp only [bodyClass] at decided
      split_ifs at decided <;> cases decided
  | none =>
      simp only [classifyError, decided, statusClass] at server
      split_ifs at server

/-- The health, quota and credential writes of a journal. -/
def stateWrites (journal : List Write) : List Write :=
  journal.filter fun write => write.event?.isNone

def recordedClasses (journal : List Write) : List (Option ErrorClass) :=
  (State.recordedEvents journal).map RouteEvent.errorClass

/-- The same upstream, whose executor answers so. -/
def Upstream.answering {σ : Type} (upstream : Upstream σ) (reply : ExecutorReply) : Upstream σ :=
  { upstream with execute := fun number candidate s =>
      (reply, (upstream.execute number candidate s).2) }

section Replies

variable (kind : StoreKind) (engine : FallbackEngine) (clock : Clock) (request : RequestInfo)
  (service : GatewayService) (upstream : Upstream kind.Contents) (candidate : RouteCandidate)
  (retries : Nat) (before : Progress kind.Contents)

/-- The attempt of `chat` on the candidate, when its executor answers so. -/
def repliedCall (reply : ExecutorReply) : AttemptLog (kind.Contents × List Write) Dict :=
  (oneCall (journaling kind.store) engine clock request
    (besideJournal (chatAttempt service (upstream.answering reply) request.virtualModel))
    candidate retries (before.map fun s => (s, []))).2

/-- What the engine writes for that attempt. -/
def replyWrites (reply : ExecutorReply) : List Write :=
  (repliedCall kind engine clock request service upstream candidate retries before
    reply).settled.2

/-- An adapter error with the message leaves the same writes and the same recorded
class as a result that is not ok, with the message. -/
structure TreatedAlike (message : String) : Prop where
  writes :
    stateWrites (replyWrites kind engine clock request service upstream candidate retries before
        (.raised (.adapter message))) =
      stateWrites (replyWrites kind engine clock request service upstream candidate retries before
        (.refused (some message)))
  classes :
    recordedClasses (replyWrites kind engine clock request service upstream candidate retries
        before (.raised (.adapter message))) =
      recordedClasses (replyWrites kind engine clock request service upstream candidate retries
        before (.refused (some message)))

variable {kind engine clock request service upstream candidate retries before}

/-- An attempt whose bookkeeping does not raise records the class of its outcome. -/
theorem recordedClasses_of_quiet {reply : ExecutorReply}
    (quiet : (repliedCall kind engine clock request service upstream candidate retries before
      reply).storeError = none) :
    recordedClasses (replyWrites kind engine clock request service upstream candidate retries
        before reply) =
      [(repliedCall kind engine clock request service upstream candidate retries before
        reply).outcome.errorClass] := by
  obtain ⟨event, middle, -, sameJournal, -, -, tells, records⟩ :=
    oneCall_records kind.store engine clock request
      (chatAttempt service (upstream.answering reply) request.virtualModel) candidate retries
      (before.map fun s => (s, [])) quiet
  have journal : State.recordedEvents (replyWrites kind engine clock request service upstream
      candidate retries before reply) = State.recordedEvents middle.store.2 ++ [event] :=
    records.entered.journal
  have isClass := congrArg RouteEvent.errorClass tells.isEvent
  rw [sameJournal] at journal
  rw [recordedClasses, journal]
  exact congrArg (fun errorClass => [errorClass]) isClass

end Replies

/-! ## Bookkeeping that raises -/

section Raised

variable {σ : Type} {S : StateStore σ} {engine : FallbackEngine} {clock : Clock}
  {request : RequestInfo} {candidate : RouteCandidate} {retries : Nat}

/-- A candidate failure whose bookkeeping raises leaves no event. -/
theorem recordedEvents_of_raised {failure : CandidateFailure}
    {before : Progress (σ × List Write)} (uncommitted : failure.committed = false)
    (raised : (settleCall (ρ := Dict) (journaling S) engine clock request candidate retries
      (.failed failure) before).1 ≠ none) :
    State.recordedEvents (settleCall (ρ := Dict) (journaling S) engine clock request candidate
      retries (.failed failure) before).2.progress.store.2 =
        State.recordedEvents before.store.2 := by
  simp only [settleCall, uncommitted, Bool.false_eq_true, if_false, afterFailure] at raised ⊢
  split
  · rename_i applied
    exact congrArg State.recordedEvents (journal_of_applyFailure_raised applied)
  · rename_i s applied
    rw [applied] at raised
    simp only at raised
    split
    · rename_i after recorded
      simp only [Progress.record] at recorded
      split at recorded
      · cases recorded
      · rename_i unrecorded
        cases recorded
        have kept := recordedEvents_applyFailure applied
        rw [← kept]
        exact congrArg State.recordedEvents (StoreResult.journal_of_enter_raised unrecorded)
    · rename_i recorded
      rw [recorded] at raised
      exact absurd rfl raised

end Raised

/-! ## The two ways -/

section Differ

variable {kind : StoreKind} {engine : FallbackEngine} {clock : Clock} {request : RequestInfo}
  {service : GatewayService} {upstream : Upstream kind.Contents} {candidate : RouteCandidate}
  {retries : Nat} {before : Progress kind.Contents}

theorem recordedClasses_refused (cli : candidate.executorType = .cli)
    (runs : service.hasExecutor candidate = true) (message : Option String) :
    recordedClasses (replyWrites kind engine clock request service upstream candidate retries
        before (.refused message)) = [some .server] := by
  have outcome : (repliedCall kind engine clock request service upstream candidate retries before
      (.refused message)).outcome = .raised (message.getD "executor failed") := by
    simp [repliedCall, oneCall, besideJournal, chatAttempt, cli, attemptExecutor, runs,
      Upstream.answering]
  have quiet : (repliedCall kind engine clock request service upstream candidate retries before
      (.refused message)).storeError = none := by
    simp only [repliedCall, oneCall, besideJournal, chatAttempt, cli, attemptExecutor, runs,
      Upstream.answering, Bool.true_eq_false, if_false, settleCall]
    cases kind <;> rfl
  rw [recordedClasses_of_quiet quiet, outcome]
  rfl

theorem recordedClasses_raised (cli : candidate.executorType = .cli)
    (runs : service.hasExecutor candidate = true) (message : String) :
    recordedClasses (replyWrites kind engine clock request service upstream candidate retries
        before (.raised (.adapter message))) = [] ∨
      recordedClasses (replyWrites kind engine clock request service upstream candidate retries
        before (.raised (.adapter message))) = [some (classifyError none message)] := by
  have outcome : (repliedCall kind engine clock request service upstream candidate retries before
      (.raised (.adapter message))).outcome = .failed (candidateFailure (.adapter message)) := by
    simp [repliedCall, oneCall, besideJournal, chatAttempt, cli, attemptExecutor, runs,
      Upstream.answering]
  by_cases quiet : (repliedCall kind engine clock request service upstream candidate retries before
      (.raised (.adapter message))).storeError = none
  · right
    rw [recordedClasses_of_quiet quiet, outcome]
    rfl
  · left
    have nothing : State.recordedEvents (replyWrites kind engine clock request service upstream
        candidate retries before (.raised (.adapter message))) = [] := by
      simp only [replyWrites, repliedCall, oneCall, besideJournal, chatAttempt, cli,
        attemptExecutor, runs, Upstream.answering, Bool.true_eq_false, if_false] at quiet ⊢
      exact recordedEvents_of_raised (candidateFailure_committed _) quiet
    rw [recordedClasses, nothing]
    rfl

/-- Whatever its message, a raised adapter error is never treated as a result that is
not ok. -/
theorem executor_failures_differ (kind : StoreKind) (engine : FallbackEngine) (clock : Clock)
    (request : RequestInfo) (service : GatewayService) (upstream : Upstream kind.Contents)
    (candidate : RouteCandidate) (cli : candidate.executorType = .cli)
    (runs : service.hasExecutor candidate = true) (retries : Nat)
    (before : Progress kind.Contents) (message : String) :
    ¬ TreatedAlike kind engine clock request service upstream candidate retries before message := by
  intro alike
  have classes := alike.classes
  rw [recordedClasses_refused cli runs] at classes
  rcases recordedClasses_raised cli runs message with nothing | own
  · rw [nothing] at classes
    cases classes
  · rw [own] at classes
    exact classifyError_none_ne_server message (by simpa using classes)

end Differ

/-! ## A message with a rate-limit signal -/

/-- The codex executor behind one route. -/
def executorService : GatewayService where
  config := executorConfig
  resolver := ⟨.empty, .empty⟩
  built := ⟨[], ["codex"]⟩
  isBuilt := rfl

def executorCandidate : RouteCandidate where
  providerId := "codex"
  credentialId := none
  concreteModel := ⟨"m", "codex", ∅⟩
  capabilities := ∅
  executorType := .cli
  credentialPriority := 0

/-- An upstream that never leaves another store. -/
def idleUpstream (σ : Type) : Upstream σ :=
  .constant σ (.body []) (.completed []) ⟨[], none⟩

theorem executor_failures_differ_empty_prompt :
    ¬ TreatedAlike .sqlite {} ⟨fun _ => 0, fun _ => 0⟩ ⟨"r", "v"⟩ executorService
      (idleUpstream SqliteStateStore) executorCandidate 0 { store := SqliteStateStore.empty }
      "empty prompt" :=
  executor_failures_differ .sqlite {} _ _ _ _ _ rfl rfl 0 _ "empty prompt"

/-- The writes of the first attempt in an empty in-memory store. -/
def firstReply (reply : ExecutorReply) : List Write :=
  replyWrites .inMemory {} ⟨fun _ => 0, fun _ => 0⟩ ⟨"r", "v"⟩ executorService
    (idleUpstream InMemoryStateStore) executorCandidate 0 { store := InMemoryStateStore.empty }
    reply

/-- Raised, the message limits the candidate's quota for a minute; in a result, it
degrades the provider for half a minute. -/
theorem rate_limit_signal_differs :
    IsCandidate executorConfig executorCandidate ∧
      stateWrites (firstReply (.raised (.adapter "rate limit"))) =
        [.quota ⟨"codex", none, some "m"⟩ .rateLimited "rate limit" (some (60 * second))] ∧
      recordedClasses (firstReply (.raised (.adapter "rate limit"))) = [some .rateLimit] ∧
      stateWrites (firstReply (.refused (some "rate limit"))) =
        [.health ⟨"codex", none, none⟩ .degraded "rate limit" (some (30 * second))] ∧
      recordedClasses (firstReply (.refused (some "rate limit"))) = [some .server] := by
  refine ⟨⟨"v", 0, _, rfl, List.mem_cons_self⟩, ?_⟩
  decide +kernel

end AutoRouteGateway.Service
