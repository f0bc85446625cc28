import AutoRouteGateway.Routing.RunMaps
import AutoRouteGateway.Routing.RunSpec
import AutoRouteGateway.State.Sqlite

/-!
Contract: whether a successful call is ever replayed.

The success of a call is written inside the `try` that guards the call. When the
store raises there, the handler for failed attempts takes over: it marks the
provider as degraded and moves on to the next candidate.

Owns: the exact condition on the store under which no successful call is
followed by another one, nor blamed on its provider.
-/

namespace AutoRouteGateway.Routing

open AutoRouteGateway.Domain
open AutoRouteGateway.Policy
open AutoRouteGateway.Runtime
open AutoRouteGateway.State

section Replay

variable {σ ρ : Type} (S : StateStore σ) (engine : FallbackEngine) (clock : Clock)
  (request : RequestInfo)

/-- The two writes after a successful call: the health row, then the event. -/
def recordSuccess (candidate : RouteCandidate) (attempt : Nat) (s : σ) : StoreResult σ :=
  match applySuccess S candidate s with
  | .raised error s => .raised error s
  | .done s => S.recordRouteEvent (routeEvent request candidate attempt none .success) s

/-- The failure a text is reported as. -/
def serverFailure (text : String) : CandidateFailure where
  errorClass := .server
  message := truncate 200 text

/-- From the store a successful call came back to, its success is written, or the
write that would report a failure of the provider raises as well. -/
def SuccessStands (candidate : RouteCandidate) (attempt : Nat) (s : σ) : Prop :=
  match recordSuccess S request candidate attempt s with
  | .done _ => True
  | .raised error s =>
      ∃ error' s', applyFailure S engine (clock.settle attempt) candidate
        (serverFailure error.message) s = .raised error' s'

/-- A write that reports a failure of the candidate's provider. -/
def ReportsProvider (candidate : RouteCandidate) (writes : List Write) : Prop :=
  ∃ reason deadline,
    Write.health (providerSubject candidate) .degraded reason deadline ∈ writes

/-- What the bookkeeping of a call wrote. -/
def AttemptLog.writes (call : AttemptLog (σ × List Write) ρ) : List Write :=
  call.settled.2.drop call.returned.2.length

/-- Nothing is called after a call that returned, and its bookkeeping reports no
failure of its provider. -/
structure NeverReplayed (log : RunLog (σ × List Write) ρ) : Prop where
  last : ∀ call ∈ log.calls.dropLast, ∀ value, call.outcome ≠ .returned value
  unreported : ∀ turn ∈ log.turns, ∀ call ∈ turn.attempts, ∀ value,
    call.outcome = .returned value → ¬ ReportsProvider turn.scored.candidate call.writes

/-- Every call that returned has its success written, or nothing written at all. -/
def SuccessesStand (log : RunLog (σ × List Write) ρ) : Prop :=
  ∀ turn ∈ log.turns, ∀ call ∈ turn.attempts, ∀ value, call.outcome = .returned value →
    SuccessStands S engine clock request turn.scored.candidate call.number call.returned.1

variable {S engine clock request}

/-! ## The bookkeeping after a success -/

/-- The write that reports a text as a failure of the provider. -/
def reportWrite (engine : FallbackEngine) (now : Instant) (candidate : RouteCandidate)
    (text : String) : Write :=
  .health (providerSubject candidate) .degraded (orDefault (truncate 200 text) "server")
    (some (cooldown now engine.serverCooldown 0))

theorem reportsProvider_of_mem {now : Instant} {candidate : RouteCandidate} {text : String}
    {writes : List Write} (member : reportWrite engine now candidate text ∈ writes) :
    ReportsProvider candidate writes :=
  ⟨_, _, member⟩

theorem applyFailure_journaling (S : StateStore σ) (engine : FallbackEngine) (now : Instant)
    (candidate : RouteCandidate) (text : String) (s : σ × List Write) :
    applyFailure (journaling S) engine now candidate (serverFailure text) s =
      (applyFailure S engine now candidate (serverFailure text) s.1).enter s.2
        (reportWrite engine now candidate text) := rfl

theorem afterException_of_raised {candidate : RouteCandidate} {text : String}
    {progress : Progress (σ × List Write)} {error : StoreError} {s : σ}
    (raised : applyFailure S engine (clock.settle progress.attempts) candidate
      (serverFailure text) progress.store.1 = .raised error s) :
    (afterException (ρ := ρ) (journaling S) engine clock request candidate text progress).2 =
      .stop (.storeError error) { progress with store := (s, progress.store.2) } := by
  have entered := applyFailure_journaling S engine (clock.settle progress.attempts)
    candidate text progress.store
  rw [raised, serverFailure] at entered
  simp only [afterException, entered, StoreResult.enter]

/-- A failure that is written is in the journal. -/
theorem afterException_of_done {candidate : RouteCandidate} {text : String}
    {progress : Progress (σ × List Write)} {s : σ}
    (done : applyFailure S engine (clock.settle progress.attempts) candidate
      (serverFailure text) progress.store.1 = .done s) :
    ∃ writes, (afterException (ρ := ρ) (journaling S) engine clock request candidate text
        progress).2.progress.store.2 = progress.store.2 ++ writes ∧
      ReportsProvider candidate writes := by
  have entered := applyFailure_journaling S engine (clock.settle progress.attempts)
    candidate text progress.store
  rw [done, serverFailure] at entered
  simp only [afterException, entered, StoreResult.enter, Progress.record, journaling_record]
  cases S.recordRouteEvent (routeEvent request candidate progress.attempts (some .server)
      .nextCandidate) s with
  | raised error s' =>
      exact ⟨_, rfl, reportsProvider_of_mem (List.mem_singleton.mpr rfl)⟩
  | done s' =>
      dsimp only [StoreResult.enter, NextStep.progress]
      rw [List.append_assoc]
      exact ⟨_, rfl, reportsProvider_of_mem List.mem_cons_self⟩

/-- The write of a success at provider and model scope. -/
def successWrite (candidate : RouteCandidate) : Write :=
  .health (providerModelSubject candidate) .healthy "success" none

theorem applySuccess_journaling (S : StateStore σ) (candidate : RouteCandidate)
    (s : σ × List Write) :
    applySuccess (journaling S) candidate s =
      (applySuccess S candidate s.1).enter s.2 (successWrite candidate) := rfl

/-- The writes of a success do not report its provider. -/
theorem not_reportsProvider_success (candidate : RouteCandidate) (events : List RouteEvent) :
    ¬ ReportsProvider candidate (successWrite candidate :: events.map .event) := by
  intro reports
  obtain ⟨reason, deadline, member⟩ := reports
  rcases List.mem_cons.mp member with same | later
  · cases same
  · obtain ⟨event, -, same⟩ := List.mem_map.mp later
    cases same

theorem not_reportsProvider_nil (candidate : RouteCandidate) : ¬ ReportsProvider candidate [] := by
  intro reports
  obtain ⟨reason, deadline, member⟩ := reports
  cases member

/-- A success that stands ends the run and reports nobody. -/
theorem afterReturn_of_stands {candidate : RouteCandidate} (value : ρ)
    {progress : Progress (σ × List Write)}
    (stands : SuccessStands S engine clock request candidate progress.attempts
      progress.store.1) :
    (∃ ending progress', (afterReturn (journaling S) engine clock request candidate value
        progress).2 = .stop ending progress') ∧
      ∃ writes, (afterReturn (journaling S) engine clock request candidate value
          progress).2.progress.store.2 = progress.store.2 ++ writes ∧
        ¬ ReportsProvider candidate writes := by
  unfold SuccessStands recordSuccess at stands
  simp only [afterReturn, applySuccess_journaling]
  cases applied : applySuccess S candidate progress.store.1 with
  | raised error s =>
      rw [applied] at stands
      obtain ⟨error', s', raised⟩ := stands
      simp only [StoreResult.enter]
      have stopped : (afterException (ρ := ρ) (journaling S) engine clock request candidate
          error.message { progress with store := (s, progress.store.2) }).2 = _ :=
        afterException_of_raised raised
      rw [stopped]
      exact ⟨⟨_, _, rfl⟩, [], (List.append_nil _).symm, not_reportsProvider_nil candidate⟩
  | done s =>
      rw [applied] at stands
      simp only [StoreResult.enter, Progress.record, journaling_record]
      cases recorded : S.recordRouteEvent (routeEvent request candidate progress.attempts none
          .success) s with
      | raised error s' =>
          simp only [recorded] at stands
          obtain ⟨error', s'', raised⟩ := stands
          dsimp only [StoreResult.enter]
          rw [afterException_of_raised (by exact raised)]
          exact ⟨⟨_, _, rfl⟩, _, rfl, not_reportsProvider_success candidate []⟩
      | done s' =>
          dsimp only [StoreResult.enter, NextStep.progress]
          rw [List.append_assoc]
          exact ⟨⟨_, _, rfl⟩, _, rfl, not_reportsProvider_success candidate [_]⟩

/-- A success that does not stand reports the provider. -/
theorem afterReturn_of_not_stands {candidate : RouteCandidate} (value : ρ)
    {progress : Progress (σ × List Write)}
    (falls : ¬ SuccessStands S engine clock request candidate progress.attempts
      progress.store.1) :
    ∃ writes, (afterReturn (journaling S) engine clock request candidate value
        progress).2.progress.store.2 = progress.store.2 ++ writes ∧
      ReportsProvider candidate writes := by
  unfold SuccessStands recordSuccess at falls
  have reported : ∀ (error : StoreError) (s : σ) (earlier : Progress (σ × List Write)),
      earlier.attempts = progress.attempts → earlier.store.1 = s →
      (¬ ∃ error' s', applyFailure S engine (clock.settle progress.attempts) candidate
        (serverFailure error.message) s = .raised error' s') →
      ∃ writes, (afterException (ρ := ρ) (journaling S) engine clock request candidate
          error.message earlier).2.progress.store.2 = earlier.store.2 ++ writes ∧
        ReportsProvider candidate writes := by
    intro error s earlier sameAttempt sameStore written
    rw [← sameAttempt, ← sameStore] at written
    cases applied : applyFailure S engine (clock.settle earlier.attempts) candidate
        (serverFailure error.message) earlier.store.1 with
    | raised error' s' => exact absurd ⟨error', s', applied⟩ written
    | done s' => exact afterException_of_done applied
  simp only [afterReturn, applySuccess_journaling]
  cases applied : applySuccess S candidate progress.store.1 with
  | raised error s =>
      rw [applied] at falls
      exact reported error s { progress with store := (s, progress.store.2) } rfl rfl falls
  | done s =>
      rw [applied] at falls
      simp only [StoreResult.enter, Progress.record, journaling_record]
      cases recorded : S.recordRouteEvent (routeEvent request candidate progress.attempts none
          .success) s with
      | raised error s' =>
          simp only [recorded] at falls
          obtain ⟨writes, written, reports⟩ := reported error s'
            { progress with
              store := (s', progress.store.2 ++ [successWrite candidate])
              events := progress.events ++
                [routeEvent request candidate progress.attempts none .success] } rfl rfl falls
          obtain ⟨reason, deadline, member⟩ := reports
          exact ⟨successWrite candidate :: writes, written.trans (List.append_assoc _ _ _),
            reason, deadline, List.mem_cons_of_mem _ member⟩
      | done s' => exact absurd trivial (by simpa only [recorded] using falls)

/-! ## What follows a call -/

/-- The bookkeeping of the call did not end the run. -/
def Continued (S : StateStore σ) (engine : FallbackEngine) (clock : Clock)
    (request : RequestInfo) (candidate : RouteCandidate) (call : AttemptLog σ ρ) : Prop :=
  ∃ retries progress, progress.store = call.returned ∧ progress.attempts = call.number ∧
    ∀ ending progress', (settleCall S engine clock request candidate retries call.outcome
      progress).2 ≠ .stop ending progress'

/-- A call with a successor is in the first part, or has one in the second. -/
theorem mem_dropLast_append {α : Type} {earlier later : List α} {call : α}
    (member : call ∈ (earlier ++ later).dropLast) : call ∈ earlier ∨ call ∈ later.dropLast := by
  by_cases empty : later = []
  · rw [empty, List.append_nil] at member
    exact Or.inl (List.dropLast_subset _ member)
  · rw [List.dropLast_append_of_ne_nil empty] at member
    exact List.mem_append.mp member

variable {attemptFn : AttemptFn σ ρ}

theorem oneCall_continued {candidate : RouteCandidate} {retries : Nat} {progress : Progress σ}
    {step : NextStep σ ρ} {call : AttemptLog σ ρ}
    (made : oneCall S engine clock request attemptFn candidate retries progress = (step, call))
    (goesOn : ∀ ending progress', step ≠ .stop ending progress') :
    Continued S engine clock request candidate call := by
  cases made
  exact ⟨retries, _, rfl, rfl, goesOn⟩

/-- On one candidate, a call is continued if another follows, or if the loop goes on. -/
theorem attemptCandidate_continued {candidate : RouteCandidate} (budget retries : Nat)
    (progress : Progress σ) {call : AttemptLog σ ρ} :
    (call ∈ (attemptCandidate S engine clock request attemptFn candidate budget retries
        progress).2.dropLast → Continued S engine clock request candidate call) ∧
      ((∀ ending progress', (attemptCandidate S engine clock request attemptFn candidate budget
          retries progress).1 ≠ .stop ending progress') →
        call ∈ (attemptCandidate S engine clock request attemptFn candidate budget retries
          progress).2 → Continued S engine clock request candidate call) := by
  induction budget generalizing retries progress with
  | zero => exact ⟨by simp [attemptCandidate], by simp [attemptCandidate]⟩
  | succ budget inductionHypothesis =>
      simp only [attemptCandidate]
      cases made : oneCall S engine clock request attemptFn candidate retries progress with
      | mk step first =>
          cases step with
          | retry progress' =>
              obtain ⟨followed, passed⟩ := inductionHypothesis (retries + 1) progress'
              dsimp only
              generalize attemptCandidate S engine clock request attemptFn candidate budget
                (retries + 1) progress' = later at followed passed ⊢
              have firstContinued : Continued S engine clock request candidate first :=
                oneCall_continued made retry_ne_stop
              constructor
              · intro member
                rw [← List.singleton_append] at member
                rcases mem_dropLast_append member with here | inLater
                · rw [List.mem_singleton.mp here]
                  exact firstContinued
                · exact followed inLater
              · intro goesOn member
                rcases List.mem_cons.mp member with same | inLater
                · exact same ▸ firstContinued
                · exact passed goesOn inLater
          | next progress' =>
              constructor
              · intro member
                cases member
              · intro _ member
                rw [List.mem_singleton.mp member]
                exact oneCall_continued made next_ne_stop
          | stop ending progress' =>
              constructor
              · intro member
                cases member
              · intro goesOn
                exact absurd rfl (goesOn ending progress')

/-- In a run, every call that another one follows is continued at its turn. -/
theorem runFrom_continued (scored : List ScoredCandidate) (position : Nat)
    (progress : Progress σ) {call : AttemptLog σ ρ}
    (followed : call ∈ (runFrom S engine clock request attemptFn scored position
      progress).calls.dropLast) :
    ∃ turn ∈ (runFrom S engine clock request attemptFn scored position progress).turns,
      call ∈ turn.attempts ∧ Continued S engine clock request turn.scored.candidate call := by
  induction scored generalizing position progress with
  | nil => cases followed
  | cons sc rest inductionHypothesis =>
      by_cases ready : attemptable S (clock.check position) progress.store sc = true
      · have inTurn : call ∈ (attemptCandidate S engine clock request attemptFn sc.candidate
            (attemptBudget engine progress.attempts) 0 progress).2.dropLast → _ :=
          (attemptCandidate_continued _ _ _).1
        have passed : _ → call ∈ (attemptCandidate S engine clock request attemptFn sc.candidate
            (attemptBudget engine progress.attempts) 0 progress).2 → _ :=
          (attemptCandidate_continued _ _ _).2
        simp only [runFrom, ready, if_true] at followed ⊢
        generalize attemptCandidate S engine clock request attemptFn sc.candidate
          (attemptBudget engine progress.attempts) 0 progress = attempted
          at inTurn passed followed ⊢
        obtain ⟨step, calls⟩ := attempted
        have goesOn : ∀ later : RunLog σ ρ, call ∈ (calls ++ later.calls).dropLast →
            (∀ ending progress', step ≠ .stop ending progress') →
            (call ∈ later.calls.dropLast → ∃ turn ∈ later.turns, call ∈ turn.attempts ∧
              Continued S engine clock request turn.scored.candidate call) →
            ∃ turn ∈ (⟨position, sc, progress.store, calls⟩ : Turn σ ρ) :: later.turns,
              call ∈ turn.attempts ∧
                Continued S engine clock request turn.scored.candidate call := by
          intro later member continues inLater
          rcases mem_dropLast_append member with here | there
          · exact ⟨_, List.mem_cons_self, here, passed continues here⟩
          · obtain ⟨turn, isTurn, made⟩ := inLater there
            exact ⟨turn, List.mem_cons_of_mem _ isTurn, made⟩
        cases step with
        | stop ending progress' =>
            change call ∈ (calls ++ []).dropLast at followed
            rw [List.append_nil] at followed
            exact ⟨_, List.mem_cons_self, List.dropLast_subset _ followed, inTurn followed⟩
        | retry progress' =>
            have inLater := inductionHypothesis (position + 1) progress'
            dsimp only at followed ⊢
            generalize
              runFrom S engine clock request attemptFn rest (position + 1) progress' =
                later at inLater followed ⊢
            exact goesOn later followed retry_ne_stop inLater
        | next progress' =>
            have inLater := inductionHypothesis (position + 1) progress'
            dsimp only at followed ⊢
            generalize
              runFrom S engine clock request attemptFn rest (position + 1) progress' =
                later at inLater followed ⊢
            exact goesOn later followed next_ne_stop inLater
      · simp only [runFrom, ready, if_false, Bool.false_eq_true] at followed ⊢
        obtain ⟨turn, isTurn, made⟩ := inductionHypothesis (position + 1) progress followed
        exact ⟨turn, List.mem_cons_of_mem _ isTurn, made⟩

/-- What the bookkeeping of a logged call wrote is what it added to the journal. -/
theorem AttemptLog.writes_eq {call : AttemptLog (σ × List Write) ρ} {writes : List Write}
    (added : call.settled.2 = call.returned.2 ++ writes) : call.writes = writes := by
  rw [AttemptLog.writes, added, List.drop_left]

/-- The bookkeeping of a successful call of a run, from the store it came back to. -/
theorem Logged.afterReturn {attemptFn : AttemptFn (σ × List Write) ρ}
    {candidate : RouteCandidate} {retries : Nat} {call : AttemptLog (σ × List Write) ρ} {value : ρ}
    (logged : Logged (journaling S) engine clock request attemptFn candidate retries call)
    (returned : call.outcome = .returned value) :
    ∃ progress, progress.store = call.returned ∧ progress.attempts = call.number ∧
      call.settled = (Routing.afterReturn (journaling S) engine clock request candidate value
        progress).2.progress.store := by
  obtain ⟨progress, step, isReturned, isNumber, settled, isSettled⟩ := logged.settled
  rw [returned] at settled
  refine ⟨progress, isReturned, isNumber, ?_⟩
  rw [isSettled, ← show _ = step from congrArg Prod.snd settled]
  rfl

end Replay

/-- In a run, no successful call is replayed or blamed on its provider exactly when
each success is written, or the write that would report a failure raises too. -/
theorem never_replayed_iff {σ ρ : Type} (S : StateStore σ) (engine : FallbackEngine)
    (clock : Clock) (request : RequestInfo) (attemptFn : AttemptFn σ ρ)
    (scored : List ScoredCandidate) (start : σ) :
    NeverReplayed (journaledRun S engine clock request attemptFn scored start) ↔
      SuccessesStand S engine clock request
        (journaledRun S engine clock request attemptFn scored start) := by
  have logged : ∀ turn ∈ (journaledRun S engine clock request attemptFn scored start).turns,
      ∀ call ∈ turn.attempts, ∃ retries, Logged (journaling S) engine clock request
        (besideJournal attemptFn) turn.scored.candidate retries call := by
    intro turn visited call made
    obtain ⟨earlier, later, split⟩ := List.append_of_mem made
    exact ⟨_, runFrom_logged scored 0 _ visited split⟩
  constructor
  · intro never turn visited call made value returned
    by_contra falls
    obtain ⟨retries, isLogged⟩ := logged turn visited call made
    obtain ⟨progress, isReturned, isNumber, isSettled⟩ := isLogged.afterReturn returned
    rw [← isReturned, ← isNumber] at falls
    obtain ⟨writes, added, reports⟩ := afterReturn_of_not_stands value falls
    rw [← isSettled, isReturned] at added
    apply never.unreported turn visited call made value returned
    rw [AttemptLog.writes_eq added]
    exact reports
  · intro stand
    constructor
    · intro call followed value returned
      obtain ⟨turn, visited, made, retries, progress, isReturned, isNumber, goesOn⟩ :=
        runFrom_continued scored 0 _ followed
      have stands := stand turn visited call made value returned
      rw [← isReturned, ← isNumber] at stands
      obtain ⟨⟨ending, progress', stopped⟩, -⟩ := afterReturn_of_stands value stands
      rw [returned] at goesOn
      exact goesOn ending progress' stopped
    · intro turn visited call made value returned
      have stands := stand turn visited call made value returned
      obtain ⟨retries, isLogged⟩ := logged turn visited call made
      obtain ⟨progress, isReturned, isNumber, isSettled⟩ := isLogged.afterReturn returned
      rw [← isReturned, ← isNumber] at stands
      obtain ⟨-, writes, added, unreported⟩ := afterReturn_of_stands value stands
      rw [← isSettled, isReturned] at added
      rw [AttemptLog.writes_eq added]
      exact unreported

/-! ## A lock that passes -/

/-- A write to a database that another process may have locked. The lock is gone
when the write has failed. -/
def whenUnlocked (write : SqliteStateStore → StoreResult SqliteStateStore) :
    Bool × SqliteStateStore → StoreResult (Bool × SqliteStateStore)
  | (true, s) => .raised ⟨"database is locked"⟩ (false, s)
  | (false, s) => (write s).map (false, ·)

/-- The SQLite store over a database that may be locked. -/
def lockableStore : StateStore (Bool × SqliteStateStore) where
  getHealth := fun s => SqliteStateStore.getHealth s.2
  setHealth := fun subject state reason deadline =>
    whenUnlocked (SqliteStateStore.setHealth subject state reason deadline)
  getQuota := fun s => SqliteStateStore.getQuota s.2
  setQuota := fun subject state reason deadline =>
    whenUnlocked (SqliteStateStore.setQuota subject state reason deadline)
  getCredential := fun s => SqliteStateStore.getCredential s.2
  setCredential := fun subject state reason =>
    whenUnlocked (SqliteStateStore.setCredential subject state reason)
  getCooldown := fun s => SqliteStateStore.getCooldown s.2
  recordRouteEvent := fun event => whenUnlocked (SqliteStateStore.recordRouteEvent event)

/-- Two providers that answer, and a lock on the first write. -/
def lockedLog : RunLog ((Bool × SqliteStateStore) × List Write) Unit :=
  journaledRun lockableStore {} ⟨fun _ => 0, fun _ => 0⟩ ⟨"r", "v"⟩
    (fun _ _ s => (.returned (), s))
    [⟨⟨"p", some "k", ⟨"m", "p", ∅⟩, ∅, .api, 100, false⟩, 100, true, "ok"⟩,
      ⟨⟨"q", some "k", ⟨"m", "q", ∅⟩, ∅, .api, 100, false⟩, 100, true, "ok"⟩]
    (true, .empty)

/-- The first provider answered; it is reported as degraded, and the second one is
called as well. -/
theorem success_is_replayed :
    lockedLog.calls.map AttemptLog.outcome = [.returned (), .returned ()] ∧
      lockedLog.store.2.head? =
        some (.health ⟨"p", none, none⟩ .degraded "database is locked" (some (30 * second))) ∧
      ¬ NeverReplayed lockedLog := by
  refine ⟨by decide +kernel, by decide +kernel, ?_⟩
  intro never
  have first : AttemptOutcome.returned () ∈ lockedLog.calls.dropLast.map AttemptLog.outcome := by
    decide +kernel
  obtain ⟨call, followed, returned⟩ := List.mem_map.mp first
  exact never.last call followed () returned

end AutoRouteGateway.Routing
