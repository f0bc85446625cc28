import Mathlib.Data.List.Chain
import Mathlib.Data.List.Forall2
import AutoRouteGateway.Routing.RunMaps
import AutoRouteGateway.Routing.RunSpec

/-!
Contract: the events a run records tell what the run did.

Owns: the event of one call, the events of the calls on one candidate and of a
whole run, each as what is added to the journal, to the list the result carries
and to the counters, and how the ending of a run follows from its events.

The store operations are assumed not to raise. Whether the route has a candidate
limit does not matter.
-/

namespace AutoRouteGateway.Routing

open AutoRouteGateway.Domain
open AutoRouteGateway.Policy
open AutoRouteGateway.Runtime
open AutoRouteGateway.State

/-! ## The event of one call -/

/-- The error class that an outcome is recorded with. -/
def AttemptOutcome.errorClass {ρ : Type} : AttemptOutcome ρ → Option ErrorClass
  | .returned _ => none
  | .failed failure => some failure.errorClass
  | .raised _ => some .server

/-- The actions that an outcome may be recorded with. -/
def AttemptOutcome.Allows {ρ : Type} : AttemptOutcome ρ → EventAction → Prop
  | .returned _, action => action = .success
  | .failed failure, action =>
      if failure.committed = true then action = .stopCommittedStream
      else action = .retrySameCandidate ∨ action = .nextCandidate
  | .raised _, action => action = .nextCandidate

/-- The event tells of the call on the candidate. -/
structure TellsOf {σ ρ : Type} (request : RequestInfo) (candidate : RouteCandidate)
    (call : AttemptLog σ ρ) (event : RouteEvent) : Prop where
  isEvent : event =
    routeEvent request candidate call.number call.outcome.errorClass event.action
  allowed : call.outcome.Allows event.action

section Bookkeeping

variable {σ ρ : Type} {S : StateStore σ} {engine : FallbackEngine} {clock : Clock}
  {request : RequestInfo}

/-- The event was appended to the run's list and went through to the store. -/
structure Entered (before after : Progress (σ × List Write)) (event : RouteEvent) : Prop where
  events : after.events = before.events ++ [event]
  journal : recordedEvents after.store.2 = recordedEvents before.store.2 ++ [event]
  attempts : after.attempts = event.attempt

/-- What the bookkeeping of one call leads to, by the action it records. -/
inductive Records (request : RequestInfo) (before : Progress (σ × List Write))
    (event : RouteEvent) : NextStep (σ × List Write) ρ → Prop where
  | finish (result : FallbackResult) (value : Option ρ) (after : Progress (σ × List Write))
      (entered : Entered before after event)
      (final : event.action = .success ∨ event.action = .stopCommittedStream)
      (events : result.events = after.events) (attempts : result.attempts = after.attempts)
      (fallbacks : result.fallbackCount = before.fallbackCount) :
      Records request before event (.stop (.finished result value) after)
  | retry (after : Progress (σ × List Write)) (entered : Entered before after event)
      (action : event.action = .retrySameCandidate)
      (fallbacks : after.fallbackCount = before.fallbackCount) :
      Records request before event (.retry after)
  | next (after : Progress (σ × List Write)) (entered : Entered before after event)
      (action : event.action = .nextCandidate)
      (fallbacks : after.fallbackCount = before.fallbackCount + 1)
      (lastError : after.lastError = event.errorClass) :
      Records request before event (.next after)
  | limit (after : Progress (σ × List Write)) (entered : Entered before after event)
      (action : event.action = .nextCandidate) (lastError : after.lastError = event.errorClass) :
      Records request before event
        (.stop (.noEligible ⟨request.virtualModel, after.attempts, after.lastError⟩) after)

/-- What a write adds to the events of the journal. -/
theorem recordedEvents_of_enter {journal : List Write} {write : Write} {result : StoreResult σ}
    {s : σ × List Write} (done : result.enter journal write = .done s) :
    recordedEvents s.2 = recordedEvents journal ++ write.event?.toList := by
  cases result with
  | raised error s => cases done
  | done s' =>
      cases done
      show recordedEvents (journal ++ [write]) = _
      rw [recordedEvents_append]
      cases write <;> rfl

/-- A failure's state writes are no events. -/
theorem recordedEvents_applyFailure {now : Instant} {candidate : RouteCandidate}
    {failure : CandidateFailure} {s s' : σ × List Write}
    (done : applyFailure (journaling S) engine now candidate failure s = .done s') :
    recordedEvents s'.2 = recordedEvents s.2 := by
  unfold applyFailure at done
  cases isClass : failure.errorClass <;> simp only [isClass] at done
  case tokenLimit | unknown =>
    cases done
    rfl
  all_goals
    have added := recordedEvents_of_enter done
    rwa [show Option.toList (Write.event? _) = [] from rfl, List.append_nil] at added

theorem recordedEvents_applySuccess {candidate : RouteCandidate} {s s' : σ × List Write}
    (done : applySuccess (journaling S) candidate s = .done s') :
    recordedEvents s'.2 = recordedEvents s.2 := by
  have added := recordedEvents_of_enter done
  rwa [show Option.toList (Write.event? _) = [] from rfl, List.append_nil] at added

/-- Recording an event enters it, whatever state was written before. -/
theorem entered_of_record {before after : Progress (σ × List Write)} {event : RouteEvent}
    {s : σ × List Write} (kept : recordedEvents s.2 = recordedEvents before.store.2)
    (number : event.attempt = before.attempts)
    (recorded : Progress.record (journaling S) { before with store := s } event = .done after) :
    Entered before after event ∧ after.fallbackCount = before.fallbackCount := by
  simp only [Progress.record] at recorded
  split at recorded
  · rename_i s' done
    have added := recordedEvents_of_enter done
    cases recorded
    exact ⟨⟨rfl, by rw [added, kept]; rfl, number.symm⟩, rfl⟩
  · cases recorded

theorem afterException_records {candidate : RouteCandidate} {text : String}
    {before : Progress (σ × List Write)}
    (quiet : (afterException (ρ := ρ) (journaling S) engine clock request candidate text
      before).1 = none) :
    Records request before
      (routeEvent request candidate before.attempts (some .server) .nextCandidate)
      (afterException (ρ := ρ) (journaling S) engine clock request candidate text before).2 := by
  simp only [afterException] at quiet ⊢
  split at quiet
  · cases quiet
  · rename_i s applied
    split at quiet
    · cases quiet
    · rename_i after recorded
      obtain ⟨entered, fallbacks⟩ :=
        entered_of_record (recordedEvents_applyFailure applied) rfl recorded
      exact .next _ ⟨entered.events, entered.journal, entered.attempts⟩ rfl
        (congrArg (· + 1) fallbacks) rfl

/-- A failure that is not retried gives the position up, or ends the run at the limit. -/
theorem afterAction_records {before after : Progress (σ × List Write)} {event : RouteEvent}
    (entered : Entered before after event) (fallbacks : after.fallbackCount = before.fallbackCount)
    (lastError : after.lastError = event.errorClass)
    (action : event.action = .nextCandidate) :
    Records (ρ := ρ) request before event
      (afterAction engine request .nextCandidate after) := by
  simp only [afterAction]
  split
  · exact .limit { after with fallbackCount := after.fallbackCount + 1 }
      ⟨entered.events, entered.journal, entered.attempts⟩ action lastError
  · exact .next { after with fallbackCount := after.fallbackCount + 1 }
      ⟨entered.events, entered.journal, entered.attempts⟩ action (congrArg (· + 1) fallbacks)
      lastError

theorem settleCall_records (candidate : RouteCandidate) (retries : Nat)
    (outcome : AttemptOutcome ρ) (before : Progress (σ × List Write))
    (quiet : (settleCall (journaling S) engine clock request candidate retries outcome
      before).1 = none) :
    ∃ action, outcome.Allows action ∧
      Records request before
        (routeEvent request candidate before.attempts outcome.errorClass action)
        (settleCall (journaling S) engine clock request candidate retries outcome before).2 := by
  cases outcome with
  | raised text => exact ⟨.nextCandidate, rfl, afterException_records quiet⟩
  | returned value =>
      refine ⟨.success, rfl, ?_⟩
      simp only [settleCall, afterReturn] at quiet ⊢
      split at quiet
      · cases quiet
      · rename_i s applied
        split at quiet
        · cases quiet
        · rename_i after recorded
          obtain ⟨entered, fallbacks⟩ :=
            entered_of_record (recordedEvents_applySuccess applied) rfl recorded
          exact .finish _ _ _ entered (Or.inl rfl) rfl rfl fallbacks
  | failed failure =>
      simp only [settleCall] at quiet ⊢
      by_cases committed : failure.committed = true
      · have allowed : (AttemptOutcome.failed failure : AttemptOutcome ρ).Allows
            .stopCommittedStream := by
          show if failure.committed = true then _ else _
          rw [if_pos committed]
        refine ⟨.stopCommittedStream, allowed, ?_⟩
        simp only [committed, if_true, afterCommittedFailure] at quiet ⊢
        split at quiet
        · cases quiet
        · rename_i after recorded
          obtain ⟨entered, fallbacks⟩ := entered_of_record rfl rfl recorded
          exact .finish _ _ _ entered (Or.inr rfl) rfl rfl fallbacks
      · simp only [committed, if_false, afterFailure, Bool.false_eq_true] at quiet ⊢
        split at quiet
        · cases quiet
        · rename_i s applied
          split at quiet
          · cases quiet
          · rename_i after recorded
            obtain ⟨entered, fallbacks⟩ :=
              entered_of_record (recordedEvents_applyFailure applied) rfl recorded
            have allowed : ∀ action, action = .retrySameCandidate ∨ action = .nextCandidate →
                (AttemptOutcome.failed failure : AttemptOutcome ρ).Allows action := by
              intro action either
              show if failure.committed = true then _ else _
              rw [if_neg committed]
              exact either
            cases action : nextAction failure.errorClass retries engine.policy with
            | retrySameCandidate =>
                rw [action] at entered
                exact ⟨_, allowed _ (Or.inl rfl), .retry
                  { after with lastError := some failure.errorClass }
                  ⟨entered.events, entered.journal, entered.attempts⟩ rfl fallbacks⟩
            | nextCandidate =>
                rw [action] at entered
                exact ⟨_, allowed _ (Or.inr rfl), afterAction_records
                  ⟨entered.events, entered.journal, entered.attempts⟩ fallbacks rfl rfl⟩
            | stop => exact absurd action (nextAction_ne_stop _ _ _)

theorem Records.entered {before : Progress (σ × List Write)} {event : RouteEvent}
    {step : NextStep (σ × List Write) ρ} (records : Records request before event step) :
    Entered before step.progress event := by
  cases records with
  | finish _ _ _ entered => exact entered
  | retry _ entered => exact entered
  | next _ entered => exact entered
  | limit _ entered => exact entered

end Bookkeeping

/-! ## The events of one candidate -/

section Loop

variable {σ ρ : Type} {S : StateStore σ} {engine : FallbackEngine} {clock : Clock}
  {request : RequestInfo} {attemptFn : AttemptFn σ ρ}

/-- How the loop on one candidate ends: at the ceiling after retries only, or after a
last call that is not retried. -/
inductive LoopEnds (request : RequestInfo) (before : Progress (σ × List Write)) :
    List RouteEvent → NextStep (σ × List Write) ρ → Prop where
  | ceiling (events : List RouteEvent) (error : HardAttemptCeilingError)
      (after : Progress (σ × List Write))
      (retried : ∀ event ∈ events, event.action = .retrySameCandidate) :
      LoopEnds request before events (.stop (.hardCeiling error) after)
  | last (earlier : List RouteEvent) (event : RouteEvent) (middle : Progress (σ × List Write))
      (step : NextStep (σ × List Write) ρ)
      (retried : ∀ other ∈ earlier, other.action = .retrySameCandidate)
      (fallbacks : middle.fallbackCount = before.fallbackCount)
      (records : Records request middle event step) (noRetry : ∀ after, step ≠ .retry after) :
      LoopEnds request before (earlier ++ [event]) step

/-- The events of the calls on one candidate, and where they went. -/
structure LoopRecord (request : RequestInfo) (candidate : RouteCandidate)
    (before : Progress (σ × List Write)) (step : NextStep (σ × List Write) ρ)
    (calls : List (AttemptLog (σ × List Write) ρ)) (events : List RouteEvent) : Prop where
  each : List.Forall₂ (TellsOf request candidate) calls events
  numbers : events.map RouteEvent.attempt = List.range' (before.attempts + 1) events.length
  listed : step.progress.events = before.events ++ events
  journal :
    recordedEvents step.progress.store.2 = recordedEvents before.store.2 ++ events
  attempts : step.progress.attempts = before.attempts + events.length
  ends : LoopEnds request before events step

theorem LoopEnds.retried {before : Progress (σ × List Write)} {events : List RouteEvent}
    {step : NextStep (σ × List Write) ρ} (ends : LoopEnds request before events step) :
    ∀ event ∈ events.dropLast, event.action = .retrySameCandidate := by
  cases ends with
  | ceiling _ _ _ retried => exact fun event member => retried event (List.dropLast_subset _ member)
  | last earlier event _ _ retried =>
      rw [List.dropLast_concat]
      exact retried

/-- A retried call in front changes no ending. -/
theorem LoopEnds.cons {before middle : Progress (σ × List Write)} {event : RouteEvent}
    {events : List RouteEvent} {step : NextStep (σ × List Write) ρ}
    (action : event.action = .retrySameCandidate)
    (fallbacks : middle.fallbackCount = before.fallbackCount)
    (ends : LoopEnds request middle events step) :
    LoopEnds request before (event :: events) step := by
  cases ends with
  | ceiling _ error after retried =>
      exact .ceiling _ error after (List.forall_mem_cons.mpr ⟨action, retried⟩)
  | last earlier final middle' _ retried fallbacks' records noRetry =>
      exact .last (event :: earlier) final middle' step
        (List.forall_mem_cons.mpr ⟨action, retried⟩) (fallbacks'.trans fallbacks) records noRetry

/-- One call, with the event it is recorded with. -/
theorem oneCall_records (S : StateStore σ) (engine : FallbackEngine) (clock : Clock)
    (request : RequestInfo) (attemptFn : AttemptFn σ ρ) (candidate : RouteCandidate)
    (retries : Nat) (before : Progress (σ × List Write))
    (quiet : (oneCall (journaling S) engine clock request (besideJournal attemptFn) candidate
      retries before).2.storeError = none) :
    ∃ event middle, middle.events = before.events ∧ middle.store.2 = before.store.2 ∧
      middle.fallbackCount = before.fallbackCount ∧ event.attempt = before.attempts + 1 ∧
      TellsOf request candidate (oneCall (journaling S) engine clock request
        (besideJournal attemptFn) candidate retries before).2 event ∧
      Records request middle event (oneCall (journaling S) engine clock request
        (besideJournal attemptFn) candidate retries before).1 := by
  obtain ⟨action, allowed, records⟩ := settleCall_records candidate retries _ _ quiet
  exact ⟨routeEvent request candidate (before.attempts + 1)
    (besideJournal attemptFn (before.attempts + 1) candidate before.store).1.errorClass action,
    { before with
      store := (besideJournal attemptFn (before.attempts + 1) candidate before.store).2
      attempts := before.attempts + 1 },
    rfl, rfl, rfl, rfl, ⟨rfl, allowed⟩, records⟩

theorem attemptCandidate_records (S : StateStore σ) (engine : FallbackEngine) (clock : Clock)
    (request : RequestInfo) (attemptFn : AttemptFn σ ρ) (candidate : RouteCandidate)
    (budget retries : Nat) (before : Progress (σ × List Write))
    (quiet : Quiet (attemptCandidate (journaling S) engine clock request
      (besideJournal attemptFn) candidate budget retries before).2) :
    ∃ events, LoopRecord request candidate before
      (attemptCandidate (journaling S) engine clock request (besideJournal attemptFn) candidate
        budget retries before).1
      (attemptCandidate (journaling S) engine clock request (besideJournal attemptFn) candidate
        budget retries before).2 events := by
  induction budget generalizing retries before with
  | zero =>
      exact ⟨[], .nil, rfl, (List.append_nil _).symm, (List.append_nil _).symm, rfl,
        .ceiling _ _ _ (List.forall_mem_nil _)⟩
  | succ budget inductionHypothesis =>
      have one := oneCall_records S engine clock request attemptFn candidate retries before
      simp only [attemptCandidate] at quiet ⊢
      generalize oneCall (journaling S) engine clock request (besideJournal attemptFn) candidate
        retries before = made at one quiet ⊢
      obtain ⟨step, call⟩ := made
      have alone : call.storeError = none → (∀ after, step ≠ .retry after) →
          ∃ events, LoopRecord request candidate before step [call] events := by
        intro ownQuiet noRetry
        obtain ⟨event, middle, sameEvents, sameJournal, fallbacks, number, tells, records⟩ :=
          one ownQuiet
        have entered := records.entered
        refine ⟨[event], .cons tells .nil, ?_, ?_, ?_, ?_, ?_⟩
        · rw [List.map_singleton, number]
          rfl
        · rw [entered.events, sameEvents]
        · rw [entered.journal, sameJournal]
        · rw [entered.attempts, number]
          rfl
        · exact .last [] event middle step (List.forall_mem_nil _) fallbacks records noRetry
      cases step with
      | retry after =>
          obtain ⟨event, middle, sameEvents, sameJournal, fallbacks, number, tells, records⟩ :=
            one (quiet call List.mem_cons_self)
          have entered := records.entered
          obtain ⟨later, record⟩ := inductionHypothesis (retries + 1) after
            fun other member => quiet other (List.mem_cons_of_mem _ member)
          have attempts : after.attempts = before.attempts + 1 := entered.attempts.trans number
          refine ⟨event :: later, .cons tells record.each, ?_, ?_, ?_, ?_, ?_⟩
          · rw [List.map_cons, record.numbers, number, attempts, List.length_cons,
              List.range'_succ]
          · rw [record.listed, show after.events = _ from entered.events, sameEvents,
              List.append_assoc]
            rfl
          · rw [record.journal, show recordedEvents after.store.2 = _ from entered.journal,
              sameJournal, List.append_assoc]
            rfl
          · rw [record.attempts, attempts, List.length_cons]
            omega
          · cases records with
            | retry _ _ action kept => exact record.ends.cons action (kept.trans fallbacks)
      | next after =>
          apply alone (quiet call List.mem_cons_self)
          intro after' same
          cases same
      | stop ending after =>
          apply alone (quiet call List.mem_cons_self)
          intro after' same
          cases same

end Loop

/-! ## The events of a run -/

section Faithful

variable {σ ρ : Type}

/-- The calls of a run, each with its turn. -/
def RunLog.placedCalls (log : RunLog σ ρ) : List (Turn σ ρ × AttemptLog σ ρ) :=
  log.turns.flatMap fun turn => turn.attempts.map (Prod.mk turn)

/-- The event, at its position of the scored list, tells of the call. -/
structure PlacedTells (request : RequestInfo) (made : Turn σ ρ × AttemptLog σ ρ)
    (record : Nat × RouteEvent) : Prop where
  position : record.1 = made.1.position
  tells : TellsOf request made.1.scored.candidate made.2 record.2

/-- What may follow an event: at the same position after a retry, at a later one after
a candidate was given up, and nothing after any other action. -/
def FollowedBy (earlier later : Nat × RouteEvent) : Prop :=
  (earlier.2.action = .retrySameCandidate ∧ later.1 = earlier.1) ∨
    (earlier.2.action = .nextCandidate ∧ earlier.1 < later.1)

/-- A failure before anything was committed: the position is not where the run ends. -/
def AttemptOutcome.leaves : AttemptOutcome ρ → Bool
  | .returned _ => false
  | .failed failure => !failure.committed
  | .raised _ => true

/-- The position was attempted, and given up after its last call. -/
def Turn.givenUp (turn : Turn σ ρ) : Bool :=
  (turn.attempts.getLast?).any fun call => call.outcome.leaves

/-- The log of a run that was really made from `start` on, with its events at their
positions, is told by the events. -/
structure FaithfulLog (S : StateStore σ) (engine : FallbackEngine) (clock : Clock)
    (request : RequestInfo) (attemptFn : AttemptFn σ ρ) (start : σ)
    (log : RunLog (σ × List Write) ρ) (records : List (Nat × RouteEvent)) : Prop where
  performed : Performed (journaling S) engine clock request (besideJournal attemptFn) (start, [])
    log
  /-- One event for each call, in the order of the calls. -/
  recorded : recordedEvents log.store.2 = records.map Prod.snd
  each : List.Forall₂ (PlacedTells request) log.placedCalls records
  numbers : records.map (fun record => record.2.attempt) = List.range' 1 log.calls.length
  /-- The actions are well formed. -/
  followed : records.IsChain FollowedBy
  lastRetry : ∀ record, records.getLast? = some record →
    record.2.action = .retrySameCandidate → ∃ error, log.ending = .hardCeiling error
  /-- The result and the error carry what was recorded. -/
  finished : ∀ result value, log.ending = .finished result value →
    result.events = recordedEvents log.store.2 ∧ result.attempts = log.calls.length ∧
      result.fallbackCount = log.turns.countP Turn.givenUp
  noEligible : ∀ error, log.ending = .noEligible error →
    error.attempts = log.calls.length ∧
      error.lastError = (records.getLast?).bind fun record => record.2.errorClass

/-- The same from a position and a progress on. -/
structure RunRecord (request : RequestInfo) (position : Nat)
    (before : Progress (σ × List Write)) (log : RunLog (σ × List Write) ρ)
    (records : List (Nat × RouteEvent)) : Prop where
  recorded : recordedEvents log.store.2 =
    recordedEvents before.store.2 ++ records.map Prod.snd
  each : List.Forall₂ (PlacedTells request) log.placedCalls records
  numbers : records.map (fun record => record.2.attempt) =
    List.range' (before.attempts + 1) records.length
  onward : ∀ record ∈ records, position ≤ record.1
  followed : records.IsChain FollowedBy
  lastRetry : ∀ record, records.getLast? = some record →
    record.2.action = .retrySameCandidate → ∃ error, log.ending = .hardCeiling error
  finished : ∀ result value, log.ending = .finished result value →
    result.events = before.events ++ records.map Prod.snd ∧
      result.attempts = before.attempts + records.length ∧
        result.fallbackCount = before.fallbackCount + log.turns.countP Turn.givenUp
  noEligible : ∀ error, log.ending = .noEligible error →
    error.attempts = before.attempts + records.length ∧
      error.lastError = (records.getLast?).elim before.lastError fun record => record.2.errorClass

theorem length_placedCalls (log : RunLog σ ρ) : log.placedCalls.length = log.calls.length := by
  simp [RunLog.placedCalls, RunLog.calls, List.length_flatMap]

/-- The events of one turn are well formed: all but the last are retries. -/
theorem isChain_turn {events : List RouteEvent} (position : Nat)
    (retried : ∀ event ∈ events.dropLast, event.action = .retrySameCandidate) :
    (events.map (Prod.mk position)).IsChain FollowedBy := by
  induction events with
  | nil => exact .nil
  | cons event events inductionHypothesis =>
      cases events with
      | nil => exact .singleton _
      | cons next others =>
          rw [List.dropLast_cons_of_ne_nil (List.cons_ne_nil _ _)] at retried
          refine .cons_cons (Or.inl ⟨retried event List.mem_cons_self, rfl⟩) ?_
          exact inductionHypothesis fun other member =>
            retried other (List.mem_cons_of_mem _ member)

/-- The events of a turn, at its position. -/
theorem placedTells_turn {request : RequestInfo} {turn : Turn σ ρ} {events : List RouteEvent}
    (each : List.Forall₂ (TellsOf request turn.scored.candidate) turn.attempts events) :
    List.Forall₂ (PlacedTells request) (turn.attempts.map (Prod.mk turn))
      (events.map (Prod.mk turn.position)) := by
  rw [List.forall₂_map_left_iff, List.forall₂_map_right_iff]
  exact each.imp fun _ _ tells => ⟨rfl, tells⟩

theorem leaves_of_next {outcome : AttemptOutcome ρ} (allowed : outcome.Allows .nextCandidate) :
    outcome.leaves = true := by
  cases outcome with
  | returned value => cases allowed
  | raised text => rfl
  | failed failure =>
      cases committed : failure.committed with
      | false => simp [AttemptOutcome.leaves, committed]
      | true => simp [AttemptOutcome.Allows, committed] at allowed

theorem not_leaves_of_final {outcome : AttemptOutcome ρ} {action : EventAction}
    (allowed : outcome.Allows action)
    (final : action = .success ∨ action = .stopCommittedStream) : outcome.leaves = false := by
  cases outcome with
  | returned value => rfl
  | raised text =>
      rw [show action = .nextCandidate from allowed] at final
      simp at final
  | failed failure =>
      cases committed : failure.committed with
      | true => simp [AttemptOutcome.leaves, committed]
      | false =>
          simp only [AttemptOutcome.Allows, committed, Bool.false_eq_true, if_false] at allowed
          rcases allowed with same | same <;> rw [same] at final <;> simp at final

/-- The last event of a turn tells of its last call. -/
theorem exists_last_call {request : RequestInfo} {candidate : RouteCandidate}
    {calls : List (AttemptLog σ ρ)} {earlier : List RouteEvent} {event : RouteEvent}
    (each : List.Forall₂ (TellsOf request candidate) calls (earlier ++ [event])) :
    ∃ call, calls.getLast? = some call ∧ TellsOf request candidate call event := by
  have last := List.forall₂_drop_append calls earlier [event] each
  have split := List.take_append_drop earlier.length calls
  cases rest : calls.drop earlier.length with
  | nil =>
      rw [rest] at last
      cases last
  | cons call others =>
      rw [rest, List.forall₂_cons] at last
      obtain ⟨tells, noOthers⟩ := last
      cases noOthers
      refine ⟨call, ?_, tells⟩
      rw [← split, rest, List.getLast?_concat]

theorem givenUp_of_last {turn : Turn σ ρ} {call : AttemptLog σ ρ}
    (isLast : turn.attempts.getLast? = some call) : turn.givenUp = call.outcome.leaves := by
  rw [Turn.givenUp, isLast]
  rfl

variable {request : RequestInfo} {position : Nat} {before : Progress (σ × List Write)}

/-- Without positions left, nothing more is recorded. -/
theorem RunRecord.exhausted :
    RunRecord (ρ := ρ) request position before
      { turns := []
        ending := .noEligible ⟨request.virtualModel, before.attempts, before.lastError⟩
        store := before.store } [] where
  recorded := (List.append_nil _).symm
  each := .nil
  numbers := rfl
  onward := List.forall_mem_nil _
  followed := .nil
  lastRetry := by
    intro record isLast
    cases isLast
  finished := by
    intro result value ending
    cases ending
  noEligible := by
    intro error ending
    cases ending
    exact ⟨rfl, rfl⟩

/-- A position without a call in front. -/
theorem RunRecord.skip {turn : Turn (σ × List Write) ρ} {later : RunLog (σ × List Write) ρ}
    {records : List (Nat × RouteEvent)} (untried : turn.attempts = [])
    (record : RunRecord request (position + 1) before later records) :
    RunRecord request position before { later with turns := turn :: later.turns } records where
  recorded := record.recorded
  each := by
    have same : ({ later with turns := turn :: later.turns } :
        RunLog (σ × List Write) ρ).placedCalls = later.placedCalls := by
      simp [RunLog.placedCalls, untried]
    rw [same]
    exact record.each
  numbers := record.numbers
  onward := fun other member => (Nat.le_succ position).trans (record.onward other member)
  followed := record.followed
  lastRetry := record.lastRetry
  finished := by
    intro result value ending
    obtain ⟨events, attempts, fallbacks⟩ := record.finished result value ending
    refine ⟨events, attempts, ?_⟩
    rw [fallbacks, List.countP_cons_of_neg]
    simp [Turn.givenUp, untried]
  noEligible := record.noEligible

/-- A result carries what its turn added, and its position is not given up. -/
theorem LoopRecord.finished {candidate : RouteCandidate} {result : FallbackResult}
    {value : Option ρ} {after : Progress (σ × List Write)}
    {calls : List (AttemptLog (σ × List Write) ρ)} {events : List RouteEvent}
    (loop : LoopRecord request candidate before (.stop (.finished result value) after) calls
      events) :
    result.events = before.events ++ events ∧
      result.attempts = before.attempts + events.length ∧
        result.fallbackCount = before.fallbackCount ∧
          ∃ call, calls.getLast? = some call ∧ call.outcome.leaves = false := by
  have ends := loop.ends
  cases ends with
  | last earlier event middle _ _ fallbacks records =>
      obtain ⟨call, isLast, tells⟩ := exists_last_call loop.each
      cases records with
      | finish _ _ _ _ final carried counted kept =>
          exact ⟨carried.trans loop.listed, counted.trans loop.attempts, kept.trans fallbacks,
            call, isLast, not_leaves_of_final tells.allowed final⟩

/-- The candidate limit is reached after the failure that was recorded last. -/
theorem LoopRecord.limited {candidate : RouteCandidate} {error : NoEligibleCandidateError}
    {after : Progress (σ × List Write)} {calls : List (AttemptLog (σ × List Write) ρ)}
    {events : List RouteEvent}
    (loop : LoopRecord request candidate before (.stop (.noEligible error) after) calls events) :
    error.attempts = before.attempts + events.length ∧
      ∃ earlier event, events = earlier ++ [event] ∧ error.lastError = event.errorClass := by
  have ends := loop.ends
  cases ends with
  | last earlier event middle _ _ _ records =>
      cases records with
      | limit _ _ _ lastError => exact ⟨loop.attempts, earlier, event, rfl, lastError⟩

/-- A position is given up after the failure that was recorded last. -/
theorem LoopRecord.passed {candidate : RouteCandidate} {after : Progress (σ × List Write)}
    {calls : List (AttemptLog (σ × List Write) ρ)} {events : List RouteEvent}
    (loop : LoopRecord request candidate before (.next after) calls events) :
    after.fallbackCount = before.fallbackCount + 1 ∧
      (∃ earlier event, events = earlier ++ [event] ∧ event.action = .nextCandidate ∧
        after.lastError = event.errorClass) ∧
      ∃ call, calls.getLast? = some call ∧ call.outcome.leaves = true := by
  have ends := loop.ends
  cases ends with
  | last earlier event middle _ _ fallbacks records =>
      obtain ⟨call, isLast, tells⟩ := exists_last_call loop.each
      cases records with
      | next _ _ action counted lastError =>
          have allowed := tells.allowed
          rw [action] at allowed
          exact ⟨by rw [counted, fallbacks], ⟨earlier, event, rfl, action, lastError⟩, call,
            isLast, leaves_of_next allowed⟩

theorem map_snd_turn (position : Nat) (events : List RouteEvent) :
    (events.map (Prod.mk position)).map Prod.snd = events := by
  rw [List.map_map, show Prod.snd ∘ Prod.mk position = (id : RouteEvent → RouteEvent) from rfl,
    List.map_id]

/-- Nothing follows a turn in which the run stopped. -/
theorem RunRecord.stopped {turn : Turn (σ × List Write) ρ} {ending : RunEnding ρ}
    {after : Progress (σ × List Write)} {events : List RouteEvent}
    (here : turn.position = position)
    (loop : LoopRecord request turn.scored.candidate before (.stop ending after) turn.attempts
      events) :
    RunRecord request position before ⟨[turn], ending, after.store⟩
      (events.map (Prod.mk position)) where
  recorded := by
    rw [map_snd_turn]
    exact loop.journal
  each := by
    have placed := placedTells_turn loop.each
    rw [here] at placed
    simpa [RunLog.placedCalls] using placed
  numbers := by
    rw [List.map_map, List.length_map]
    exact loop.numbers
  onward := by
    intro record member
    obtain ⟨event, -, rfl⟩ := List.mem_map.mp member
    exact le_rfl
  followed := isChain_turn position loop.ends.retried
  lastRetry := by
    intro record isLast action
    cases loop.ends with
    | ceiling _ error => exact ⟨error, rfl⟩
    | last earlier event middle _ _ _ records =>
        rw [List.map_append, List.map_singleton, List.getLast?_concat] at isLast
        cases isLast
        cases records with
        | finish _ _ _ _ final =>
            rcases final with same | same <;> exact absurd (same.symm.trans action) (by decide)
        | limit _ _ next => exact absurd (next.symm.trans action) (by decide)
  finished := by
    intro result value same
    have isEnding : ending = .finished result value := same
    rw [isEnding] at loop
    obtain ⟨carried, counted, fallbacks, call, isLast, stays⟩ := loop.finished
    rw [map_snd_turn, List.length_map]
    refine ⟨carried, counted, ?_⟩
    rw [fallbacks, List.countP_singleton, givenUp_of_last isLast, stays]
    rfl
  noEligible := by
    intro error same
    have isEnding : ending = .noEligible error := same
    rw [isEnding] at loop
    obtain ⟨counted, earlier, event, isEvents, lastError⟩ := loop.limited
    rw [List.length_map, isEvents, List.map_append, List.map_singleton, List.getLast?_concat,
      ← isEvents]
    exact ⟨counted, lastError⟩

/-- A position that was given up in front. -/
theorem RunRecord.pass {turn : Turn (σ × List Write) ρ} {later : RunLog (σ × List Write) ρ}
    {after : Progress (σ × List Write)} {events : List RouteEvent}
    {records : List (Nat × RouteEvent)} (here : turn.position = position)
    (loop : LoopRecord request turn.scored.candidate before (.next after) turn.attempts events)
    (record : RunRecord request (position + 1) after later records) :
    RunRecord request position before { later with turns := turn :: later.turns }
      (events.map (Prod.mk position) ++ records) := by
  obtain ⟨fallbacks, ⟨earlier, event, isEvents, action, lastError⟩, call, isLast, leaves⟩ :=
    loop.passed
  have attempts : after.attempts = before.attempts + events.length := loop.attempts
  have placed := placedTells_turn loop.each
  rw [here] at placed
  have ownLast : (events.map (Prod.mk position)).getLast? = some (position, event) := by
    rw [isEvents, List.map_append, List.map_singleton, List.getLast?_concat]
  refine ⟨?_, ?_, ?_, ?_, ?_, ?_, ?_, ?_⟩
  · rw [record.recorded, show recordedEvents after.store.2 = _ from loop.journal, List.map_append,
      map_snd_turn, List.append_assoc]
  · exact List.rel_append placed record.each
  · rw [List.map_append, record.numbers, attempts, List.map_map, List.length_append,
      List.length_map, ← List.range'_append_1, Nat.add_right_comm]
    exact congrArg (· ++ _) loop.numbers
  · intro other member
    rcases List.mem_append.mp member with own | inLater
    · obtain ⟨event, -, rfl⟩ := List.mem_map.mp own
      exact le_rfl
    · exact (Nat.le_succ position).trans (record.onward other inLater)
  · apply (isChain_turn position loop.ends.retried).append record.followed
    intro last isOwn next isNext
    rw [ownLast] at isOwn
    cases isOwn
    exact Or.inr ⟨action, record.onward next (List.mem_of_head? isNext)⟩
  · intro other isOther retried
    rw [List.getLast?_append] at isOther
    cases laterLast : records.getLast? with
    | none =>
        rw [laterLast, ownLast] at isOther
        cases isOther
        exact absurd (action.symm.trans retried) (by decide)
    | some last =>
        rw [laterLast] at isOther
        cases isOther
        exact record.lastRetry _ laterLast retried
  · intro result value ending
    obtain ⟨carried, counted, laterFallbacks⟩ := record.finished result value ending
    refine ⟨?_, ?_, ?_⟩
    · rw [carried, show after.events = _ from loop.listed, List.map_append, map_snd_turn,
        List.append_assoc]
    · rw [counted, attempts, List.length_append, List.length_map, Nat.add_assoc]
    · rw [laterFallbacks, fallbacks, List.countP_cons_of_pos]
      · omega
      · rw [givenUp_of_last isLast, leaves]
  · intro error ending
    obtain ⟨counted, isError⟩ := record.noEligible error ending
    refine ⟨?_, ?_⟩
    · rw [counted, attempts, List.length_append, List.length_map, Nat.add_assoc]
    · rw [isError, List.getLast?_append]
      cases records.getLast? with
      | none =>
          rw [ownLast]
          exact lastError
      | some last => rfl

theorem runFrom_records {S : StateStore σ} {engine : FallbackEngine} {clock : Clock}
    {attemptFn : AttemptFn σ ρ} (scored : List ScoredCandidate) (position : Nat)
    (before : Progress (σ × List Write))
    (quiet : ∀ turn ∈ (runFrom (journaling S) engine clock request (besideJournal attemptFn)
      scored position before).turns, Quiet turn.attempts) :
    ∃ records, RunRecord request position before
      (runFrom (journaling S) engine clock request (besideJournal attemptFn) scored position
        before) records := by
  induction scored generalizing position before with
  | nil => exact ⟨[], .exhausted⟩
  | cons sc rest inductionHypothesis =>
      by_cases ready : attemptable (journaling S) (clock.check position) before.store sc = true
      · have own := attemptCandidate_records S engine clock request attemptFn sc.candidate
          (attemptBudget engine before.attempts) 0 before
        simp only [runFrom, ready, if_true] at quiet ⊢
        generalize attemptCandidate (journaling S) engine clock request (besideJournal attemptFn)
          sc.candidate (attemptBudget engine before.attempts) 0 before = attempted at own quiet ⊢
        obtain ⟨step, calls⟩ := attempted
        cases step with
        | stop ending after =>
            obtain ⟨events, loop⟩ := own (quiet _ (List.mem_singleton.mpr rfl))
            exact ⟨_, RunRecord.stopped rfl
              (show LoopRecord request (⟨position, sc, before.store, calls⟩ :
                Turn (σ × List Write) ρ).scored.candidate _ _ _ _ from loop)⟩
        | retry after =>
            obtain ⟨events, loop⟩ := own (quiet _ List.mem_cons_self)
            have ends := loop.ends
            cases ends with
            | last _ _ _ _ _ _ _ noRetry => exact absurd rfl (noRetry after)
        | next after =>
            obtain ⟨events, loop⟩ := own (quiet _ List.mem_cons_self)
            obtain ⟨records, later⟩ := inductionHypothesis (position + 1) after
              fun turn member => quiet turn (List.mem_cons_of_mem _ member)
            exact ⟨_, RunRecord.pass rfl
              (show LoopRecord request (⟨position, sc, before.store, calls⟩ :
                Turn (σ × List Write) ρ).scored.candidate _ _ _ _ from loop) later⟩
      · simp only [runFrom, ready, if_false, Bool.false_eq_true] at quiet ⊢
        obtain ⟨records, later⟩ := inductionHypothesis (position + 1) before
          fun turn member => quiet turn (List.mem_cons_of_mem _ member)
        exact ⟨records, .skip rfl later⟩

end Faithful

/-- If no store operation raises in it, a run records exactly one event for each call,
and its ending is told by the events. -/
theorem run_log_faithful {σ ρ : Type} (S : StateStore σ) (engine : FallbackEngine)
    (clock : Clock) (request : RequestInfo) (attemptFn : AttemptFn σ ρ)
    (scored : List ScoredCandidate) (start : σ)
    (quiet : ∀ turn ∈ (journaledRun S engine clock request attemptFn scored start).turns,
      Quiet turn.attempts) :
    ∃ records, FaithfulLog S engine clock request attemptFn start
      (journaledRun S engine clock request attemptFn scored start) records := by
  obtain ⟨records, record⟩ := runFrom_records scored 0 { store := (start, []) } quiet
  have counted : records.length =
      (journaledRun S engine clock request attemptFn scored start).calls.length := by
    rw [← length_placedCalls]
    exact record.each.length_eq.symm
  have isRecorded : recordedEvents (journaledRun S engine clock request attemptFn scored
      start).store.2 = records.map Prod.snd := record.recorded
  refine ⟨records, run_performed scored (start, []), isRecorded, record.each, ?_,
    record.followed, record.lastRetry, ?_, ?_⟩
  · rw [← counted]
    exact record.numbers
  · intro result value ending
    obtain ⟨events, attempts, fallbacks⟩ := record.finished result value ending
    rw [isRecorded, ← counted]
    exact ⟨events, attempts.trans (Nat.zero_add _), fallbacks.trans (Nat.zero_add _)⟩
  · intro error ending
    obtain ⟨attempts, lastError⟩ := record.noEligible error ending
    rw [← counted]
    refine ⟨attempts.trans (Nat.zero_add _), lastError.trans ?_⟩
    cases records.getLast? <;> rfl

/-- A candidate that is retried after a token limit and then succeeds. -/
theorem run_log_faithful_retry :
    ∃ records, FaithfulLog InMemoryStateStore.store {} ⟨fun _ => 0, fun _ => 0⟩ ⟨"r", "v"⟩
      (fun number _ s =>
        (if number = 1 then .failed { errorClass := .tokenLimit } else .returned (), s))
      InMemoryStateStore.empty
      (journaledRun InMemoryStateStore.store {} ⟨fun _ => 0, fun _ => 0⟩ ⟨"r", "v"⟩
        (fun number _ s =>
          (if number = 1 then .failed { errorClass := .tokenLimit } else .returned (), s))
        [⟨⟨"p", some "k", ⟨"m", "p", ∅⟩, ∅, .api, 100, false⟩, 100, true, "ok"⟩]
        InMemoryStateStore.empty) records := by
  apply run_log_faithful
  unfold Quiet
  decide

end AutoRouteGateway.Routing
