import AutoRouteGateway.Library.Audit
import AutoRouteGateway.Routing.RunMaps

/-!
Contract: recorded failures and the state written for them.

Owns: the writes that a failure prescribes, the rule that they and no others come
before the event of a failure that goes on to the next candidate, and the proof that
every run of the fallback engine obeys it.

Recording an event is assumed not to raise.
-/

namespace AutoRouteGateway.Routing

open AutoRouteGateway.Domain
open AutoRouteGateway.Library
open AutoRouteGateway.Policy
open AutoRouteGateway.Runtime
open AutoRouteGateway.State

/-! ## Prescribed writes -/

/-- A store that keeps nothing. -/
def forgetful : StateStore Unit where
  getHealth := fun _ _ => .unknown
  setHealth := fun _ _ _ _ s => .done s
  getQuota := fun _ _ => .unknown
  setQuota := fun _ _ _ _ s => .done s
  getCredential := fun _ _ => .enabled
  setCredential := fun _ _ _ s => .done s
  getCooldown := fun _ _ => none
  recordRouteEvent := fun _ s => .done s

/-- The writes of `_apply_failure`, one or none. -/
def prescribedWrites (engine : FallbackEngine) (now : Instant) (candidate : RouteCandidate)
    (failure : CandidateFailure) : List Write :=
  (applyFailure (journaling forgetful) engine now candidate failure ((), [])).state.2

section Prescribed

variable {σ : Type} {S : StateStore σ} {engine : FallbackEngine} {now : Instant}
  {candidate : RouteCandidate} {failure : CandidateFailure}

theorem journal_of_applyFailure_done {s s' : σ × List Write}
    (done : applyFailure (journaling S) engine now candidate failure s = .done s') :
    s'.2 = s.2 ++ prescribedWrites engine now candidate failure := by
  unfold applyFailure at done
  unfold prescribedWrites applyFailure
  cases isClass : failure.errorClass <;> simp only [isClass] at done ⊢
  case tokenLimit | unknown =>
    cases done
    exact (List.append_nil _).symm
  all_goals exact StoreResult.journal_of_enter_done done

theorem journal_of_applyFailure_raised {error : StoreError} {s s' : σ × List Write}
    (raised : applyFailure (journaling S) engine now candidate failure s = .raised error s') :
    s'.2 = s.2 := by
  unfold applyFailure at raised
  cases isClass : failure.errorClass <;> simp only [isClass] at raised
  case tokenLimit | unknown => cases raised
  all_goals exact StoreResult.journal_of_enter_raised raised

theorem event?_of_mem_prescribedWrites {write : Write}
    (member : write ∈ prescribedWrites engine now candidate failure) : write.event? = none := by
  unfold prescribedWrites applyFailure at member
  cases isClass : failure.errorClass <;> simp only [isClass] at member
  case tokenLimit | unknown => cases member
  all_goals
    cases List.mem_singleton.mp member
    rfl

theorem prescribedWrites_eq_nil_iff :
    prescribedWrites engine now candidate failure = [] ↔
      failure.errorClass = .tokenLimit ∨ failure.errorClass = .unknown := by
  unfold prescribedWrites applyFailure
  cases failure.errorClass <;> simp [journaling, forgetful, StoreResult.enter]

/-- The candidate counts through its three ids only. -/
theorem prescribedWrites_congr {other : RouteCandidate}
    (provider : candidate.providerId = other.providerId)
    (credential : candidate.credentialId = other.credentialId)
    (model : candidate.concreteModel.modelId = other.concreteModel.modelId) :
    prescribedWrites engine now candidate failure =
      prescribedWrites engine now other failure := by
  simp only [prescribedWrites, applyFailure, subject, providerSubject, providerModelSubject,
    credentialSubject, provider, credential, model]

end Prescribed

/-! ## The rule -/

def isEvent (write : Write) : Bool := write.event?.isSome

/-- An event of a candidate with an error class that goes on to the next candidate comes
right after the writes which a failure of that class prescribes for the candidate,
and after no other state write since the event before it. -/
def FailureRule (engine : FallbackEngine) (clock : Clock) (earlier : List Write)
    (entry : Write) : Prop :=
  ∀ request candidate attempt errorClass,
    entry = .event (routeEvent request candidate attempt (some errorClass) .nextCandidate) →
      ∃ failure : CandidateFailure, failure.errorClass = errorClass ∧
        openPart isEvent earlier =
          prescribedWrites engine (clock.settle attempt) candidate failure

/-- Every recorded failure of a journal is accompanied by its writes. -/
def Accompanied (engine : FallbackEngine) (clock : Clock) (journal : List Write) : Prop :=
  Audited (FailureRule engine clock) journal

/-- What is added to a journal is accompanied exactly under the condition. -/
abbrev Adds (engine : FallbackEngine) (clock : Clock) (condition : Prop)
    (before after : List Write) : Prop :=
  Extends (FailureRule engine clock) isEvent condition before after

section Rule

variable {engine : FallbackEngine} {clock : Clock}

theorem failureRule_of_state {earlier : List Write} {entry : Write}
    (isState : entry.event? = none) : FailureRule engine clock earlier entry := by
  rintro request candidate attempt errorClass rfl
  cases isState

theorem failureRule_of_action {earlier : List Write} {event : RouteEvent}
    (ends : event.action ≠ .nextCandidate) :
    FailureRule engine clock earlier (.event event) := by
  intro request candidate attempt errorClass same
  cases same
  exact absurd rfl ends

/-- The rule for a recorded failure of a candidate. -/
theorem failureRule_iff {earlier : List Write} (request : RequestInfo)
    (candidate : RouteCandidate) (attempt : Nat) (errorClass : ErrorClass) :
    FailureRule engine clock earlier
        (.event (routeEvent request candidate attempt (some errorClass) .nextCandidate)) ↔
      ∃ failure : CandidateFailure, failure.errorClass = errorClass ∧
        openPart isEvent earlier =
          prescribedWrites engine (clock.settle attempt) candidate failure := by
  constructor
  · intro rule
    exact rule request candidate attempt errorClass rfl
  · rintro ⟨failure, isClass, written⟩ request' candidate' attempt' errorClass' same
    simp only [routeEvent, Write.event.injEq, RouteEvent.mk.injEq, Option.some.injEq] at same
    obtain ⟨-, -, rfl, provider, credential, model, rfl, -⟩ := same
    exact ⟨failure, isClass, written.trans (prescribedWrites_congr provider credential model)⟩

/-- A failure, its writes and its event. -/
theorem adds_failure (journal : List Write) (request : RequestInfo) (candidate : RouteCandidate)
    (attempt : Nat) (failure : CandidateFailure) (action : EventAction) :
    Adds engine clock True journal
      (journal ++ prescribedWrites engine (clock.settle attempt) candidate failure ++
        [.event (routeEvent request candidate attempt (some failure.errorClass) action)]) := by
  apply Extends.block
  · intro write member earlier
    exact failureRule_of_state (event?_of_mem_prescribedWrites member)
  · intro write member
    simp [isEvent, event?_of_mem_prescribedWrites member]
  · rfl
  · intro trail written
    rw [iff_true]
    by_cases goesOn : action = .nextCandidate
    · subst goesOn
      exact (failureRule_iff request candidate attempt _).mpr ⟨failure, rfl, written⟩
    · exact failureRule_of_action goesOn

/-- An event that does not go on to the next candidate, after state writes. -/
theorem adds_event (journal : List Write) {body : List Write}
    (states : ∀ write ∈ body, write.event? = none) {event : RouteEvent}
    (ends : event.action ≠ .nextCandidate) :
    Adds engine clock True journal (journal ++ body ++ [.event event]) := by
  apply Extends.block
  · intro write member earlier
    exact failureRule_of_state (states write member)
  · intro write member
    simp [isEvent, states write member]
  · rfl
  · intro trail written
    exact iff_true_intro (failureRule_of_action ends)

theorem adds_lone_event (journal : List Write) {event : RouteEvent}
    (ends : event.action ≠ .nextCandidate) :
    Adds engine clock True journal (journal ++ [.event event]) := by
  have block : Adds engine clock True journal (journal ++ [] ++ [.event event]) :=
    adds_event journal (List.forall_mem_nil _) ends
  rwa [List.append_nil] at block

/-- A recorded failure without a write is accompanied where none is prescribed. -/
theorem adds_bare (journal : List Write) (request : RequestInfo) (candidate : RouteCandidate)
    (attempt : Nat) (errorClass : ErrorClass) :
    Adds engine clock (errorClass = .tokenLimit ∨ errorClass = .unknown) journal
      (journal ++
        [.event (routeEvent request candidate attempt (some errorClass) .nextCandidate)]) := by
  have block : Adds engine clock (errorClass = .tokenLimit ∨ errorClass = .unknown) journal
      (journal ++ [] ++
        [.event (routeEvent request candidate attempt (some errorClass) .nextCandidate)]) := by
    apply Extends.block
    · exact List.forall_mem_nil _
    · exact List.forall_mem_nil _
    · rfl
    · intro trail unwritten
      rw [failureRule_iff, unwritten]
      constructor
      · rintro ⟨failure, rfl, nothing⟩
        exact prescribedWrites_eq_nil_iff.mp nothing.symm
      · intro silent
        exact ⟨{ errorClass := errorClass }, rfl, (prescribedWrites_eq_nil_iff.mpr silent).symm⟩
  rwa [List.append_nil] at block

end Rule

/-! ## The engine -/

section Engine

variable {σ ρ : Type} {S : StateStore σ}
  (quiet : ∀ event s, ∃ s', S.recordRouteEvent event s = .done s') (engine : FallbackEngine)
  (clock : Clock) (request : RequestInfo)

include quiet

theorem record_journal (event : RouteEvent) (s : σ × List Write) :
    ∃ s', (journaling S).recordRouteEvent event s = .done s' ∧ s'.2 = s.2 ++ [.event event] := by
  obtain ⟨own, recorded⟩ := quiet event s.1
  rw [journaling_record, recorded]
  exact ⟨_, rfl, rfl⟩

theorem progress_record_journal (progress : Progress (σ × List Write)) (event : RouteEvent) :
    ∃ after, progress.record (journaling S) event = .done after ∧
      after.store.2 = progress.store.2 ++ [.event event] := by
  obtain ⟨s', recorded, journal⟩ := record_journal quiet event progress.store
  simp only [Progress.record, recorded]
  exact ⟨_, rfl, journal⟩

theorem afterException_adds (candidate : RouteCandidate) (text : String)
    (before : Progress (σ × List Write)) :
    Adds engine clock True before.store.2 (afterException (ρ := ρ) (journaling S) engine clock
      request candidate text before).2.progress.store.2 := by
  unfold afterException
  dsimp only
  cases applied : applyFailure (journaling S) engine (clock.settle before.attempts) candidate
      { errorClass := .server, message := truncate 200 text } before.store with
  | raised error s =>
      change Adds engine clock True before.store.2 s.2
      rw [journal_of_applyFailure_raised applied]
      exact .refl _
  | done s =>
      obtain ⟨after, recorded, journal⟩ := progress_record_journal quiet { before with store := s }
        (routeEvent request candidate before.attempts (some .server) .nextCandidate)
      dsimp only
      rw [recorded]
      change Adds engine clock True before.store.2 after.store.2
      rw [journal, journal_of_applyFailure_done applied]
      exact adds_failure before.store.2 request candidate before.attempts _ _

theorem afterReturn_adds (candidate : RouteCandidate) (value : ρ)
    (before : Progress (σ × List Write)) :
    Adds engine clock True before.store.2 (afterReturn (journaling S) engine clock
      request candidate value before).2.progress.store.2 := by
  unfold afterReturn
  cases applied : applySuccess (journaling S) candidate before.store with
  | raised error s =>
      have excepted := afterException_adds (ρ := ρ) quiet engine clock request candidate
        error.message { before with store := s }
      have unwritten : s.2 = before.store.2 := StoreResult.journal_of_enter_raised applied
      change Adds engine clock True s.2 _ at excepted
      rw [unwritten] at excepted
      exact excepted
  | done s =>
      obtain ⟨after, recorded, journal⟩ := progress_record_journal quiet { before with store := s }
        (routeEvent request candidate before.attempts none .success)
      have written := StoreResult.journal_of_enter_done applied
      dsimp only
      rw [recorded]
      change Adds engine clock True before.store.2 after.store.2
      rw [journal]
      change Adds engine clock True before.store.2 (s.2 ++ _)
      rw [written]
      apply adds_event
      · intro write member
        cases List.mem_singleton.mp member
        rfl
      · rintro ⟨⟩

omit quiet in
theorem afterAction_store (action : FallbackAction) (progress : Progress σ) :
    (afterAction (ρ := ρ) engine request action progress).progress.store = progress.store := by
  unfold afterAction
  cases action with
  | retrySameCandidate => rfl
  | _ =>
      dsimp only
      split <;> rfl

theorem afterFailure_adds (candidate : RouteCandidate) (failure : CandidateFailure)
    (retries : Nat) (before : Progress (σ × List Write)) :
    Adds engine clock True before.store.2 (afterFailure (ρ := ρ) (journaling S) engine clock
      request candidate failure retries before).2.progress.store.2 := by
  unfold afterFailure
  cases applied : applyFailure (journaling S) engine (clock.settle before.attempts) candidate
      failure before.store with
  | raised error s =>
      change Adds engine clock True before.store.2 s.2
      rw [journal_of_applyFailure_raised applied]
      exact .refl _
  | done s =>
      obtain ⟨after, recorded, journal⟩ := progress_record_journal quiet { before with store := s }
        (routeEvent request candidate before.attempts (some failure.errorClass)
          (actionOf (nextAction failure.errorClass retries engine.policy)))
      dsimp only
      rw [recorded]
      dsimp only
      rw [afterAction_store]
      change Adds engine clock True before.store.2 after.store.2
      rw [journal, journal_of_applyFailure_done applied]
      exact adds_failure before.store.2 request candidate before.attempts _ _

theorem afterCommittedFailure_adds (candidate : RouteCandidate) (failure : CandidateFailure)
    (before : Progress (σ × List Write)) :
    Adds engine clock True before.store.2 (afterCommittedFailure (ρ := ρ) (journaling S)
      request candidate failure before).2.progress.store.2 := by
  obtain ⟨after, recorded, journal⟩ := progress_record_journal quiet before
    (routeEvent request candidate before.attempts (some failure.errorClass) .stopCommittedStream)
  unfold afterCommittedFailure
  rw [recorded]
  change Adds engine clock True before.store.2 after.store.2
  rw [journal]
  apply adds_lone_event
  rintro ⟨⟩

/-- The bookkeeping of one call writes what its event prescribes. -/
theorem settleCall_adds (candidate : RouteCandidate) (retries : Nat) (outcome : AttemptOutcome ρ)
    (before : Progress (σ × List Write)) :
    Adds engine clock True before.store.2 (settleCall (journaling S) engine clock request candidate
      retries outcome before).2.progress.store.2 := by
  cases outcome with
  | returned value => exact afterReturn_adds quiet engine clock request candidate value before
  | raised text => exact afterException_adds quiet engine clock request candidate text before
  | failed failure =>
      unfold settleCall
      dsimp only
      split
      · exact afterCommittedFailure_adds quiet engine clock request candidate failure before
      · exact afterFailure_adds quiet engine clock request candidate failure retries before

variable (attemptFn : AttemptFn σ ρ)

theorem oneCall_adds (candidate : RouteCandidate) (retries : Nat)
    (before : Progress (σ × List Write)) :
    Adds engine clock True before.store.2 (oneCall (journaling S) engine clock request
      (besideJournal attemptFn) candidate retries before).1.progress.store.2 :=
  settleCall_adds quiet engine clock request candidate retries _
    { before with
      store := (besideJournal attemptFn (before.attempts + 1) candidate before.store).2
      attempts := before.attempts + 1 }

theorem attemptCandidate_adds (candidate : RouteCandidate) (budget retries : Nat)
    (before : Progress (σ × List Write)) :
    Adds engine clock True before.store.2 (attemptCandidate (journaling S) engine clock request
      (besideJournal attemptFn) candidate budget retries before).1.progress.store.2 := by
  induction budget generalizing retries before with
  | zero => exact .refl _
  | succ budget inductionHypothesis =>
      have one := oneCall_adds quiet engine clock request attemptFn candidate retries before
      simp only [attemptCandidate]
      cases step : (oneCall (journaling S) engine clock request (besideJournal attemptFn) candidate
          retries before).1 with
      | retry after =>
          rw [step] at one
          exact (one.trans (inductionHypothesis (retries + 1) after)).of_iff (and_self_iff)
      | next after =>
          rw [step] at one
          exact one
      | stop ending after =>
          rw [step] at one
          exact one

theorem runFrom_adds (scored : List ScoredCandidate) (position : Nat)
    (before : Progress (σ × List Write)) :
    Adds engine clock True before.store.2 (runFrom (journaling S) engine clock request
      (besideJournal attemptFn) scored position before).store.2 := by
  induction scored generalizing position before with
  | nil => exact .refl _
  | cons sc rest inductionHypothesis =>
      have one := attemptCandidate_adds quiet engine clock request attemptFn sc.candidate
        (attemptBudget engine before.attempts) 0 before
      simp only [runFrom]
      split
      · cases step : (attemptCandidate (journaling S) engine clock request
            (besideJournal attemptFn) sc.candidate (attemptBudget engine before.attempts) 0
            before).1 with
        | stop ending after =>
            rw [step] at one
            exact one
        | retry after | next after =>
            rw [step] at one
            exact (one.trans (inductionHypothesis (position + 1) after)).of_iff and_self_iff
      · exact inductionHypothesis (position + 1) before

/-- Every failure that a run records is accompanied. -/
theorem journaledRun_accompanied (scored : List ScoredCandidate) (start : σ) :
    Accompanied engine clock
      (journaledRun S engine clock request attemptFn scored start).store.2 := by
  have run := runFrom_adds quiet engine clock request attemptFn scored 0 { store := (start, []) }
  exact (run.audited rfl).mpr ⟨audited_nil, trivial⟩

end Engine

end AutoRouteGateway.Routing
