import AutoRouteGateway.Routing.ScoredOrder

/-!
Contract: how many positions a run calls, against the candidate limit of the
route.

A position is given up in two handlers. The one for candidate failures tests the
limit after it counted the position; the one for other exceptions counts too, and
goes on.

Owns: the exact condition under which a run with a limit calls no more positions
than it allows, for every store and whatever the attempts do.
-/

namespace AutoRouteGateway.Routing

open AutoRouteGateway.Domain
open AutoRouteGateway.Policy
open AutoRouteGateway.State

/-! ## Splitting a list at a count -/

/-- More than `count` elements pass exactly if the list splits at a passing one
behind just `count` of them. -/
theorem lt_countP_iff {α : Type} {passes : α → Bool} {count : Nat} {elements : List α} :
    count < elements.countP passes ↔
      ∃ earlier element later, elements = earlier ++ element :: later ∧ passes element = true ∧
        earlier.countP passes = count := by
  constructor
  · intro more
    induction elements generalizing count with
    | nil => simp at more
    | cons head tail inductionHypothesis =>
        by_cases headPasses : passes head = true
        · cases count with
          | zero => exact ⟨[], head, tail, rfl, headPasses, rfl⟩
          | succ count =>
              rw [List.countP_cons_of_pos headPasses] at more
              obtain ⟨earlier, element, later, rfl, elementPasses, counted⟩ :=
                inductionHypothesis (Nat.lt_of_succ_lt_succ more)
              refine ⟨head :: earlier, element, later, rfl, elementPasses, ?_⟩
              rw [List.countP_cons_of_pos headPasses, counted]
        · rw [List.countP_cons_of_neg headPasses] at more
          obtain ⟨earlier, element, later, rfl, elementPasses, counted⟩ :=
            inductionHypothesis more
          refine ⟨head :: earlier, element, later, rfl, elementPasses, ?_⟩
          rw [List.countP_cons_of_neg headPasses, counted]
  · rintro ⟨earlier, element, later, rfl, elementPasses, rfl⟩
    rw [List.countP_append, List.countP_cons_of_pos elementPasses]
    omega

variable {σ ρ : Type}

/-- The number of distinct positions that `attempt_fn` is called on. -/
def RunLog.calledPositions (log : RunLog σ ρ) : Nat := log.turns.countP Turn.isContacted

/-- The last call of the turn ended in the other handler: it raised another
exception, or returned and the store raised while its success was recorded. -/
def Turn.Unclassified (turn : Turn σ ρ) : Prop :=
  ∃ call, turn.attempts.getLast? = some call ∧ ∀ failure, call.outcome ≠ .failed failure

def callCount (turns : List (Turn σ ρ)) : Nat := (turns.flatMap Turn.attempts).length

/-- The candidate of the turn is usable and eligible, with attempts left under the
ceiling. -/
def Due (S : StateStore σ) (engine : FallbackEngine) (clock : Clock)
    (earlier : List (Turn σ ρ)) (turn : Turn σ ρ) : Prop :=
  attemptable S (clock.check turn.position) turn.store turn.scored = true ∧
    (callCount earlier : Int) < engine.policy.hardAttemptCeiling

section Paced

variable {S : StateStore σ} {engine : FallbackEngine} {clock : Clock} {request : RequestInfo}
  {attemptFn : AttemptFn σ ρ}

/-! ## One call -/

/-- What the bookkeeping of one call makes of the counters, from their values before
it. -/
inductive Counts (policy : RetryPolicy) (attempts fallbacks : Nat) (outcome : AttemptOutcome ρ) :
    NextStep σ ρ → Prop where
  | retry (after : Progress σ) (isAttempts : after.attempts = attempts)
      (isFallbacks : after.fallbackCount = fallbacks) :
      Counts policy attempts fallbacks outcome (.retry after)
  | next (after : Progress σ) (isAttempts : after.attempts = attempts)
      (isFallbacks : after.fallbackCount = fallbacks + 1)
      (within : ∀ failure, outcome = .failed failure →
        candidateLimitReached policy (fallbacks + 1) = false) :
      Counts policy attempts fallbacks outcome (.next after)
  | stop (ending : RunEnding ρ) (after : Progress σ) :
      Counts policy attempts fallbacks outcome (.stop ending after)

theorem Progress.record_counters {before after : Progress σ} {event : RouteEvent}
    (recorded : before.record S event = .done after) :
    after.attempts = before.attempts ∧ after.fallbackCount = before.fallbackCount := by
  simp only [Progress.record] at recorded
  split at recorded
  · cases recorded
    exact ⟨rfl, rfl⟩
  · cases recorded

/-- A record that raises leaves the counters as well. -/
theorem Progress.record_raised_counters {before after : Progress σ} {event : RouteEvent}
    {error : StoreError} (recorded : before.record S event = .raised error after) :
    after.attempts = before.attempts ∧ after.fallbackCount = before.fallbackCount := by
  simp only [Progress.record] at recorded
  split at recorded
  · cases recorded
  · cases recorded
    exact ⟨rfl, rfl⟩

theorem afterException_counts {candidate : RouteCandidate} {text : String} {before : Progress σ}
    {attempts fallbacks : Nat} {outcome : AttemptOutcome ρ}
    (isAttempts : before.attempts = attempts) (isFallbacks : before.fallbackCount = fallbacks)
    (other : ∀ failure, outcome ≠ .failed failure) :
    Counts engine.policy attempts fallbacks outcome
      (afterException S engine clock request candidate text before).2 := by
  simp only [afterException]
  split
  · exact .stop _ _
  · split
    · exact .stop _ _
    · rename_i recorded
      obtain ⟨sameAttempts, sameFallbacks⟩ := Progress.record_counters recorded
      exact .next _ (sameAttempts.trans isAttempts)
        (congrArg (· + 1) (sameFallbacks.trans isFallbacks))
        fun failure same => absurd same (other failure)

theorem afterAction_counts {action : FallbackAction} {before : Progress σ}
    {attempts fallbacks : Nat} {outcome : AttemptOutcome ρ}
    (isAttempts : before.attempts = attempts) (isFallbacks : before.fallbackCount = fallbacks) :
    Counts engine.policy attempts fallbacks outcome
      (afterAction engine request action before) := by
  subst isAttempts isFallbacks
  have givenUp : Counts engine.policy before.attempts before.fallbackCount outcome
      (if candidateLimitReached engine.policy (before.fallbackCount + 1) then
        .stop (.noEligible ⟨request.virtualModel, before.attempts, before.lastError⟩)
          { before with fallbackCount := before.fallbackCount + 1 }
      else .next { before with fallbackCount := before.fallbackCount + 1 }) := by
    cases reached : candidateLimitReached engine.policy (before.fallbackCount + 1) with
    | true => exact .stop _ _
    | false => exact .next _ rfl rfl fun _ _ => reached
  cases action with
  | retrySameCandidate => exact .retry _ rfl rfl
  | nextCandidate => exact givenUp
  | stop => exact givenUp

theorem settleCall_counts {candidate : RouteCandidate} {retries : Nat}
    {outcome : AttemptOutcome ρ} {before : Progress σ} {attempts fallbacks : Nat}
    (isAttempts : before.attempts = attempts) (isFallbacks : before.fallbackCount = fallbacks) :
    Counts engine.policy attempts fallbacks outcome
      (settleCall S engine clock request candidate retries outcome before).2 := by
  cases outcome with
  | raised text =>
      apply afterException_counts isAttempts isFallbacks
      intro failure same
      cases same
  | returned value =>
      have other : ∀ failure, AttemptOutcome.returned value ≠ .failed failure := by
        intro failure same
        cases same
      simp only [settleCall, afterReturn]
      split
      · exact afterException_counts isAttempts isFallbacks other
      · split
        · rename_i recorded
          obtain ⟨sameAttempts, sameFallbacks⟩ := Progress.record_raised_counters recorded
          exact afterException_counts (sameAttempts.trans isAttempts)
            (sameFallbacks.trans isFallbacks) other
        · exact .stop _ _
  | failed failure =>
      simp only [settleCall]
      split
      · simp only [afterCommittedFailure]
        split <;> exact .stop _ _
      · simp only [afterFailure]
        split
        · exact .stop _ _
        · split
          · exact .stop _ _
          · rename_i recorded
            obtain ⟨sameAttempts, sameFallbacks⟩ := Progress.record_counters recorded
            exact afterAction_counts (sameAttempts.trans isAttempts)
              (sameFallbacks.trans isFallbacks)

/-! ## The retry loop -/

/-- What a turn that is given up makes of the counters: its calls are attempts, and
its last one, if a failure, left the limit unreached. -/
structure GivenUp (policy : RetryPolicy) (attempts fallbacks : Nat) (after : Progress σ)
    (calls : List (AttemptLog σ ρ)) : Prop where
  isAttempts : after.attempts = attempts + calls.length
  isFallbacks : after.fallbackCount = fallbacks + 1
  last : ∃ call, calls.getLast? = some call ∧ ∀ failure, call.outcome = .failed failure →
    candidateLimitReached policy (fallbacks + 1) = false

theorem attemptCandidate_counts (S : StateStore σ) (engine : FallbackEngine) (clock : Clock)
    (request : RequestInfo) (attemptFn : AttemptFn σ ρ) (candidate : RouteCandidate)
    (budget retries : Nat) (before : Progress σ) :
    (∃ after, (attemptCandidate S engine clock request attemptFn candidate budget retries
        before).1 = .next after ∧
      GivenUp engine.policy before.attempts before.fallbackCount after
        (attemptCandidate S engine clock request attemptFn candidate budget retries before).2) ∨
    ∃ ending after, (attemptCandidate S engine clock request attemptFn candidate budget retries
      before).1 = .stop ending after := by
  induction budget generalizing retries before with
  | zero => exact Or.inr ⟨_, _, rfl⟩
  | succ budget inductionHypothesis =>
      have counts : Counts engine.policy (before.attempts + 1) before.fallbackCount
          (oneCall S engine clock request attemptFn candidate retries before).2.outcome
          (oneCall S engine clock request attemptFn candidate retries before).1 :=
        settleCall_counts rfl rfl
      simp only [attemptCandidate]
      generalize oneCall S engine clock request attemptFn candidate retries before = made
        at counts ⊢
      obtain ⟨step, log⟩ := made
      cases counts with
      | stop ending after => exact Or.inr ⟨_, _, rfl⟩
      | next after isAttempts isFallbacks within =>
          exact Or.inl ⟨after, rfl, isAttempts, isFallbacks, log, rfl, within⟩
      | retry after isAttempts isFallbacks =>
          rcases inductionHypothesis (retries + 1) after with ⟨last, moved, givenUp⟩ | stopped
          · rw [isAttempts, isFallbacks] at givenUp
            obtain ⟨call, isLast, within⟩ := givenUp.last
            refine Or.inl ⟨last, moved, ?_, givenUp.isFallbacks, call, ?_, within⟩
            · rw [givenUp.isAttempts, List.length_cons]
              omega
            · rw [List.getLast?_cons, isLast]
              rfl
          · exact Or.inr stopped

theorem attemptCandidate_ne_nil_iff (S : StateStore σ) (engine : FallbackEngine) (clock : Clock)
    (request : RequestInfo) (attemptFn : AttemptFn σ ρ) (candidate : RouteCandidate)
    (budget retries : Nat) (before : Progress σ) :
    (attemptCandidate S engine clock request attemptFn candidate budget retries before).2 ≠ [] ↔
      budget ≠ 0 := by
  cases budget with
  | zero => exact iff_of_false (fun made => made rfl) (fun left => left rfl)
  | succ budget =>
      refine iff_of_true ?_ (Nat.succ_ne_zero budget)
      simp only [attemptCandidate]
      split <;> exact List.cons_ne_nil _ _

/-! ## The outer loop -/

/-- Which turns of a list are called, and when another follows, after so many
attempts and given-up positions. -/
structure Paced (S : StateStore σ) (engine : FallbackEngine) (clock : Clock)
    (attempts fallbacks : Nat) (turns : List (Turn σ ρ)) : Prop where
  called : ∀ earlier turn later, turns = earlier ++ turn :: later →
    (turn.isContacted = true ↔
      attemptable S (clock.check turn.position) turn.store turn.scored = true ∧
        attemptBudget engine (attempts + callCount earlier) ≠ 0)
  within : ∀ earlier turn next later, turns = earlier ++ turn :: next :: later →
    turn.isContacted = true →
      turn.Unclassified ∨ candidateLimitReached engine.policy
        (fallbacks + earlier.countP Turn.isContacted + 1) = false

theorem Paced.nil {attempts fallbacks : Nat} :
    Paced (ρ := ρ) S engine clock attempts fallbacks [] where
  called := by
    intro earlier turn later split
    simp at split
  within := by
    intro earlier turn next later split
    simp at split

/-- A turn in front of what is paced from its counters on. -/
theorem Paced.cons {attempts fallbacks : Nat} {turn : Turn σ ρ} {turns : List (Turn σ ρ)}
    (called : turn.isContacted = true ↔
      attemptable S (clock.check turn.position) turn.store turn.scored = true ∧
        attemptBudget engine attempts ≠ 0)
    (within : turns ≠ [] → turn.isContacted = true →
      turn.Unclassified ∨ candidateLimitReached engine.policy (fallbacks + 1) = false)
    (rest : Paced S engine clock (attempts + turn.attempts.length)
      (fallbacks + [turn].countP Turn.isContacted) turns) :
    Paced S engine clock attempts fallbacks (turn :: turns) where
  called := by
    intro earlier other later split
    cases earlier with
    | nil =>
        cases split
        exact called
    | cons first earlier =>
        cases split
        rw [rest.called earlier other later rfl, Nat.add_assoc]
        simp [callCount]
  within := by
    intro earlier other next later split isContacted
    cases earlier with
    | nil =>
        cases split
        exact within (List.cons_ne_nil _ _) isContacted
    | cons first earlier =>
        cases split
        have later := rest.within earlier other next later rfl isContacted
        rwa [Nat.add_assoc fallbacks, ← List.countP_append] at later

theorem runFrom_paced (S : StateStore σ) (engine : FallbackEngine) (clock : Clock)
    (request : RequestInfo) (attemptFn : AttemptFn σ ρ) (scored : List ScoredCandidate)
    (position : Nat) (before : Progress σ) :
    Paced S engine clock before.attempts before.fallbackCount
      (runFrom S engine clock request attemptFn scored position before).turns := by
  induction scored generalizing position before with
  | nil => exact .nil
  | cons sc rest inductionHypothesis =>
      by_cases ready : attemptable S (clock.check position) before.store sc = true
      · have counts := attemptCandidate_counts S engine clock request attemptFn sc.candidate
          (attemptBudget engine before.attempts) 0 before
        have made := attemptCandidate_ne_nil_iff S engine clock request attemptFn sc.candidate
          (attemptBudget engine before.attempts) 0 before
        simp only [runFrom, ready, if_true]
        generalize attemptCandidate S engine clock request attemptFn sc.candidate
          (attemptBudget engine before.attempts) 0 before = attempted at counts made ⊢
        obtain ⟨step, calls⟩ := attempted
        have called : (⟨position, sc, before.store, calls⟩ : Turn σ ρ).isContacted = true ↔
            attemptable S (clock.check position) before.store sc = true ∧
              attemptBudget engine before.attempts ≠ 0 := by
          rw [Turn.isContacted_iff, and_iff_right ready]
          exact made
        rcases counts with ⟨after, isNext, givenUp⟩ | ⟨ending, after, isStop⟩
        · cases isNext
          obtain ⟨call, isLast, within⟩ := givenUp.last
          refine .cons called ?_ ?_
          · intro _ _
            by_cases failed : ∃ failure, call.outcome = .failed failure
            · obtain ⟨failure, isFailure⟩ := failed
              exact Or.inr (within failure isFailure)
            · exact Or.inl ⟨call, isLast, fun failure same => failed ⟨failure, same⟩⟩
          · have later := inductionHypothesis (position + 1) after
            have isContacted : (⟨position, sc, before.store, calls⟩ : Turn σ ρ).isContacted =
                true := by
              rw [Turn.isContacted_iff]
              intro empty
              rw [show calls = [] from empty] at isLast
              cases isLast
            rw [givenUp.isAttempts, givenUp.isFallbacks] at later
            rw [List.countP_singleton, if_pos isContacted]
            exact later
        · cases isStop
          exact .cons called (fun more => absurd rfl more) .nil
      · simp only [runFrom, ready, if_false, Bool.false_eq_true]
        refine .cons (iff_of_false ?_ fun due => ready due.1) ?_ ?_
        · intro contacted
          cases contacted
        · intro _ contacted
          cases contacted
        · exact inductionHypothesis (position + 1) before

end Paced

/-! ## The limit -/

theorem due_iff {S : StateStore σ} {engine : FallbackEngine} {clock : Clock}
    {earlier : List (Turn σ ρ)} {turn : Turn σ ρ} :
    Due S engine clock earlier turn ↔
      attemptable S (clock.check turn.position) turn.store turn.scored = true ∧
        attemptBudget engine (0 + callCount earlier) ≠ 0 := by
  rw [Due, Nat.zero_add, ne_eq, attemptBudget_eq_zero_iff, not_le]

/-- A run calls no more positions than the limit allows exactly if, when the last
position it allows is given up for another exception, no position after it is due. -/
theorem limit_respected_iff {ρ : Type} (S : StateStore σ) (engine : FallbackEngine) (clock : Clock)
    (request : RequestInfo) (attemptFn : AttemptFn σ ρ) (scored : List ScoredCandidate)
    (start : σ) {limit : Int} (limited : engine.policy.routeCandidateLimit = some limit)
    (positive : 1 ≤ limit) :
    ((run S engine clock request attemptFn scored start).calledPositions : Int) ≤ limit ↔
      ∀ earlier turn between next later,
        (run S engine clock request attemptFn scored start).turns =
          earlier ++ turn :: (between ++ next :: later) →
        turn.isContacted = true → (earlier.countP Turn.isContacted + 1 : Int) = limit →
          turn.Unclassified → ¬ Due S engine clock (earlier ++ turn :: between) next := by
  have paced : Paced S engine clock 0 0
      (run S engine clock request attemptFn scored start).turns :=
    runFrom_paced S engine clock request attemptFn scored 0 { store := start }
  unfold RunLog.calledPositions
  generalize (run S engine clock request attemptFn scored start).turns = turns at paced ⊢
  constructor
  · intro respected earlier turn between next later split isContacted isLast _ due
    have nextContacted : next.isContacted = true := by
      apply (paced.called (earlier ++ turn :: between) next later (by simpa using split)).mpr
      exact due_iff.mp due
    rw [split, List.countP_append, List.countP_cons_of_pos isContacted, List.countP_append,
      List.countP_cons_of_pos nextContacted] at respected
    omega
  · intro heeded
    by_contra exceeded
    have more : limit.toNat < turns.countP Turn.isContacted := by omega
    obtain ⟨upTo, next, later, rfl, nextContacted, counted⟩ := lt_countP_iff.mp more
    have allowed : limit.toNat - 1 < upTo.countP Turn.isContacted := by omega
    obtain ⟨earlier, turn, between, rfl, isContacted, isLast⟩ := lt_countP_iff.mp allowed
    have split : earlier ++ turn :: between ++ next :: later =
        earlier ++ turn :: (between ++ next :: later) := by simp
    apply heeded earlier turn between next later split isContacted (by omega)
    · obtain ⟨first, others, isRest⟩ := List.exists_cons_of_ne_nil
        (List.append_ne_nil_of_right_ne_nil between (List.cons_ne_nil next later))
      rw [isRest] at split
      refine (paced.within earlier turn first others split isContacted).resolve_right ?_
      rw [candidateLimitReached, limited, isLast, decide_eq_false_iff_not]
      omega
    · apply due_iff.mpr
      exact (paced.called _ next later rfl).mp nextContacted

/-! ## A limit of one -/

/-- A run over candidates of two providers with a limit of one. -/
def limitedRun (attemptFn : AttemptFn InMemoryStateStore Unit) :
    RunLog InMemoryStateStore Unit :=
  run InMemoryStateStore.store { policy := { routeCandidateLimit := some 1 } }
    ⟨fun _ => 0, fun _ => 0⟩ ⟨"r", "v"⟩ attemptFn
    [⟨⟨"p", some "k", ⟨"m", "p", ∅⟩, ∅, .api, 100, false⟩, 100, true, "ok"⟩,
      ⟨⟨"q", some "k", ⟨"m", "q", ∅⟩, ∅, .api, 100, false⟩, 100, true, "ok"⟩]
    InMemoryStateStore.empty

/-- A timeout at the first candidate ends the run. -/
theorem limit_respected_iff_failure :
    ((limitedRun fun _ _ s => (.failed { errorClass := .network }, s)).calledPositions : Int) ≤
      1 := by
  apply (limit_respected_iff _ _ _ _ _ _ _ rfl (le_refl 1)).mpr
  intro earlier turn between next later split
  have one : (limitedRun fun _ _ s => (.failed { errorClass := .network }, s)).turns.length = 1 :=
    by decide
  have more := congrArg List.length split
  simp only [List.length_append, List.length_cons] at more
  unfold limitedRun at one
  omega

/-- Any other exception at the first candidate does not. -/
theorem limit_exceeded_after_exception :
    (limitedRun fun _ _ s => (.raised "boom", s)).calledPositions = 2 := by
  decide

end AutoRouteGateway.Routing
