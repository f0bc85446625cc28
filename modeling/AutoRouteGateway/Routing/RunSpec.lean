import AutoRouteGateway.Routing.Run
import AutoRouteGateway.State.InMemory

/-!
Contract: what a run of the fallback engine does, whatever its attempts do.

Owns: the specification of a run as a structure over its log, and its proof
for runs in which no store operation raises and the route has no candidate
limit.

The proof has three layers: the bookkeeping after one call, the retry loop by
induction on the budget, and the outer loop by induction on the scored list.
-/

namespace AutoRouteGateway.Routing

open AutoRouteGateway.Domain
open AutoRouteGateway.Policy
open AutoRouteGateway.State

/-- A failure that the same candidate may be attempted again after. -/
def AttemptOutcome.Retriable {ρ : Type} : AttemptOutcome ρ → Prop
  | .failed failure => failure.committed = false ∧ failure.errorClass = .tokenLimit
  | _ => False

/-- A success or a committed failure. -/
def AttemptOutcome.Final {ρ : Type} : AttemptOutcome ρ → Prop
  | .returned _ => True
  | .failed failure => failure.committed = true
  | .raised _ => False

theorem AttemptOutcome.Retriable.not_final {ρ : Type} {outcome : AttemptOutcome ρ}
    (retriable : outcome.Retriable) : ¬ outcome.Final := by
  cases outcome with
  | returned value => cases retriable
  | failed failure =>
      intro final
      have open' := retriable.1
      rw [show failure.committed = true from final] at open'
      cases open'
  | raised text => cases retriable

/-- The calls of a run, in order. -/
def RunLog.calls {σ ρ : Type} (log : RunLog σ ρ) : List (AttemptLog σ ρ) :=
  log.turns.flatMap Turn.attempts

/-- What the turns of the outer loop are from `position` on, after `attempts`
calls were made. A whole run starts at zero for both. -/
structure TurnsSpec {σ ρ : Type} (S : StateStore σ) (policy : RetryPolicy) (clock : Clock)
    (position attempts : Nat) (scored : List ScoredCandidate) (log : RunLog σ ρ) : Prop where
  /-- Positions are visited in order and never revisited. -/
  positions : log.turns.map Turn.position = List.range' position log.turns.length
  visited : log.turns.map Turn.scored <+: scored
  /-- Calls are numbered consecutively and stay within the ceiling. -/
  numbers : log.calls.map AttemptLog.number = List.range' (attempts + 1) log.calls.length
  ceiling : attempts + log.calls.length ≤ max attempts policy.hardAttemptCeiling.toNat
  /-- Only a usable and eligible position is attempted. -/
  attempted : ∀ turn ∈ log.turns, turn.attempts ≠ [] →
    attemptable S (clock.check turn.position) turn.store turn.scored = true
  /-- Such a position is attempted, unless the ceiling error is raised at its turn. -/
  due : ∀ turn ∈ log.turns,
    attemptable S (clock.check turn.position) turn.store turn.scored = true →
      turn.attempts ≠ [] ∨
        log.turns.getLast? = some turn ∧ ∃ error, log.ending = .hardCeiling error
  /-- A position is attempted again only directly after a token limit, and only so often. -/
  repeated : ∀ turn ∈ log.turns, ∀ call ∈ turn.attempts.dropLast, call.outcome.Retriable
  repeats : ∀ turn ∈ log.turns,
    turn.attempts.length ≤ 1 + policy.perCandidateRetryLimit.toNat
  /-- Nothing is attempted after a success or a committed failure. -/
  final : ∀ call ∈ log.calls.dropLast, ¬ call.outcome.Final
  /-- The run returns exactly on its last call being one. -/
  finished : (∃ result value, log.ending = .finished result value) ↔
    ∃ call, log.calls.getLast? = some call ∧ call.outcome.Final
  /-- It gives up only after every position was skipped or failed. -/
  noEligible : ∀ error, log.ending = .noEligible error →
    log.turns.length = scored.length ∧
      ∀ turn ∈ log.turns,
        attemptable S (clock.check turn.position) turn.store turn.scored = false ∨
          turn.attempts ≠ [] ∧ ∀ call ∈ turn.attempts, ¬ call.outcome.Final
  /-- It raises the ceiling error only when all attempts were made and one more was due. -/
  hardCeiling : ∀ error, log.ending = .hardCeiling error →
    attempts + log.calls.length = max attempts policy.hardAttemptCeiling.toNat ∧
      ∃ turn, log.turns.getLast? = some turn ∧
        attemptable S (clock.check turn.position) turn.store turn.scored = true ∧
          (∀ call ∈ turn.attempts, call.outcome.Retriable) ∧
            turn.attempts.length ≤ policy.perCandidateRetryLimit.toNat
  storeError : ∀ error, log.ending ≠ .storeError error

/-- The specification of a run: its turns are as they should be, and the calls
and stores they tell of are those of `attempt_fn` from `start` on. -/
structure RunSpec {σ ρ : Type} (S : StateStore σ) (engine : FallbackEngine) (clock : Clock)
    (request : RequestInfo) (attemptFn : AttemptFn σ ρ) (scored : List ScoredCandidate)
    (start : σ) (log : RunLog σ ρ) : Prop
    extends TurnsSpec S engine.policy clock 0 0 scored log where
  performed : Performed S engine clock request attemptFn start log

section Proof

variable {σ ρ : Type} {S : StateStore σ} {engine : FallbackEngine} {clock : Clock}
  {request : RequestInfo} {attemptFn : AttemptFn σ ρ}

/-! ## One call -/

theorem Progress.record_attempts {progress progress' : Progress σ} {event : RouteEvent}
    (recorded : progress.record S event = .done progress') :
    progress'.attempts = progress.attempts := by
  simp only [Progress.record] at recorded
  split at recorded
  · cases recorded
    rfl
  · cases recorded

/-- What the bookkeeping of one call can lead to when no store operation raises
and the route has no candidate limit. -/
inductive Settles (limit : Int) (retries attempts : Nat) (outcome : AttemptOutcome ρ) :
    NextStep σ ρ → Prop where
  | finish (result : FallbackResult) (value : Option ρ) (progress : Progress σ)
      (final : outcome.Final) (kept : progress.attempts = attempts) :
      Settles limit retries attempts outcome (.stop (.finished result value) progress)
  | retry (progress : Progress σ) (retriable : outcome.Retriable)
      (below : (retries : Int) < limit) (kept : progress.attempts = attempts) :
      Settles limit retries attempts outcome (.retry progress)
  | next (progress : Progress σ) (failed : ¬ outcome.Final)
      (kept : progress.attempts = attempts) :
      Settles limit retries attempts outcome (.next progress)

theorem afterException_settles {candidate : RouteCandidate} {text : String}
    {progress : Progress σ} {limit : Int} {retries : Nat} {outcome : AttemptOutcome ρ}
    (failed : ¬ outcome.Final)
    (quiet : (afterException (ρ := ρ) S engine clock request candidate text progress).1 = none) :
    Settles limit retries progress.attempts outcome
      (afterException S engine clock request candidate text progress).2 := by
  simp only [afterException] at quiet ⊢
  split at quiet
  · cases quiet
  · rename_i s _
    split at quiet
    · cases quiet
    · rename_i progress' recorded
      have kept := Progress.record_attempts recorded
      exact .next _ failed kept

theorem settleCall_settles (clock : Clock) (request : RequestInfo)
    (unlimited : engine.policy.routeCandidateLimit = none) (candidate : RouteCandidate)
    (retries : Nat) (outcome : AttemptOutcome ρ) (progress : Progress σ)
    (quiet : (settleCall S engine clock request candidate retries outcome progress).1 = none) :
    Settles engine.policy.perCandidateRetryLimit retries progress.attempts outcome
      (settleCall S engine clock request candidate retries outcome progress).2 := by
  cases outcome with
  | raised text => exact afterException_settles id quiet
  | returned value =>
      simp only [settleCall, afterReturn] at quiet ⊢
      split at quiet
      · cases quiet
      · rename_i s _
        split at quiet
        · cases quiet
        · rename_i progress' recorded
          have kept := Progress.record_attempts recorded
          exact .finish _ _ _ trivial kept
  | failed failure =>
      simp only [settleCall] at quiet ⊢
      by_cases committed : failure.committed = true
      · simp only [committed, if_true, afterCommittedFailure] at quiet ⊢
        split at quiet
        · cases quiet
        · rename_i progress' recorded
          exact .finish _ _ _ committed (Progress.record_attempts recorded)
      · simp only [committed, if_false, afterFailure, Bool.false_eq_true] at quiet ⊢
        split at quiet
        · cases quiet
        · rename_i s _
          split at quiet
          · cases quiet
          · rename_i progress' recorded
            have kept := Progress.record_attempts recorded
            have uncommitted : failure.committed = false := by simpa using committed
            cases action : nextAction failure.errorClass retries engine.policy with
            | retrySameCandidate =>
                obtain ⟨tokenLimit, below⟩ := nextAction_eq_retry_iff.mp action
                exact .retry _ ⟨uncommitted, tokenLimit⟩ below kept
            | nextCandidate =>
                simp only [afterAction, candidateLimitReached, unlimited, Bool.false_eq_true,
                  if_false]
                exact .next _ committed kept
            | stop =>
                simp only [afterAction, candidateLimitReached, unlimited, Bool.false_eq_true,
                  if_false]
                exact .next _ committed kept

theorem oneCall_settles (S : StateStore σ) (clock : Clock) (request : RequestInfo)
    (attemptFn : AttemptFn σ ρ) (unlimited : engine.policy.routeCandidateLimit = none)
    (candidate : RouteCandidate) (retries : Nat) (progress : Progress σ)
    (quiet : (oneCall S engine clock request attemptFn candidate retries
      progress).2.storeError = none) :
    Settles engine.policy.perCandidateRetryLimit retries (progress.attempts + 1)
      (oneCall S engine clock request attemptFn candidate retries progress).2.outcome
      (oneCall S engine clock request attemptFn candidate retries progress).1 :=
  settleCall_settles clock request unlimited candidate retries _ _ quiet

/-! ## The retry loop -/

/-- What the retry loop on one candidate does from a budget, with `retries`
already used. -/
structure LoopSpec (policy : RetryPolicy) (budget retries attempts : Nat)
    (step : NextStep σ ρ) (calls : List (AttemptLog σ ρ)) : Prop where
  numbers : calls.map AttemptLog.number = List.range' (attempts + 1) calls.length
  counted : step.progress.attempts = attempts + calls.length
  bounded : calls.length ≤ budget
  repeated : ∀ call ∈ calls.dropLast, call.outcome.Retriable
  repeats : calls.length ≤ 1 + (policy.perCandidateRetryLimit.toNat - retries)
  noRetry : ∀ progress, step ≠ .retry progress
  next : ∀ progress, step = .next progress →
    calls ≠ [] ∧ ∀ call ∈ calls, ¬ call.outcome.Final
  stop : ∀ ending progress, step = .stop ending progress →
    ((∃ result value, ending = .finished result value) ∧
        ∃ call, calls.getLast? = some call ∧ call.outcome.Final) ∨
      ((∃ error, ending = .hardCeiling error) ∧ calls.length = budget ∧
        (∀ call ∈ calls, call.outcome.Retriable) ∧
          (calls ≠ [] → retries + calls.length ≤ policy.perCandidateRetryLimit.toNat))

/-- The logged calls raised no store error. -/
def Quiet (calls : List (AttemptLog σ ρ)) : Prop := ∀ call ∈ calls, call.storeError = none

/-- A call that ends the run is the last one. -/
theorem LoopSpec.finish {policy : RetryPolicy} {budget retries attempts : Nat}
    {log : AttemptLog σ ρ} {result : FallbackResult} {value : Option ρ} {progress : Progress σ}
    (number : log.number = attempts + 1) (final : log.outcome.Final)
    (counted : progress.attempts = attempts + 1) :
    LoopSpec policy (budget + 1) retries attempts (.stop (.finished result value) progress)
      [log] where
  numbers := by simp [number]
  counted := by rw [List.length_singleton]; exact counted
  bounded := by simp
  repeated := List.forall_mem_nil _
  repeats := by simp
  noRetry := by
    intro progress' retried
    cases retried
  next := by
    intro progress' moved
    cases moved
  stop := by
    intro ending progress' stopped
    cases stopped
    exact Or.inl ⟨⟨result, value, rfl⟩, log, rfl, final⟩

/-- A failed call that is not repeated hands over to the next candidate. -/
theorem LoopSpec.giveUp {policy : RetryPolicy} {budget retries attempts : Nat}
    {log : AttemptLog σ ρ} {progress : Progress σ} (number : log.number = attempts + 1)
    (failed : ¬ log.outcome.Final) (counted : progress.attempts = attempts + 1) :
    LoopSpec policy (budget + 1) retries attempts (.next progress) [log] where
  numbers := by simp [number]
  counted := by rw [List.length_singleton]; exact counted
  bounded := by simp
  repeated := List.forall_mem_nil _
  repeats := by simp
  noRetry := by
    intro progress' retried
    cases retried
  next := by
    intro progress' _
    refine ⟨by simp, ?_⟩
    intro call member
    rw [List.mem_singleton.mp member]
    exact failed
  stop := by
    intro ending progress' stopped
    cases stopped

/-- A retried call in front of what the loop does with one retry more. -/
theorem LoopSpec.again {policy : RetryPolicy} {budget retries attempts : Nat}
    {log : AttemptLog σ ρ} {step : NextStep σ ρ} {calls : List (AttemptLog σ ρ)}
    (number : log.number = attempts + 1) (retriable : log.outcome.Retriable)
    (below : (retries : Int) < policy.perCandidateRetryLimit)
    (rest : LoopSpec policy budget (retries + 1) (attempts + 1) step calls) :
    LoopSpec policy (budget + 1) retries attempts step (log :: calls) where
  numbers := by
    rw [List.map_cons, rest.numbers, number, List.length_cons, List.range'_succ]
  counted := by
    rw [rest.counted, List.length_cons]
    omega
  bounded := by
    have bounded := rest.bounded
    rw [List.length_cons]
    omega
  repeated := by
    intro call member
    cases calls with
    | nil => cases member
    | cons head tail =>
        rw [List.dropLast_cons_of_ne_nil (by simp)] at member
        rcases List.mem_cons.mp member with same | later
        · exact same ▸ retriable
        · exact rest.repeated call later
  repeats := by
    have repeats := rest.repeats
    rw [List.length_cons]
    omega
  noRetry := rest.noRetry
  next := by
    intro progress moved
    obtain ⟨-, failed⟩ := rest.next progress moved
    refine ⟨by simp, ?_⟩
    intro call member
    rcases List.mem_cons.mp member with same | later
    · exact same ▸ retriable.not_final
    · exact failed call later
  stop := by
    intro ending progress stopped
    rcases rest.stop ending progress stopped with
      ⟨finished, call, isLast, final⟩ | ⟨raised, used, retriables, within⟩
    · exact Or.inl ⟨finished, call, by rw [List.getLast?_cons, isLast]; rfl, final⟩
    · refine Or.inr ⟨raised, by rw [List.length_cons, used], ?_, ?_⟩
      · intro call member
        rcases List.mem_cons.mp member with same | later
        · exact same ▸ retriable
        · exact retriables call later
      · intro _
        rw [List.length_cons]
        by_cases empty : calls = []
        · rw [empty, List.length_nil]
          omega
        · have bound := within empty
          omega

theorem attemptCandidate_spec (clock : Clock) (request : RequestInfo)
    (attemptFn : AttemptFn σ ρ) (candidate : RouteCandidate)
    (unlimited : engine.policy.routeCandidateLimit = none) (budget retries : Nat)
    (progress : Progress σ)
    (quiet : Quiet (attemptCandidate S engine clock request attemptFn candidate budget retries
      progress).2) :
    LoopSpec engine.policy budget retries progress.attempts
      (attemptCandidate S engine clock request attemptFn candidate budget retries progress).1
      (attemptCandidate S engine clock request attemptFn candidate budget retries progress).2 := by
  induction budget generalizing retries progress with
  | zero =>
      exact
        { numbers := rfl
          counted := rfl
          bounded := le_rfl
          repeated := List.forall_mem_nil _
          repeats := Nat.zero_le _
          noRetry := by
            intro progress' retried
            cases retried
          next := by
            intro progress' moved
            cases moved
          stop := by
            intro ending progress' stopped
            cases stopped
            exact Or.inr ⟨⟨_, rfl⟩, rfl, List.forall_mem_nil _,
              fun nonempty => absurd rfl nonempty⟩ }
  | succ budget inductionHypothesis =>
      have number : (oneCall S engine clock request attemptFn candidate retries
          progress).2.number = progress.attempts + 1 := rfl
      have settles := oneCall_settles S clock request attemptFn unlimited candidate retries progress
      simp only [attemptCandidate] at quiet ⊢
      generalize oneCall S engine clock request attemptFn candidate retries progress = made
        at number settles quiet ⊢
      obtain ⟨step, log⟩ := made
      cases step with
      | retry progress' =>
          cases settles (quiet log List.mem_cons_self) with
          | retry _ retriable below kept =>
              have later := inductionHypothesis (retries + 1) progress'
                fun call member => quiet call (List.mem_cons_of_mem _ member)
              rw [show progress'.attempts = progress.attempts + 1 from kept] at later
              exact LoopSpec.again number retriable below later
      | next progress' =>
          cases settles (quiet log List.mem_cons_self) with
          | next _ failed kept => exact LoopSpec.giveUp number failed kept
      | stop ending progress' =>
          cases settles (quiet log List.mem_cons_self) with
          | finish result value _ final kept => exact LoopSpec.finish number final kept

/-! ## The outer loop -/

@[simp] theorem RunLog.calls_cons (turn : Turn σ ρ) (log : RunLog σ ρ) :
    ({ log with turns := turn :: log.turns } : RunLog σ ρ).calls =
      turn.attempts ++ log.calls := rfl

/-- A turn after which the loop goes on: skipped, or attempted and failed. -/
structure Passed (S : StateStore σ) (policy : RetryPolicy) (clock : Clock)
    (position attempts : Nat) (turn : Turn σ ρ) : Prop where
  position : turn.position = position
  numbers : turn.attempts.map AttemptLog.number = List.range' (attempts + 1) turn.attempts.length
  ceiling : attempts + turn.attempts.length ≤ max attempts policy.hardAttemptCeiling.toNat
  exact : attemptable S (clock.check turn.position) turn.store turn.scored = true ↔
    turn.attempts ≠ []
  repeated : ∀ call ∈ turn.attempts.dropLast, call.outcome.Retriable
  repeats : turn.attempts.length ≤ 1 + policy.perCandidateRetryLimit.toNat
  failed : ∀ call ∈ turn.attempts, ¬ call.outcome.Final

/-- The end of the list. -/
theorem TurnsSpec.exhausted {policy : RetryPolicy} {position attempts : Nat}
    {error : NoEligibleCandidateError} {store : σ} :
    TurnsSpec S policy clock position attempts []
      (⟨[], .noEligible error, store⟩ : RunLog σ ρ) where
  positions := rfl
  visited := List.prefix_rfl
  numbers := rfl
  ceiling := le_max_left _ _
  attempted := List.forall_mem_nil _
  due := List.forall_mem_nil _
  repeated := List.forall_mem_nil _
  repeats := List.forall_mem_nil _
  final := List.forall_mem_nil _
  finished := by
    constructor
    · intro returned
      obtain ⟨result, value, ending⟩ := returned
      cases ending
    · intro last
      obtain ⟨call, isLast, -⟩ := last
      cases isLast
  noEligible := fun _ _ => ⟨rfl, List.forall_mem_nil _⟩
  hardCeiling := by
    intro error raised
    cases raised
  storeError := by
    intro error raised
    cases raised

/-- A passed turn in front of what the loop does from the next position on. -/
theorem TurnsSpec.pass {policy : RetryPolicy} {position attempts : Nat} (turn : Turn σ ρ)
    {scored : List ScoredCandidate} {log : RunLog σ ρ}
    (passed : Passed S policy clock position attempts turn)
    (rest : TurnsSpec S policy clock (position + 1) (attempts + turn.attempts.length) scored log) :
    TurnsSpec S policy clock position attempts (turn.scored :: scored)
      { log with turns := turn :: log.turns } where
  positions := by
    rw [List.map_cons, rest.positions, passed.position, List.length_cons, List.range'_succ]
  visited := List.cons_prefix_cons.mpr ⟨rfl, rest.visited⟩
  numbers := by
    rw [RunLog.calls_cons, List.map_append, passed.numbers, rest.numbers, List.length_append,
      show attempts + turn.attempts.length + 1 = attempts + 1 + turn.attempts.length by omega,
      List.range'_append_1]
  ceiling := by
    have later := rest.ceiling
    have here := passed.ceiling
    rw [RunLog.calls_cons, List.length_append]
    omega
  attempted := by
    intro other member nonempty
    rcases List.mem_cons.mp member with rfl | later
    · exact passed.exact.mpr nonempty
    · exact rest.attempted other later nonempty
  due := by
    intro other member ready
    rcases List.mem_cons.mp member with rfl | later
    · exact Or.inl (passed.exact.mp ready)
    · rcases rest.due other later ready with attempted | ⟨isLast, raised⟩
      · exact Or.inl attempted
      · exact Or.inr ⟨by rw [List.getLast?_cons, isLast]; rfl, raised⟩
  repeated := by
    intro other member
    rcases List.mem_cons.mp member with rfl | later
    · exact passed.repeated
    · exact rest.repeated other later
  repeats := by
    intro other member
    rcases List.mem_cons.mp member with rfl | later
    · exact passed.repeats
    · exact rest.repeats other later
  final := by
    intro call member
    rw [RunLog.calls_cons] at member
    by_cases empty : log.calls = []
    · rw [empty, List.append_nil] at member
      exact passed.failed call (List.dropLast_subset _ member)
    · rw [List.dropLast_append_of_ne_nil empty] at member
      rcases List.mem_append.mp member with here | later
      · exact passed.failed call here
      · exact rest.final call later
  finished := by
    rw [rest.finished, RunLog.calls_cons, List.getLast?_append]
    cases last : log.calls.getLast? with
    | some call => simp
    | none =>
        constructor
        · intro absent
          obtain ⟨call, isLast, -⟩ := absent
          cases isLast
        · intro present
          obtain ⟨call, isLast, final⟩ := present
          rw [Option.none_or] at isLast
          exact absurd final (passed.failed call (List.mem_of_getLast? isLast))
  noEligible := by
    intro error ending
    obtain ⟨visitedAll, outcomes⟩ := rest.noEligible error ending
    refine ⟨by rw [List.length_cons, visitedAll, List.length_cons], ?_⟩
    intro other member
    rcases List.mem_cons.mp member with rfl | later
    · by_cases ready : attemptable S (clock.check other.position) other.store other.scored = true
      · exact Or.inr ⟨passed.exact.mp ready, passed.failed⟩
      · exact Or.inl (by simpa using ready)
    · exact outcomes other later
  hardCeiling := by
    intro error ending
    obtain ⟨used, last, isLast, due⟩ := rest.hardCeiling error ending
    have here := passed.ceiling
    refine ⟨?_, last, by rw [List.getLast?_cons, isLast]; rfl, due⟩
    rw [RunLog.calls_cons, List.length_append]
    omega
  storeError := rest.storeError

/-- The turn at which the run stops. -/
theorem TurnsSpec.stopped {position attempts : Nat} (turn : Turn σ ρ)
    {scored : List ScoredCandidate} {ending : RunEnding ρ} {progress : Progress σ}
    (here : turn.position = position)
    (ready : attemptable S (clock.check turn.position) turn.store turn.scored = true)
    (loop : LoopSpec engine.policy (attemptBudget engine attempts) 0 attempts
      (.stop ending progress) turn.attempts) :
    TurnsSpec S engine.policy clock position attempts (turn.scored :: scored)
      ⟨[turn], ending, progress.store⟩ where
  positions := by rw [List.map_singleton, here]; rfl
  visited := List.cons_prefix_cons.mpr ⟨rfl, List.nil_prefix⟩
  numbers := by
    change List.map _ (turn.attempts ++ []) = List.range' _ (turn.attempts ++ []).length
    rw [List.append_nil]
    exact loop.numbers
  ceiling := by
    have bounded := loop.bounded
    change attempts + (turn.attempts ++ []).length ≤ _
    rw [List.append_nil]
    unfold attemptBudget at bounded
    omega
  attempted := by
    intro other member _
    rw [List.mem_singleton.mp member]
    exact ready
  due := by
    intro other member _
    rw [List.mem_singleton.mp member]
    rcases loop.stop ending progress rfl with ⟨-, call, isLast, -⟩ | ⟨raised, -⟩
    · exact Or.inl fun empty => by rw [empty] at isLast; cases isLast
    · exact Or.inr ⟨rfl, raised⟩
  repeated := by
    intro other member
    rw [List.mem_singleton.mp member]
    exact loop.repeated
  repeats := by
    intro other member
    rw [List.mem_singleton.mp member]
    exact loop.repeats
  final := by
    intro call member
    change call ∈ (turn.attempts ++ []).dropLast at member
    rw [List.append_nil] at member
    exact (loop.repeated call member).not_final
  finished := by
    change _ ↔ ∃ call, (turn.attempts ++ []).getLast? = some call ∧ _
    rw [List.append_nil]
    rcases loop.stop ending progress rfl with ⟨returned, last⟩ | ⟨⟨error, raised⟩, -, retriable, -⟩
    · exact iff_of_true returned last
    · apply iff_of_false
      · intro returned
        obtain ⟨result, value, finished⟩ := returned
        rw [raised] at finished
        cases finished
      · intro last
        obtain ⟨call, isLast, final⟩ := last
        exact (retriable call (List.mem_of_getLast? isLast)).not_final final
  noEligible := by
    intro error gaveUp
    rcases loop.stop ending progress rfl with ⟨⟨result, value, returned⟩, -⟩ | ⟨⟨_, raised⟩, -⟩
    · rw [returned] at gaveUp
      cases gaveUp
    · rw [raised] at gaveUp
      cases gaveUp
  hardCeiling := by
    intro error ceiling
    rcases loop.stop ending progress rfl with
      ⟨⟨result, value, returned⟩, -⟩ | ⟨-, used, retriable, within⟩
    · rw [returned] at ceiling
      cases ceiling
    · refine ⟨?_, turn, rfl, ready, retriable, ?_⟩
      · change attempts + (turn.attempts ++ []).length = _
        rw [List.append_nil, used]
        unfold attemptBudget
        omega
      · by_cases empty : turn.attempts = []
        · rw [empty]
          exact Nat.zero_le _
        · have bound := within empty
          omega
  storeError := by
    intro error failed
    rcases loop.stop ending progress rfl with ⟨⟨result, value, returned⟩, -⟩ | ⟨⟨_, raised⟩, -⟩
    · rw [returned] at failed
      cases failed
    · rw [raised] at failed
      cases failed

theorem runFrom_spec (unlimited : engine.policy.routeCandidateLimit = none)
    (scored : List ScoredCandidate) (position : Nat) (progress : Progress σ)
    (quiet : ∀ turn ∈ (runFrom S engine clock request attemptFn scored position progress).turns,
      Quiet turn.attempts) :
    TurnsSpec S engine.policy clock position progress.attempts scored
      (runFrom S engine clock request attemptFn scored position progress) := by
  induction scored generalizing position progress with
  | nil => exact TurnsSpec.exhausted
  | cons sc rest inductionHypothesis =>
      by_cases ready : attemptable S (clock.check position) progress.store sc = true
      · simp only [runFrom, ready, if_true] at quiet ⊢
        have loop := attemptCandidate_spec (S := S) clock request attemptFn sc.candidate
          unlimited (attemptBudget engine progress.attempts) 0 progress
        generalize attemptCandidate S engine clock request attemptFn sc.candidate
          (attemptBudget engine progress.attempts) 0 progress = attempted at quiet loop ⊢
        obtain ⟨step, calls⟩ := attempted
        cases step with
        | stop ending progress' =>
            exact TurnsSpec.stopped ⟨position, sc, progress.store, calls⟩ rfl ready
              (loop (quiet _ (List.mem_singleton.mpr rfl)))
        | retry progress' =>
            exact absurd rfl ((loop (quiet _ List.mem_cons_self)).noRetry progress')
        | next progress' =>
            have turnSpec := loop (quiet _ List.mem_cons_self)
            obtain ⟨attempted, failed⟩ := turnSpec.next progress' rfl
            have counted : progress'.attempts = progress.attempts + calls.length :=
              turnSpec.counted
            have later := inductionHypothesis (position + 1) progress'
              fun turn member => quiet turn (List.mem_cons_of_mem _ member)
            rw [counted] at later
            refine TurnsSpec.pass ⟨position, sc, progress.store, calls⟩ ?_ later
            exact
              { position := rfl
                numbers := turnSpec.numbers
                ceiling := by
                  have bounded : calls.length ≤ _ := turnSpec.bounded
                  unfold attemptBudget at bounded
                  change progress.attempts + calls.length ≤ _
                  omega
                exact := iff_of_true ready attempted
                repeated := turnSpec.repeated
                repeats := turnSpec.repeats
                failed := failed }
      · simp only [runFrom, ready, if_false, Bool.false_eq_true] at quiet ⊢
        have later := inductionHypothesis (position + 1) progress
          fun turn member => quiet turn (List.mem_cons_of_mem _ member)
        refine TurnsSpec.pass ⟨position, sc, progress.store, []⟩ ?_ later
        exact
          { position := rfl
            numbers := rfl
            ceiling := le_max_left _ _
            exact := iff_of_false ready fun nonempty => nonempty rfl
            repeated := List.forall_mem_nil _
            repeats := Nat.zero_le _
            failed := List.forall_mem_nil _ }

end Proof

/-- Every run without a candidate limit whose store operations do not raise
meets the specification, whatever its attempts do. -/
theorem run_meets_spec {σ ρ : Type} (S : StateStore σ) (engine : FallbackEngine) (clock : Clock)
    (request : RequestInfo) (attemptFn : AttemptFn σ ρ) (scored : List ScoredCandidate)
    (start : σ) (unlimited : engine.policy.routeCandidateLimit = none)
    (quiet : ∀ turn ∈ (run S engine clock request attemptFn scored start).turns,
      Quiet turn.attempts) :
    RunSpec S engine clock request attemptFn scored start
      (run S engine clock request attemptFn scored start) where
  toTurnsSpec := runFrom_spec unlimited scored 0 { store := start } quiet
  performed := run_performed scored start

/-- A candidate that is retried after a token limit and then succeeds. -/
theorem run_meets_spec_retry :
    RunSpec InMemoryStateStore.store {} ⟨fun _ => 0, fun _ => 0⟩ ⟨"r", "v"⟩
      (fun number _ s =>
        (if number = 1 then .failed { errorClass := .tokenLimit } else .returned (), s))
      [⟨⟨"p", some "k", ⟨"m", "p", ∅⟩, ∅, .api, 100, false⟩, 100, true, "ok"⟩]
      InMemoryStateStore.empty
      (run InMemoryStateStore.store {} ⟨fun _ => 0, fun _ => 0⟩ ⟨"r", "v"⟩
        (fun number _ s =>
          (if number = 1 then .failed { errorClass := .tokenLimit } else .returned (), s))
        [⟨⟨"p", some "k", ⟨"m", "p", ∅⟩, ∅, .api, 100, false⟩, 100, true, "ok"⟩]
        InMemoryStateStore.empty) := by
  apply run_meets_spec InMemoryStateStore.store {} _ _ _ _ _ rfl
  unfold Quiet
  decide

end AutoRouteGateway.Routing
