import AutoRouteGateway.Routing.RunSpec

/-!
Contract: in which order a run contacts the candidates it was given.

Owns: the configured order that scoring keeps, the positions a run visits
whatever its store and its attempts do, and what follows for regular and reserve
candidates.
-/

namespace AutoRouteGateway.Routing

open AutoRouteGateway.Domain
open AutoRouteGateway.State

/-- The configured order, reserve candidates behind the others. -/
def reserveLast (candidates : List RouteCandidate) : List RouteCandidate :=
  candidates.filter (fun candidate => !candidate.reserve) ++
    candidates.filter fun candidate => candidate.reserve

/-- Two tests at once are one after the other. -/
theorem filter_and (first second : RouteCandidate → Bool) (candidates : List RouteCandidate) :
    (candidates.filter fun candidate => first candidate && second candidate) =
      (candidates.filter first).filter second := by
  rw [List.filter_filter]
  apply List.filter_congr
  intro candidate _
  exact Bool.and_comm _ _

/-! ## The order of the scored list -/

section Scored

variable {σ : Type} (S : StateStore σ) (s : σ)

/-- The store lets the candidate through when it is scored. -/
def usableIn (candidate : RouteCandidate) : Bool := (scoreCandidate S s candidate).usable

theorem filter_scored (test : ScoredCandidate → Bool) (candidates : List RouteCandidate) :
    ((candidates.map (scoreCandidate S s)).filter test).map ScoredCandidate.candidate =
      candidates.filter fun candidate => test (scoreCandidate S s candidate) := by
  have own : ScoredCandidate.candidate ∘ scoreCandidate S s = id := rfl
  rw [List.filter_map, List.map_map, own, List.map_id]
  rfl

/-- Scoring is a partition in three of the list it is given. -/
theorem scoreCandidates_candidates (candidates : List RouteCandidate) :
    (scoreCandidates S s candidates).map ScoredCandidate.candidate =
      reserveLast (candidates.filter (usableIn S s)) ++
        candidates.filter fun candidate => !usableIn S s candidate := by
  unfold scoreCandidates reserveLast
  rw [List.map_append, List.map_append, filter_scored, filter_scored, filter_scored]
  congr 2
  · exact filter_and (usableIn S s) (fun candidate => !candidate.reserve) candidates
  · exact filter_and (usableIn S s) (fun candidate => candidate.reserve) candidates

theorem reserveLast_perm (candidates : List RouteCandidate) :
    (reserveLast candidates).Perm candidates := by
  have halves := List.filter_append_perm (fun candidate : RouteCandidate => !candidate.reserve)
    candidates
  simpa only [reserveLast, Bool.not_not] using halves

/-- Scoring loses and doubles no candidate. -/
theorem scoreCandidates_perm (candidates : List RouteCandidate) :
    ((scoreCandidates S s candidates).map ScoredCandidate.candidate).Perm candidates := by
  rw [scoreCandidates_candidates]
  exact ((reserveLast_perm _).append_right _).trans (List.filter_append_perm _ _)

theorem reserveLast_filter (test : RouteCandidate → Bool) (candidates : List RouteCandidate) :
    (reserveLast candidates).filter test = reserveLast (candidates.filter test) := by
  unfold reserveLast
  rw [List.filter_append, List.filter_filter, List.filter_filter, filter_and test,
    filter_and test]

/-- Among candidates that are usable in the store, scoring keeps the configured order,
whatever else the store says. -/
theorem scoreCandidates_filter {test : RouteCandidate → Bool}
    (usable : ∀ candidate, test candidate = true → usableIn S s candidate = true)
    (candidates : List RouteCandidate) :
    ((scoreCandidates S s candidates).map ScoredCandidate.candidate).filter test =
      reserveLast (candidates.filter test) := by
  have passed : ∀ candidate, (test candidate && usableIn S s candidate) = test candidate := by
    intro candidate
    cases passes : test candidate with
    | false => rfl
    | true => exact usable candidate passes
  have refused : ∀ candidate, (test candidate && !usableIn S s candidate) = false := by
    intro candidate
    cases passes : test candidate with
    | false => rfl
    | true => rw [usable candidate passes]; rfl
  rw [scoreCandidates_candidates, List.filter_append, reserveLast_filter, List.filter_filter,
    List.filter_filter]
  simp only [passed, refused, List.filter_false, List.append_nil]

/-- The usable part of the scored list, and no reserve candidate before a regular one. -/
theorem scoreCandidates_pairwise (candidates : List RouteCandidate) :
    (scoreCandidates S s candidates).Pairwise fun earlier later =>
      earlier.candidate.reserve = true →
        ¬ (later.usable = true ∧ later.candidate.reserve = false) := by
  unfold scoreCandidates
  have regular : ∀ sc ∈ (candidates.map (scoreCandidate S s)).filter
      (fun sc => sc.usable && !sc.candidate.reserve), sc.candidate.reserve = false := by
    intro sc member
    have passes := (List.mem_filter.mp member).2
    simpa using (Bool.and_eq_true_iff.mp passes).2
  have reserve : ∀ sc ∈ (candidates.map (scoreCandidate S s)).filter
      (fun sc => sc.usable && sc.candidate.reserve) ++
        (candidates.map (scoreCandidate S s)).filter (fun sc => !sc.usable),
      ¬ (sc.usable = true ∧ sc.candidate.reserve = false) := by
    intro sc member isRegular
    rcases List.mem_append.mp member with usable | unusable
    · have passes := (List.mem_filter.mp usable).2
      simp [isRegular] at passes
    · have passes := (List.mem_filter.mp unusable).2
      simp [isRegular] at passes
  rw [List.append_assoc, List.pairwise_append]
  refine ⟨?_, ?_, ?_⟩
  · apply List.pairwise_of_forall_mem_list
    intro earlier member _ _ isReserve
    rw [regular earlier member] at isReserve
    cases isReserve
  · apply List.pairwise_of_forall_mem_list
    intro _ _ later member _
    exact reserve later member
  · intro _ _ later member _
    exact reserve later member

end Scored

/-! ## The positions a run visits -/

section Visits

variable {σ ρ : Type} (S : StateStore σ) (clock : Clock)

/-- The turns of a run from a position on: positions in order, attempted only if
attemptable, and always if another turn follows. -/
structure Visits (position : Nat) (scored : List ScoredCandidate) (log : RunLog σ ρ) : Prop where
  positions : log.turns.map Turn.position = List.range' position log.turns.length
  visited : log.turns.map Turn.scored <+: scored
  attempted : ∀ turn ∈ log.turns, turn.attempts ≠ [] →
    attemptable S (clock.check turn.position) turn.store turn.scored = true
  due : ∀ turn ∈ log.turns.dropLast,
    attemptable S (clock.check turn.position) turn.store turn.scored = true →
      turn.attempts ≠ []

variable {S clock}

/-- A turn in front of the turns of the later positions. -/
theorem Visits.cons {position : Nat} {sc : ScoredCandidate} {rest : List ScoredCandidate}
    {turn : Turn σ ρ} {later : RunLog σ ρ} (here : turn.position = position)
    (own : turn.scored = sc)
    (attempted : turn.attempts ≠ [] ↔ attemptable S (clock.check position) turn.store sc = true)
    (visits : Visits S clock (position + 1) rest later) :
    Visits S clock position (sc :: rest) { later with turns := turn :: later.turns } where
  positions := by
    rw [List.map_cons, visits.positions, here, List.length_cons, List.range'_succ]
  visited := by
    rw [List.map_cons, own]
    exact List.cons_prefix_cons.mpr ⟨rfl, visits.visited⟩
  attempted := by
    intro other member made
    rcases List.mem_cons.mp member with same | inLater
    · rw [same] at made ⊢
      rw [here, own]
      exact attempted.mp made
    · exact visits.attempted other inLater made
  due := by
    intro other member ready
    have inEither : other = turn ∨ other ∈ later.turns.dropLast := by
      change other ∈ (turn :: later.turns).dropLast at member
      cases turns : later.turns with
      | nil =>
          rw [turns] at member
          cases member
      | cons first others =>
          rw [turns, List.dropLast_cons_of_ne_nil (List.cons_ne_nil _ _)] at member
          exact List.mem_cons.mp member
    rcases inEither with same | inLater
    · rw [same] at ready ⊢
      rw [here, own] at ready
      exact attempted.mpr ready
    · exact visits.due other inLater ready

variable {engine : FallbackEngine} {request : RequestInfo} {attemptFn : AttemptFn σ ρ}

/-- Without a budget the loop on a candidate ends the run; with one it makes a call. -/
theorem attemptCandidate_ne_nil {candidate : RouteCandidate} {budget retries : Nat}
    {progress : Progress σ}
    (goesOn : ∀ ending progress', (attemptCandidate S engine clock request attemptFn candidate
      budget retries progress).1 ≠ .stop ending progress') :
    (attemptCandidate S engine clock request attemptFn candidate budget retries
      progress).2 ≠ [] := by
  cases budget with
  | zero => exact absurd rfl (goesOn _ _)
  | succ budget =>
      simp only [attemptCandidate]
      split <;> exact List.cons_ne_nil _ _

theorem runFrom_visits (scored : List ScoredCandidate) (position : Nat)
    (progress : Progress σ) :
    Visits S clock position scored
      (runFrom S engine clock request attemptFn scored position progress) := by
  induction scored generalizing position progress with
  | nil =>
      exact ⟨rfl, List.nil_prefix, fun _ member => absurd member List.not_mem_nil,
        fun _ member => absurd member List.not_mem_nil⟩
  | cons sc rest inductionHypothesis =>
      by_cases ready : attemptable S (clock.check position) progress.store sc = true
      · have made : _ → (attemptCandidate S engine clock request attemptFn sc.candidate
            (attemptBudget engine progress.attempts) 0 progress).2 ≠ [] :=
          attemptCandidate_ne_nil
        simp only [runFrom, ready, if_true]
        generalize attemptCandidate S engine clock request attemptFn sc.candidate
          (attemptBudget engine progress.attempts) 0 progress = attempted at made ⊢
        obtain ⟨step, calls⟩ := attempted
        cases step with
        | stop ending progress' =>
            refine ⟨rfl, List.cons_prefix_cons.mpr ⟨rfl, List.nil_prefix⟩, ?_, ?_⟩
            · intro turn member _
              rw [List.mem_singleton.mp member]
              exact ready
            · intro turn member
              cases member
        | retry progress' =>
            exact Visits.cons rfl rfl (iff_of_true (made retry_ne_stop) ready)
              (inductionHypothesis (position + 1) progress')
        | next progress' =>
            exact Visits.cons rfl rfl (iff_of_true (made next_ne_stop) ready)
              (inductionHypothesis (position + 1) progress')
      · simp only [runFrom, ready, if_false, Bool.false_eq_true]
        exact Visits.cons rfl rfl (iff_of_false (fun nonempty => nonempty rfl) ready)
          (inductionHypothesis (position + 1) progress)

end Visits

/-! ## The candidates a run contacts -/

section Contacted

variable {σ ρ : Type}

def Turn.isContacted (turn : Turn σ ρ) : Bool := !turn.attempts.isEmpty

/-- The candidates that are called, in order; one that is called again in its turn is
listed once. -/
def RunLog.contacted (log : RunLog σ ρ) : List RouteCandidate :=
  (log.turns.filter Turn.isContacted).map fun turn => turn.scored.candidate

/-- A reserve candidate is contacted only after the turn of every regular one that was
usable when scored, which was contacted if it was eligible then. -/
def RegularFirst (S : StateStore σ) (clock : Clock) (scored : List ScoredCandidate)
    (log : RunLog σ ρ) : Prop :=
  ∀ earlier turn later, log.turns = earlier ++ turn :: later → turn.isContacted = true →
    turn.scored.candidate.reserve = true →
      ∀ place sc, scored[place]? = some sc → sc.usable = true → sc.candidate.reserve = false →
        ∃ passed ∈ earlier, passed.position = place ∧ passed.scored = sc ∧
          (eligible S (clock.check place) passed.store sc.candidate = true →
            passed.isContacted = true)

theorem Turn.isContacted_iff {turn : Turn σ ρ} : turn.isContacted = true ↔ turn.attempts ≠ [] := by
  unfold Turn.isContacted
  rw [Bool.not_eq_true', List.isEmpty_eq_false_iff]

variable {S : StateStore σ} {clock : Clock} {scored : List ScoredCandidate} {log : RunLog σ ρ}

/-- Only usable candidates are contacted, in the order of the scored list. -/
theorem Visits.contacted_sublist {position : Nat} (visits : Visits S clock position scored log) :
    log.contacted.Sublist
      ((scored.filter fun sc => sc.usable).map ScoredCandidate.candidate) := by
  have usable : log.turns.filter Turn.isContacted =
      (log.turns.filter fun turn => turn.scored.usable).filter Turn.isContacted := by
    rw [List.filter_filter]
    apply List.filter_congr
    intro turn member
    cases isContacted : turn.isContacted with
    | false => rfl
    | true =>
        have ready := visits.attempted turn member (Turn.isContacted_iff.mp isContacted)
        exact (Bool.and_eq_true_iff.mp ready).1.symm
  have turnsScored : (log.turns.filter fun turn => turn.scored.usable).map Turn.scored =
      (log.turns.map Turn.scored).filter fun sc => sc.usable := by
    rw [List.filter_map]
    rfl
  unfold RunLog.contacted
  rw [usable, show (fun turn : Turn σ ρ => turn.scored.candidate) =
    ScoredCandidate.candidate ∘ Turn.scored from rfl, ← List.map_map]
  apply List.Sublist.map
  apply (List.filter_sublist.map Turn.scored).trans
  rw [turnsScored]
  exact visits.visited.sublist.filter _

/-- In a list without a regular candidate after a reserve one, the regular ones come
first. -/
theorem Visits.regularFirst (visits : Visits S clock 0 scored log)
    (ordered : scored.Pairwise fun earlier later => earlier.candidate.reserve = true →
      ¬ (later.usable = true ∧ later.candidate.reserve = false)) :
    RegularFirst S clock scored log := by
  intro earlier turn later split isContacted reserve place sc isSc usable regular
  obtain ⟨rest, isScored⟩ := visits.visited
  have ownPlace : scored[earlier.length]? = some turn.scored := by
    rw [← isScored, split]
    simp
  have before : place < earlier.length := by
    by_contra behind
    rcases Nat.lt_or_eq_of_le (Nat.le_of_not_lt behind) with after | same
    · obtain ⟨ownBelow, isOwn⟩ := List.getElem?_eq_some_iff.mp ownPlace
      obtain ⟨below, isSc⟩ := List.getElem?_eq_some_iff.mp isSc
      have never := List.pairwise_iff_getElem.mp ordered _ _ ownBelow below after
      rw [isOwn, isSc] at never
      exact never reserve ⟨usable, regular⟩
    · rw [← same, ownPlace, Option.some.injEq] at isSc
      rw [← isSc, reserve] at regular
      cases regular
  have passedPlace : log.turns[place]? = some earlier[place] := by
    rw [split, List.getElem?_append_left before, List.getElem?_eq_getElem before]
  have below : place < log.turns.length := (List.getElem?_eq_some_iff.mp passedPlace).1
  have isPosition : earlier[place].position = place := by
    have positions := congrArg (·[place]?) visits.positions
    rw [List.getElem?_map, passedPlace, List.getElem?_range' below, Option.map_some] at positions
    simpa using Option.some.inj positions
  have isPassed : earlier[place].scored = sc := by
    have same : (log.turns.map Turn.scored ++ rest)[place]? = some sc := by
      rw [isScored, isSc]
    rw [List.getElem?_append_left (by rwa [List.length_map]), List.getElem?_map, passedPlace]
      at same
    exact Option.some.inj same
  refine ⟨earlier[place], List.getElem_mem before, isPosition, isPassed, ?_⟩
  intro isEligible
  apply Turn.isContacted_iff.mpr
  apply visits.due
  · rw [split, List.dropLast_append_of_ne_nil (List.cons_ne_nil _ _)]
    exact List.mem_append_left _ (List.getElem_mem before)
  · rw [isPosition, isPassed, attemptable, usable, isEligible]
    rfl

end Contacted

end AutoRouteGateway.Routing
