import AutoRouteGateway.Library.Stops
import AutoRouteGateway.Routing.CandidateLimit
import AutoRouteGateway.Service.Availability

/-!
Contract: no candidate is passed over without cause.

A request goes down the list it scored on arrival, while other requests write to
the store. From one attempt to the next it looks at the candidates in between
without waiting, so they are all judged in the very store in which the next
attempt starts.

Owns: each stop of a request as a search of its scored list, in every
interleaving.
-/

namespace AutoRouteGateway.Service

open AutoRouteGateway.Domain
open AutoRouteGateway.Library
open AutoRouteGateway.Library.Coroutine
open AutoRouteGateway.Policy
open AutoRouteGateway.Routing
open AutoRouteGateway.Runtime
open AutoRouteGateway.State

/-! ## The search -/

section Searches

variable {σ ρ : Type} (S : StateStore σ) (engine : FallbackEngine) (clock : Clock)
  (scored : List ScoredCandidate)

/-- `tried` ends with the candidate that had the last turn, and the store allows
no attempt on those of `passed` behind it. -/
structure Searched (tried passed : List ScoredCandidate) (talk : Talk ρ) (s : σ) : Prop where
  last : (tried.map ScoredCandidate.candidate).getLast? = (turnsOf talk).getLast?
  closed : ∀ offset sc, passed[offset]? = some sc →
    attemptable S (clock.check (tried.length + offset)) s sc = false

/-- The candidate is the first one behind the last turn that the store allows an
attempt on. -/
def NextInLine (talk : Talk ρ) (s : σ) (candidate : RouteCandidate) : Prop :=
  ∃ tried passed sc rest, scored = tried ++ passed ++ sc :: rest ∧
    Searched S clock tried passed talk s ∧ sc.candidate = candidate ∧
    attemptable S (clock.check (tried.length + passed.length)) s sc = true

/-- The store allows no attempt behind the last turn. -/
def Exhausted (talk : Talk ρ) (s : σ) : Prop :=
  ∃ tried passed, scored = tried ++ passed ∧ Searched S clock tried passed talk s

/-- At a stop: an attempt repeats the one whose turn it is, or goes to the next
in line; a request that ends for want of a candidate has none left, or is a run
that used up its candidate limit. -/
def GoesDown (talk : Talk ρ) : Question ⊕ RequestEnd ρ → σ → Prop
  | .inl question, s => ∀ number candidate, question.attempt? = some (number, candidate) →
      (question.turn? = none ∧ (turnsOf talk).getLast? = some candidate) ∨
        NextInLine S clock scored talk s candidate
  | .inr ending, s => Starved engine ending → Exhausted S clock scored talk s ∨
      ((∃ error, ending = .ran (.noEligible error)) ∧
        candidateLimitReached engine.policy (turnsOf talk).length = true)

variable {S clock} {tried passed : List ScoredCandidate} {sc : ScoredCandidate} {talk : Talk ρ}
  {s : σ}

theorem Searched.pass (searched : Searched S clock tried passed talk s)
    (closed : attemptable S (clock.check (tried.length + passed.length)) s sc = false) :
    Searched S clock tried (passed ++ [sc]) talk s where
  last := searched.last
  closed := by
    intro offset other found
    rw [List.getElem?_append] at found
    split at found
    · exact searched.closed offset other found
    · rename_i beyond
      rw [List.getElem?_singleton] at found
      split at found
      · rename_i isLast
        cases found
        have here : offset = passed.length := by omega
        rw [here]
        exact closed
      · cases found

/-- After the turn of a candidate nothing behind it has been looked at. -/
theorem Searched.turn (front : List ScoredCandidate)
    (last : (turnsOf talk).getLast? = some sc.candidate) :
    Searched S clock (front ++ [sc]) [] talk s where
  last := by rw [List.map_append, last, List.map_singleton, List.getLast?_concat]
  closed := by
    intro offset other found
    cases found

end Searches

/-! ## A run -/

section Runs

variable {ρ : Type} {kind : StoreKind} {engine : FallbackEngine} {clock : Clock}
  {request : RequestInfo} {scored : List ScoredCandidate}

/-- The retry loop, by induction on the budget. -/
theorem goesDown_attemptOn {called : RouteCandidate}
    {proceed : Progress kind.Contents → RequestSegment kind.Contents ρ}
    (proceeds : ∀ (talk : Talk ρ) (left : Progress kind.Contents),
      (turnsOf talk).getLast? = some called → left.fallbackCount = (turnsOf talk).length →
        StopsWell (GoesDown kind.store engine clock scored) talk (proceed left))
    (budget retries : Nat) (now : Instant) (progress : Progress kind.Contents) {talk : Talk ρ}
    (here : GoesDown kind.store engine clock scored talk
      (.inl (.call (progress.attempts + 1) retries called now)) progress.store)
    (last : (turnsOf talk ++ (Question.call (progress.attempts + 1) retries called
      now).turn?.toList).getLast? = some called)
    (counted : progress.fallbackCount + 1 = (turnsOf talk ++
      (Question.call (progress.attempts + 1) retries called now).turn?.toList).length) :
    StopsWell (GoesDown kind.store engine clock scored) talk
      (attemptOn kind.store engine clock request called proceed budget retries now progress) := by
  induction budget generalizing retries now progress talk with
  | zero => exact stopsWell_done False.elim
  | succ budget inductionHypothesis =>
      rw [attemptOn]
      refine stopsWell_pause here ?_
      intro outcome s
      change AttemptOutcome ρ at outcome
      let returned : Progress kind.Contents :=
        { progress with store := s, attempts := progress.attempts + 1 }
      have turns : turnsOf (talk ++
          [⟨.call (progress.attempts + 1) retries called now, outcome⟩]) =
          turnsOf talk ++ (Question.call (progress.attempts + 1) retries called
            now).turn?.toList := by
        rw [turnsOf_append]
        cases retries <;> rfl
      rw [← turns] at last counted
      have counts : Counts engine.policy returned.attempts returned.fallbackCount outcome
          (settleCall kind.store engine clock request called retries outcome returned).2 :=
        settleCall_counts rfl rfl
      cases isStep : (settleCall kind.store engine clock request called retries outcome
          returned).2 with
      | stop ending left =>
          refine stopsWell_done ?_
          intro starved
          cases ending with
          | noEligible error =>
              have reached := limitReached_of_stop isStep
              rw [show returned.fallbackCount + 1 = _ from counted] at reached
              exact .inr ⟨⟨error, rfl⟩, reached⟩
          | finished result value => cases starved
          | hardCeiling error => cases starved
          | storeError error => cases starved
      | next left =>
          rw [isStep] at counts
          cases counts with
          | next _ isAttempts isFallbacks within =>
              exact proceeds _ left last (isFallbacks.trans counted)
      | retry left =>
          rw [isStep] at counts
          cases counts with
          | retry _ isAttempts isFallbacks =>
              refine inductionHypothesis _ _ left ?_ ?_ ?_
              · intro number candidate isAttempt
                cases isAttempt
                exact .inl ⟨rfl, last⟩
              · exact (congrArg List.getLast? (List.append_nil _)).trans last
              · rw [isFallbacks]
                exact counted.trans (congrArg List.length (List.append_nil _).symm)

/-- The loop over the scored list, by induction on what is left of it. -/
theorem goesDown_runOver {tried passed rest : List ScoredCandidate}
    (whole : tried ++ passed ++ rest = scored) (progress : Progress kind.Contents)
    {talk : Talk ρ} (searched : Searched kind.store clock tried passed talk progress.store)
    (counted : progress.fallbackCount = (turnsOf talk).length) :
    StopsWell (GoesDown kind.store engine clock scored) talk
      (runOver kind.store engine clock request rest (tried.length + passed.length) progress) := by
  induction rest generalizing tried passed progress talk with
  | nil =>
      rw [List.append_nil] at whole
      exact stopsWell_done fun _ => .inl ⟨tried, passed, whole.symm, searched⟩
  | cons sc rest inductionHypothesis =>
      have whole' : tried ++ passed ++ [sc] ++ rest = scored := by
        rw [← whole, List.append_cons (tried ++ passed) sc rest]
      rw [runOver]
      split
      · rename_i ready
        refine goesDown_attemptOn ?_ _ 0 _ progress ?_ ?_ ?_
        · intro talk' left last counted'
          have behind : tried ++ passed ++ [sc] ++ [] ++ rest = scored := by
            rw [List.append_nil, whole']
          have later := inductionHypothesis behind left (Searched.turn (tried ++ passed) last)
            counted'
          simpa only [List.length_append, List.length_singleton, List.length_nil] using later
        · intro number candidate isAttempt
          cases isAttempt
          exact .inr ⟨tried, passed, sc, rest, whole.symm, searched, rfl, ready⟩
        · exact List.getLast?_concat
        · rw [counted, List.length_append]
          rfl
      · rename_i closed
        have later := inductionHypothesis (by rw [← List.append_assoc, whole']) progress
          (searched.pass (Bool.eq_false_of_not_eq_true closed)) counted
        rwa [List.length_append, ← Nat.add_assoc] at later

end Runs

/-! ## A stream -/

section Streams

variable {ρ : Type} {kind : StoreKind} {engine : FallbackEngine} {service : GatewayService}
  {clock : Clock} {request : RequestInfo} {scored : List ScoredCandidate}

theorem goesDown_deliveryEnd (handle : StreamHandle) (exception : UpstreamException)
    (committed : Bool) (s : kind.Contents) (talk : Talk ρ) :
    StopsWell (GoesDown kind.store engine clock scored) talk
      (deliveryEnd kind.store request handle exception committed s) :=
  stopsWell_done fun starved => absurd starved
    (not_starved_deliveryFailure handle exception committed s)

theorem goesDown_deliverOn (handle : StreamHandle) (items : List (Bool × Event))
    (committed : Bool) (s : kind.Contents) (talk : Talk ρ) :
    StopsWell (GoesDown kind.store engine clock scored) talk
      (deliverOn kind.store request handle items committed s) := by
  induction items generalizing committed s talk with
  | nil =>
      rw [deliverOn]
      cases handle.ending with
      | none => exact stopsWell_done False.elim
      | some exception => exact goesDown_deliveryEnd ..
  | cons item rest inductionHypothesis =>
      obtain ⟨replayed, event⟩ := item
      rw [deliverOn]
      cases commits replayed committed event with
      | error text => exact goesDown_deliveryEnd ..
      | ok committed' =>
          dsimp only
          cases recordDone kind.store request handle event s with
          | raised error s' => exact goesDown_deliveryEnd ..
          | done s' =>
              refine stopsWell_pause ?_ ?_
              · intro number candidate isAttempt
                cases isAttempt
              · intro answer s''
                exact inductionHypothesis committed' s'' _

theorem goesDown_contactEnd {attempt : Nat} {candidate : RouteCandidate} {talk : Talk ρ}
    {proceed : kind.Contents → RequestSegment kind.Contents ρ}
    (proceeds : ∀ s, StopsWell (GoesDown kind.store engine clock scored) talk (proceed s))
    (stream : UpstreamStream) (s : kind.Contents) :
    StopsWell (GoesDown kind.store engine clock scored) talk
      (contactEnd kind.store engine clock request attempt candidate proceed stream s) := by
  unfold contactEnd
  dsimp only
  cases settlePrefix kind.store engine clock request attempt candidate s
      (readPrefix stream.ending stream.events) with
  | raised error s' => exact stopsWell_done False.elim
  | done s' =>
      cases readPrefix stream.ending stream.events with
      | selected buffered rest => exact goesDown_deliverOn ..
      | exhausted => exact proceeds s'
      | failed exception => exact proceeds s'

/-- The selection loop, by induction on what is left of the scored list. -/
theorem goesDown_selectOver {tried passed rest : List ScoredCandidate}
    (whole : tried ++ passed ++ rest = scored) (attempts : Nat) (s : kind.Contents)
    {talk : Talk ρ} (searched : Searched kind.store clock tried passed talk s) :
    StopsWell (GoesDown kind.store engine clock scored) talk
      (selectOver kind.store engine service clock request rest (tried.length + passed.length)
        attempts s) := by
  induction rest generalizing tried passed attempts s talk with
  | nil =>
      rw [List.append_nil] at whole
      exact stopsWell_done fun _ => .inl ⟨tried, passed, whole.symm, searched⟩
  | cons sc rest inductionHypothesis =>
      have whole' : tried ++ passed ++ [sc] ++ rest = scored := by
        rw [← whole, List.append_cons (tried ++ passed) sc rest]
      rw [selectOver]
      split
      · rename_i ready
        split
        · rename_i used
          refine stopsWell_done ?_
          rintro ⟨-, spare⟩
          exact absurd used (Int.not_le.mpr spare)
        · cases prepared : prepare service sc.candidate with
          | error error =>
              refine stopsWell_done ?_
              cases error with
              | noEligible own => exact absurd rfl (prepare_error_ne prepared own)
              | _ => exact False.elim
          | ok secret =>
              refine stopsWell_pause ?_ ?_
              · intro number candidate isAttempt
                cases isAttempt
                exact .inr ⟨tried, passed, sc, rest, whole.symm, searched, rfl, ready⟩
              · intro stream s'
                refine goesDown_contactEnd ?_ stream s'
                intro s''
                have last : (turnsOf (talk ++ [⟨.contact (attempts + 1) sc.candidate secret
                    (clock.check (tried.length + passed.length)), stream⟩])).getLast? =
                    some sc.candidate := by
                  rw [turnsOf_append]
                  exact List.getLast?_concat
                have behind : tried ++ passed ++ [sc] ++ [] ++ rest = scored := by
                  rw [List.append_nil, whole']
                have later := inductionHypothesis behind (attempts + 1) s''
                  (Searched.turn (tried ++ passed) last)
                simpa only [List.length_append, List.length_singleton, List.length_nil]
                  using later
      · rename_i closed
        have later := inductionHypothesis (by rw [← List.append_assoc, whole']) attempts s
          (searched.pass (Bool.eq_false_of_not_eq_true closed))
        rwa [List.length_append, ← Nat.add_assoc] at later

end Streams

/-! ## Requests -/

section Interleaved

variable {ρ : Type} (kind : StoreKind) (engine : FallbackEngine) (service : GatewayService)

theorem goesDown_start (request : Request kind.Contents) (answer : Unit) (s : kind.Contents) :
    StopsWell (fun talk shown left => ∀ scored, request.scored s = .ok scored →
        GoesDown (ρ := ρ) kind.store engine request.clock scored talk shown left)
      [⟨.arrival, answer⟩] (request.start kind.store engine service s) := by
  rw [Request.start]
  cases isScored : request.scored s with
  | error error =>
      refine stopsWell_done ?_
      intro scored none
      cases none
  | ok scored =>
      have only : ∀ talk shown (left : kind.Contents),
          GoesDown (ρ := ρ) kind.store engine request.clock scored talk shown left →
          ∀ own, Except.ok (ε := ServiceError) scored = .ok own →
            GoesDown kind.store engine request.clock own talk shown left := by
        rintro talk shown left down _ ⟨rfl⟩
        exact down
      have searched : Searched (ρ := ρ) kind.store request.clock [] []
          [⟨.arrival, answer⟩] s := by
        refine ⟨rfl, ?_⟩
        intro offset sc found
        cases found
      cases request.entry with
      | run => exact (goesDown_runOver rfl { store := s } searched rfl).imp only
      | chatStream => exact (goesDown_selectOver rfl 0 s searched).imp only

variable {ι : Type} [DecidableEq ι] (requests : ι → Request kind.Contents)
  (start : kind.Contents) (schedule : List (Move ι Question (Question.Answer ρ)))

/-- Whenever a request stops, in every interleaving, it has gone down the list
it scored on arrival: from its last turn on it passed over those candidates only
that the store it stops in allows no attempt on. -/
theorem no_candidate_passed_over (move : Move ι Question (Question.Answer ρ)) {asked : Question}
    (waits : ((requestPool kind engine service requests start).run schedule).waitsFor?
      move.thread = some asked) :
    ∃ found, (requestPool kind engine service requests start).firstState move.thread
        (schedule ++ [move]) = some found ∧
      ∀ scored, (requests move.thread).scored found = .ok scored →
        GoesDown kind.store engine (requests move.thread).clock scored
          ((requestPool kind engine service requests start).talk move.thread
            (schedule ++ [move]))
          (((requestPool kind engine service requests start).run
            (schedule ++ [move])).threads move.thread).shows
          ((requestPool kind engine service requests start).run (schedule ++ [move])).state :=
  Pool.fits_of_firstState rfl (goesDown_start kind engine service (requests move.thread))
    schedule rfl waits

end Interleaved

/-- The key of `p` is refused; `q` is next in line. -/
theorem next_in_line_after_refused_key :
    ∃ scored, twoStepsRequest.scored .empty = .ok scored ∧
      NextInLine InMemoryStateStore.store twoStepsRequest.clock scored
        ((requestPool .inMemory {} twoStepsService (fun _ : Unit => twoStepsRequest)
          .empty).talk () (refusedThenServed.take 2))
        ((requestPool .inMemory {} twoStepsService (fun _ : Unit => twoStepsRequest)
          .empty).run (refusedThenServed.take 2)).state (keyedCandidate "q") := by
  obtain ⟨found, isFound, down⟩ := no_candidate_passed_over .inMemory {} twoStepsService
    (fun _ : Unit => twoStepsRequest) .empty [⟨(), calledBack (.returned [])⟩]
    ⟨(), calledBack (.failed { errorClass := .auth })⟩ rfl
  cases isFound
  refine ⟨_, rfl, ?_⟩
  rcases down _ rfl 2 (keyedCandidate "q") rfl with ⟨retries, -⟩ | next
  · cases retries
  · exact next

end AutoRouteGateway.Service
