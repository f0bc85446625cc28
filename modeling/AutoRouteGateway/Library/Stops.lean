import AutoRouteGateway.Library.Protocol

/-!
Contract: how a coroutine stands where it stops.

A segment ends in a question or in the result, and leaves a state in which
nobody else has written yet. What the coroutine shows there can therefore be
compared with that very state.

Owns: properties of every stop of a coroutine, and the rules that carry them to
the moves of its thread in a pool.
-/

namespace AutoRouteGateway.Library

namespace Coroutine

variable {σ Q : Type} {A : Q → Type} {ρ : Type}

/-- The question a coroutine waits with, or its result. -/
def shows : Coroutine σ Q A ρ → Q ⊕ ρ
  | .done result => .inr result
  | .await question _ _ => .inl question

/-- Wherever the coroutine stops after the conversation, what it shows fits the
conversation up to there and the state it leaves. -/
def Stops (fits : List (Exchange Q A) → Q ⊕ ρ → σ → Prop) :
    List (Exchange Q A) → Coroutine σ Q A ρ → Prop
  | _, .done _ => True
  | talk, .await question leave next => ∀ answer s,
      fits (talk ++ [⟨question, answer⟩]) (next answer s).shows (leave answer s) ∧
        Stops fits (talk ++ [⟨question, answer⟩]) (next answer s)

/-- The segment ends in a stop that fits, and so does every later one. -/
structure StopsWell (fits : List (Exchange Q A) → Q ⊕ ρ → σ → Prop)
    (talk : List (Exchange Q A)) (segment : Segment σ Q A ρ) : Prop where
  here : fits talk segment.2.shows segment.1
  later : Stops fits talk segment.2

variable {fits : List (Exchange Q A) → Q ⊕ ρ → σ → Prop} {talk : List (Exchange Q A)} {s : σ}

/-- What fits more narrowly fits more widely. -/
theorem Stops.imp {wider : List (Exchange Q A) → Q ⊕ ρ → σ → Prop}
    (imp : ∀ talk shown s, fits talk shown s → wider talk shown s)
    {coroutine : Coroutine σ Q A ρ} (stops : coroutine.Stops fits talk) :
    coroutine.Stops wider talk := by
  induction coroutine generalizing talk with
  | done result => trivial
  | await question leave next inductionHypothesis =>
      intro answer s
      obtain ⟨here, later⟩ := stops answer s
      exact ⟨imp _ _ _ here, inductionHypothesis answer s later⟩

theorem StopsWell.imp {wider : List (Exchange Q A) → Q ⊕ ρ → σ → Prop}
    (imp : ∀ talk shown s, fits talk shown s → wider talk shown s)
    {segment : Segment σ Q A ρ} (stops : StopsWell fits talk segment) :
    StopsWell wider talk segment :=
  ⟨imp _ _ _ stops.here, stops.later.imp imp⟩

theorem stopsWell_done {result : ρ} (here : fits talk (.inr result) s) :
    StopsWell fits talk (s, .done result) := ⟨here, trivial⟩

theorem stopsWell_pause {question : Q} {resume : A question → σ → Segment σ Q A ρ}
    (here : fits talk (.inl question) s)
    (later : ∀ answer s', StopsWell fits (talk ++ [⟨question, answer⟩]) (resume answer s')) :
    StopsWell fits talk (s, pause question resume) where
  here := here
  later := fun answer s' => ⟨(later answer s').here, (later answer s').later⟩

end Coroutine

namespace Pool

variable {ι σ Q : Type} {A : Q → Type} {ρ : Type} [DecidableEq ι]

/-- The state a thread finds at its first move of a schedule. -/
def firstState (i : ι) (pool : Pool ι σ Q A ρ) : List (Move ι Q A) → Option σ
  | [] => none
  | move :: rest =>
      if move.thread = i then some pool.state else firstState i (pool.step move) rest

section Stopping

variable {pool : Pool ι σ Q A ρ} {i : ι} {fits : List (Exchange Q A) → Q ⊕ ρ → σ → Prop}
  {before : List (Exchange Q A)}

/-- A move of a thread that waits ends in a stop that fits, and what is left of
the thread stops well again. -/
theorem stops_step (stops : (pool.threads i).Stops fits before) {move : Move ι Q A}
    (own : move.thread = i) {asked : Q} (waits : pool.waitsFor? i = some asked) :
    fits (before ++ pool.said i move) ((pool.step move).threads i).shows (pool.step move).state ∧
      ((pool.step move).threads i).Stops fits (before ++ pool.said i move) := by
  subst own
  obtain ⟨leave, next, thread⟩ := waitsFor?_eq_some waits
  rw [thread] at stops
  rw [said, if_pos rfl, exchange?_await thread, step_await thread]
  dsimp only
  rw [Function.update_self]
  exact stops _ _

/-- A thread stops well along every schedule. -/
theorem stops_run (stops : (pool.threads i).Stops fits before) (schedule : List (Move ι Q A)) :
    ((pool.run schedule).threads i).Stops fits (before ++ pool.talk i schedule) := by
  induction schedule using List.reverseRecOn with
  | nil =>
      rw [talk, List.append_nil]
      exact stops
  | append_singleton schedule move inductionHypothesis =>
      rw [run_concat, talk_concat, ← List.append_assoc]
      by_cases own : move.thread = i
      · cases waits : (pool.run schedule).waitsFor? i with
        | some asked => exact (stops_step inductionHypothesis own waits).2
        | none =>
            subst own
            cases thread : (pool.run schedule).threads move.thread with
            | done result =>
                rw [step_done thread, said, exchange?_done thread, thread]
                exact trivial
            | await question leave next =>
                rw [waitsFor?, thread] at waits
                cases waits
      · rw [said, if_neg own, List.append_nil, threads_step_of_ne own]
        exact inductionHypothesis

/-- A thread whose first segment depends on the state it finds: every stop fits
what it found, the conversation and the state of the pool. -/
theorem fits_of_firstState {fits : σ → List (Exchange Q A) → Q ⊕ ρ → σ → Prop}
    {question : Q} {resume : A question → σ → Coroutine.Segment σ Q A ρ}
    (start : pool.threads i = Coroutine.pause question resume)
    (stops : ∀ answer s, Coroutine.StopsWell (fits s) [⟨question, answer⟩] (resume answer s))
    (schedule : List (Move ι Q A)) {move : Move ι Q A} (own : move.thread = i) {asked : Q}
    (waits : (pool.run schedule).waitsFor? i = some asked) :
    ∃ found, pool.firstState i (schedule ++ [move]) = some found ∧
      fits found (pool.talk i (schedule ++ [move]))
        ((pool.run (schedule ++ [move])).threads i).shows
        (pool.run (schedule ++ [move])).state := by
  induction schedule generalizing pool with
  | nil =>
      subst own
      refine ⟨pool.state, if_pos rfl, ?_⟩
      have here := (stops (move.answer question) pool.state).here
      rw [List.nil_append, talk, talk, List.append_nil, said, if_pos rfl, exchange?_await start]
      change fits _ _ ((pool.step move).threads move.thread).shows (pool.step move).state
      rw [step_await start]
      dsimp only
      rw [Function.update_self]
      exact here
  | cons first rest inductionHypothesis =>
      rw [List.cons_append, talk, run, List.foldl_cons]
      by_cases isFirst : first.thread = i
      · subst isFirst
        refine ⟨pool.state, if_pos rfl, ?_⟩
        have thread : ((pool.step first).threads first.thread).Stops (fits pool.state)
            [⟨question, first.answer question⟩] := by
          rw [step_await start]
          dsimp only
          rw [Function.update_self]
          exact (stops (first.answer question) pool.state).later
        rw [said, if_pos rfl, exchange?_await start, talk_concat]
        have stepped := (stops_step (stops_run thread rest) own waits).1
        rw [List.append_assoc] at stepped
        change fits pool.state _ (((pool.step first).run (rest ++ [move])).threads _).shows
          ((pool.step first).run (rest ++ [move])).state
        rw [run_concat]
        exact stepped
      · have later : (pool.step first).threads i = Coroutine.pause question resume := by
          rw [threads_step_of_ne isFirst, start]
        rw [firstState, if_neg isFirst, said, if_neg isFirst, List.nil_append]
        exact inductionHypothesis later waits

/-- A thread whose first segment depends on the state it finds: from there on it
keeps to the protocol for what it found. -/
theorem follows_of_firstState {protocol : σ → Protocol σ Q A} {question : Q}
    {resume : A question → σ → Coroutine.Segment σ Q A ρ}
    (start : pool.threads i = Coroutine.pause question resume)
    (follows : ∀ answer s, (resume answer s).2.Follows (protocol s) [⟨question, answer⟩])
    (schedule : List (Move ι Q A)) {found : σ}
    (isFound : pool.firstState i schedule = some found) :
    ∃ answer rest, pool.talk i schedule = ⟨question, answer⟩ :: rest ∧
      (∀ earlier exchange later, rest = earlier ++ exchange :: later →
        (protocol found).asks (⟨question, answer⟩ :: earlier) exchange.question) ∧
      ((pool.run schedule).threads i).Follows (protocol found) (pool.talk i schedule) := by
  induction schedule generalizing pool with
  | nil => cases isFound
  | cons move rest inductionHypothesis =>
      rw [firstState] at isFound
      rw [talk, run, List.foldl_cons]
      by_cases own : move.thread = i
      · subst own
        rw [if_pos rfl, Option.some.injEq] at isFound
        subst isFound
        have resumed : ((pool.step move).threads move.thread).Follows (protocol pool.state)
            [⟨question, move.answer question⟩] := by
          rw [step_await start]
          dsimp only
          rw [Function.update_self]
          exact follows (move.answer question) pool.state
        rw [said, if_pos rfl, exchange?_await start]
        exact ⟨move.answer question, _, rfl, fun earlier exchange later split =>
          asks_talk resumed rest split, follows_run resumed rest⟩
      · rw [if_neg own] at isFound
        have later : (pool.step move).threads i = Coroutine.pause question resume := by
          rw [threads_step_of_ne own, start]
        rw [said, if_neg own, List.nil_append]
        exact inductionHypothesis later isFound

end Stopping

end Pool

end AutoRouteGateway.Library
