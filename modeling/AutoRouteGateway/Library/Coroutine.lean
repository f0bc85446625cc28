import Mathlib.Logic.Function.Basic

/-!
Contract: coroutines on a shared state, and pools of them.

A coroutine runs without interruption from one question to the next. While it
waits for an answer, whatever else uses the state may change it.

Owns: driving one coroutine by an environment that answers and interferes, the
steps of a pool under an arbitrary schedule, and the rule that turns a property
of every single coroutine into one of every run of a pool.
-/

namespace AutoRouteGateway.Library

/-- A computation over the state `σ`: it is over, or it waits for the answer to
a question. Resumed in a state, it leaves another one and goes on. -/
inductive Coroutine (σ Q : Type) (A : Q → Type) (ρ : Type) where
  | done (result : ρ)
  | await (question : Q) (leave : A question → σ → σ)
      (next : A question → σ → Coroutine σ Q A ρ)

namespace Coroutine

variable {σ Q : Type} {A : Q → Type} {ρ : Type}

/-- A run from one question to the next: the state it leaves, and what is left to do. -/
abbrev Segment (σ Q : Type) (A : Q → Type) (ρ : Type) := σ × Coroutine σ Q A ρ

/-- Ask, then run the segment that the answer leads to. -/
def pause (question : Q) (resume : A question → σ → Segment σ Q A ρ) : Coroutine σ Q A ρ :=
  .await question (fun answer s => (resume answer s).1) (fun answer s => (resume answer s).2)

/-! ## One coroutine -/

/-- What an environment sees of a coroutine it drives to the end: the questions
with the states they were asked in, the result, and the state left. -/
structure Driven (σ Q ρ : Type) where
  asked : List (Q × σ)
  result : ρ
  state : σ

/-- Every question is answered in the state it is asked in, and the environment
says in which state the coroutine is resumed. -/
def drive (environment : (question : Q) → σ → A question × σ) :
    Coroutine σ Q A ρ → σ → Driven σ Q ρ
  | .done result, s => ⟨[], result, s⟩
  | .await question leave next, s =>
      let reply := environment question s
      let later := drive environment (next reply.1 reply.2) (leave reply.1 reply.2)
      { later with asked := (question, s) :: later.asked }

theorem drive_pause (environment : (question : Q) → σ → A question × σ) (question : Q)
    (resume : A question → σ → Segment σ Q A ρ) (s : σ) :
    drive environment (pause question resume) s =
      let segment := resume (environment question s).1 (environment question s).2
      let later := drive environment segment.2 segment.1
      { later with asked := (question, s) :: later.asked } := rfl

/-- The question asked next, if there is one, is a good one to ask in the state. -/
def Asks (good : Q → σ → Prop) : Coroutine σ Q A ρ → σ → Prop
  | .done _, _ => True
  | .await question _ _, s => good question s

/-- Resumed by any answer in any state, the coroutine asks a good question next
exactly when the answer was allowed, now and ever after. -/
def Meets (good : Q → σ → Prop) (allowed : (question : Q) → A question → σ → Prop) :
    Coroutine σ Q A ρ → Prop
  | .done _ => True
  | .await question leave next => ∀ answer s,
      (Asks good (next answer s) (leave answer s) ↔ allowed question answer s) ∧
        Meets good allowed (next answer s)

section Rules

variable {good : Q → σ → Prop} {allowed : (question : Q) → A question → σ → Prop}

theorem asks_pause {question : Q} {resume : A question → σ → Segment σ Q A ρ} {s : σ} :
    Asks good (pause question resume) s ↔ good question s := Iff.rfl

theorem meets_pause {question : Q} {resume : A question → σ → Segment σ Q A ρ} :
    Meets good allowed (pause question resume) ↔ ∀ answer s,
      (Asks good (resume answer s).2 (resume answer s).1 ↔ allowed question answer s) ∧
        Meets good allowed (resume answer s).2 := Iff.rfl

end Rules

end Coroutine

/-! ## Pools -/

/-- Coroutines on one state, of which any may be the next to be resumed. -/
structure Pool (ι σ Q : Type) (A : Q → Type) (ρ : Type) where
  state : σ
  threads : ι → Coroutine σ Q A ρ

/-- The thread that moves, with the answer to whatever it asked. -/
structure Move (ι Q : Type) (A : Q → Type) where
  thread : ι
  answer : (question : Q) → A question

namespace Pool

variable {ι σ Q : Type} {A : Q → Type} {ρ : Type} [DecidableEq ι]

/-- One thread runs from its question to its next one. -/
def step (pool : Pool ι σ Q A ρ) (move : Move ι Q A) : Pool ι σ Q A ρ :=
  match pool.threads move.thread with
  | .done _ => pool
  | .await question leave next =>
      { state := leave (move.answer question) pool.state
        threads := Function.update pool.threads move.thread
          (next (move.answer question) pool.state) }

theorem step_done {pool : Pool ι σ Q A ρ} {move : Move ι Q A} {result : ρ}
    (finished : pool.threads move.thread = .done result) : pool.step move = pool := by
  rw [step, finished]

theorem step_await {pool : Pool ι σ Q A ρ} {move : Move ι Q A} {question : Q}
    {leave : A question → σ → σ} {next : A question → σ → Coroutine σ Q A ρ}
    (waits : pool.threads move.thread = .await question leave next) :
    pool.step move =
      { state := leave (move.answer question) pool.state
        threads := Function.update pool.threads move.thread
          (next (move.answer question) pool.state) } := by
  rw [step, waits]

def run (pool : Pool ι σ Q A ρ) (schedule : List (Move ι Q A)) : Pool ι σ Q A ρ :=
  schedule.foldl step pool

/-- Every move of the schedule is made in a state of the pool in which it may be made. -/
def Along (pool : Pool ι σ Q A ρ) (holds : Pool ι σ Q A ρ → Move ι Q A → Prop)
    (schedule : List (Move ι Q A)) : Prop :=
  ∀ earlier move later, schedule = earlier ++ move :: later → holds (pool.run earlier) move

/-- The thread that moved has a good question to ask in the state it left. -/
def MovedWell (good : ι → Q → σ → Prop) (pool : Pool ι σ Q A ρ) (move : Move ι Q A) : Prop :=
  ((pool.step move).threads move.thread).Asks (good move.thread) (pool.step move).state

/-- The answer of the move is allowed in the state it is given in. -/
def Allows (allowed : ι → (question : Q) → A question → σ → Prop) (pool : Pool ι σ Q A ρ)
    (move : Move ι Q A) : Prop :=
  match pool.threads move.thread with
  | .done _ => True
  | .await question _ _ => allowed move.thread question (move.answer question) pool.state

section Rules

variable {good : ι → Q → σ → Prop} {allowed : ι → (question : Q) → A question → σ → Prop}
  {pool : Pool ι σ Q A ρ}

/-- What every thread meets, every thread meets after a move. -/
theorem meets_step (meets : ∀ i, (pool.threads i).Meets (good i) (allowed i))
    (move : Move ι Q A) (i : ι) :
    ((pool.step move).threads i).Meets (good i) (allowed i) := by
  cases moved : pool.threads move.thread with
  | done result =>
      rw [step_done moved]
      exact meets i
  | await question leave next =>
      have own := meets move.thread
      rw [moved] at own
      rw [step_await moved]
      by_cases same : i = move.thread
      · subst same
        dsimp only
        rw [Function.update_self]
        exact (own _ _).2
      · dsimp only
        rw [Function.update_of_ne same]
        exact meets i

theorem meets_run (meets : ∀ i, (pool.threads i).Meets (good i) (allowed i))
    (schedule : List (Move ι Q A)) (i : ι) :
    ((pool.run schedule).threads i).Meets (good i) (allowed i) := by
  induction schedule generalizing pool with
  | nil => exact meets i
  | cons move rest inductionHypothesis => exact inductionHypothesis (meets_step meets move)

theorem movedWell_iff_allows (meets : ∀ i, (pool.threads i).Meets (good i) (allowed i))
    (move : Move ι Q A) : MovedWell good pool move ↔ Allows allowed pool move := by
  have own := meets move.thread
  unfold MovedWell Allows
  cases moved : pool.threads move.thread with
  | done result =>
      rw [step_done moved, moved]
      exact Iff.rfl
  | await question leave next =>
      rw [moved] at own
      rw [step_await moved]
      dsimp only
      rw [Function.update_self]
      exact (own _ _).1

/-- In every run of a pool the threads ask good questions only, exactly when
every answer they get is allowed. -/
theorem along_movedWell_iff (meets : ∀ i, (pool.threads i).Meets (good i) (allowed i))
    (schedule : List (Move ι Q A)) :
    pool.Along (MovedWell good) schedule ↔ pool.Along (Allows allowed) schedule := by
  have each : ∀ earlier move, MovedWell good (pool.run earlier) move ↔
      Allows allowed (pool.run earlier) move :=
    fun earlier move => movedWell_iff_allows (meets_run meets earlier) move
  constructor
  · intro well earlier move later split
    exact (each earlier move).mp (well earlier move later split)
  · intro allows earlier move later split
    exact (each earlier move).mpr (allows earlier move later split)

end Rules

end Pool

end AutoRouteGateway.Library
