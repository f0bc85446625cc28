import Mathlib.Data.Prod.Basic
import AutoRouteGateway.Library.Protocol

/-!
Contract: a process that stops and starts again on the state it left.

Each life of the process has threads and a schedule of its own, and starts in
the state in which the last life stopped, wherever that was. All lives together
are one run of one pool, in which the threads of a later life have not moved yet
and those of an earlier one never move again.

Owns: pools inside larger pools, the lives of a process, and the one pool they
are a run of.
-/

namespace AutoRouteGateway.Library

/-- The move of a thread, under its place in a larger pool. -/
def Move.placed {ι κ Q : Type} {A : Q → Type} (place : ι → κ) (move : Move ι Q A) :
    Move κ Q A :=
  ⟨place move.thread, move.answer⟩

namespace Pool

variable {ι κ σ Q : Type} {A : Q → Type} {ρ : Type}

section Talks

variable [DecidableEq ι]

theorem run_append (pool : Pool ι σ Q A ρ) (first second : List (Move ι Q A)) :
    pool.run (first ++ second) = (pool.run first).run second :=
  List.foldl_append

theorem talk_append (pool : Pool ι σ Q A ρ) (i : ι) (first second : List (Move ι Q A)) :
    pool.talk i (first ++ second) = pool.talk i first ++ (pool.run first).talk i second := by
  induction first generalizing pool with
  | nil => rfl
  | cons move rest inductionHypothesis =>
      rw [List.cons_append, talk, talk, inductionHypothesis, List.append_assoc]
      rfl

/-- A thread that does not move says nothing and stays as it is. -/
theorem unmoved {pool : Pool ι σ Q A ρ} {i : ι} {schedule : List (Move ι Q A)}
    (still : ∀ move ∈ schedule, move.thread ≠ i) :
    pool.talk i schedule = [] ∧ (pool.run schedule).threads i = pool.threads i := by
  induction schedule generalizing pool with
  | nil => exact ⟨rfl, rfl⟩
  | cons move rest inductionHypothesis =>
      have other := still move List.mem_cons_self
      have later : ∀ move ∈ rest, move.thread ≠ i :=
        fun move member => still move (List.mem_cons_of_mem _ member)
      obtain ⟨silent, kept⟩ := @inductionHypothesis (pool.step move) later
      constructor
      · rw [talk, said, if_neg other, silent]
        rfl
      · exact kept.trans (threads_step_of_ne other)

end Talks

/-! ## A pool inside another one -/

/-- The threads of the first pool are those of the second at their places. -/
structure Inside (place : ι → κ) (pool : Pool ι σ Q A ρ) (whole : Pool κ σ Q A ρ) : Prop where
  state : whole.state = pool.state
  threads : ∀ i, whole.threads (place i) = pool.threads i

section Inside

variable {place : ι → κ} {pool : Pool ι σ Q A ρ} {whole : Pool κ σ Q A ρ}

/-- What can be seen of a thread is the same in both pools. -/
theorem Inside.seen (inside : Inside place pool whole) (i : ι) :
    whole.waitsFor? (place i) = pool.waitsFor? i ∧
      whole.result? (place i) = pool.result? i := by
  unfold waitsFor? result?
  rw [inside.threads i]
  exact ⟨rfl, rfl⟩

variable [DecidableEq ι] [DecidableEq κ] (injective : Function.Injective place)

include injective

theorem Inside.step (inside : Inside place pool whole) (move : Move ι Q A) :
    Inside place (pool.step move) (whole.step (move.placed place)) := by
  have own : whole.threads (move.placed place).thread = pool.threads move.thread :=
    inside.threads move.thread
  cases waits : pool.threads move.thread with
  | done result =>
      rw [waits] at own
      rw [step_done waits, step_done own]
      exact inside
  | await question leave next =>
      rw [waits] at own
      rw [step_await waits, step_await own]
      constructor
      · dsimp only
        rw [inside.state]
        rfl
      · intro i
        dsimp only
        by_cases same : i = move.thread
        · subst same
          change Function.update whole.threads (place move.thread) _ (place move.thread) = _
          rw [Function.update_self, Function.update_self, inside.state]
          rfl
        · have other : place i ≠ (move.placed place).thread :=
            fun equal => same (injective equal)
          rw [Function.update_of_ne same, Function.update_of_ne other]
          exact inside.threads i

theorem Inside.said (inside : Inside place pool whole) (i : ι) (move : Move ι Q A) :
    whole.said (place i) (move.placed place) = pool.said i move := by
  have own : whole.exchange? (move.placed place) = pool.exchange? move := by
    unfold exchange?
    rw [show whole.threads (move.placed place).thread = pool.threads move.thread from
      inside.threads move.thread]
    rfl
  unfold Pool.said
  rw [own]
  by_cases same : move.thread = i
  · rw [if_pos same, if_pos (show (move.placed place).thread = place i from congrArg place same)]
  · rw [if_neg same, if_neg (show (move.placed place).thread ≠ place i from
      fun equal => same (injective equal))]

/-- The larger pool runs the smaller one. -/
theorem Inside.run (inside : Inside place pool whole) (schedule : List (Move ι Q A)) :
    Inside place (pool.run schedule) (whole.run (schedule.map (Move.placed place))) ∧
      ∀ i, whole.talk (place i) (schedule.map (Move.placed place)) = pool.talk i schedule := by
  induction schedule generalizing pool whole with
  | nil => exact ⟨inside, fun i => rfl⟩
  | cons move rest inductionHypothesis =>
      obtain ⟨after, talks⟩ := inductionHypothesis (inside.step injective move)
      refine ⟨after, ?_⟩
      intro i
      rw [List.map_cons, talk, talk, inside.said injective, talks]

end Inside

end Pool

/-! ## Lives -/

/-- One life of a process: its threads, and how they move before it stops. -/
structure Life (ι σ Q : Type) (A : Q → Type) (ρ : Type) where
  threads : ι → Coroutine σ Q A ρ
  schedule : List (Move ι Q A)

namespace Life

variable {ι σ Q : Type} {A : Q → Type} {ρ : Type}

/-- The life begins in a state. -/
def begun (life : Life ι σ Q A ρ) (s : σ) : Pool ι σ Q A ρ := ⟨s, life.threads⟩

variable (lives : Nat → Life ι σ Q A ρ) (start : σ)

/-- The threads of all lives. -/
def together : Pool (Nat × ι) σ Q A ρ := ⟨start, fun place => (lives place.1).threads place.2⟩

/-- The moves of the first lives, one life after the other. -/
def movesOf : Nat → List (Move (Nat × ι) Q A)
  | 0 => []
  | count + 1 => movesOf count ++ (lives count).schedule.map (Move.placed (count, ·))

/-- No thread moves before its life begins. -/
theorem unmoved_movesOf {count place : Nat} (notBegun : count ≤ place) (i : ι) :
    ∀ move ∈ movesOf lives count, move.thread ≠ (place, i) := by
  intro move member equal
  induction count with
  | zero => cases member
  | succ count inductionHypothesis =>
      rcases List.mem_append.mp member with earlier | last
      · exact inductionHypothesis (Nat.le_of_succ_le notBegun) earlier
      · obtain ⟨own, -, rfl⟩ := List.mem_map.mp last
        exact Nat.ne_of_lt notBegun (congrArg Prod.fst equal)

variable [DecidableEq ι]

/-- The state the first lives leave, each begun where the last one stopped. -/
def stateAfter : Nat → σ
  | 0 => start
  | count + 1 => (((lives count).begun (stateAfter count)).run (lives count).schedule).state

/-- Before its first move, a life is inside the one pool as it begins. -/
theorem inside_together (count : Nat)
    (state : ((together lives start).run (movesOf lives count)).state =
      stateAfter lives start count) :
    Pool.Inside (count, ·) ((lives count).begun (stateAfter lives start count))
      ((together lives start).run (movesOf lives count)) where
  state := state
  threads := fun i => (Pool.unmoved (unmoved_movesOf lives (Nat.le_refl count) i)).2

/-- The lives are a run of one pool: it is in the state they leave, and every
thread of a life has the conversation it has in the one pool, where it is left. -/
theorem run_together (count : Nat) :
    ((together lives start).run (movesOf lives count)).state = stateAfter lives start count ∧
      Pool.Inside (count, ·)
        (((lives count).begun (stateAfter lives start count)).run (lives count).schedule)
        ((together lives start).run (movesOf lives (count + 1))) ∧
      ∀ i, (together lives start).talk (count, i) (movesOf lives (count + 1)) =
        ((lives count).begun (stateAfter lives start count)).talk i (lives count).schedule := by
  have state : ((together lives start).run (movesOf lives count)).state =
      stateAfter lives start count := by
    induction count with
    | zero => rfl
    | succ count inductionHypothesis =>
        rw [movesOf, Pool.run_append]
        exact ((inside_together lives start count inductionHypothesis).run
          (Prod.mk_right_injective count) _).1.state
  obtain ⟨after, talks⟩ := (inside_together lives start count state).run
    (Prod.mk_right_injective count) (lives count).schedule
  refine ⟨state, ?_, ?_⟩
  · rw [movesOf, Pool.run_append]
    exact after
  · intro i
    have still := unmoved_movesOf lives (Nat.le_refl count) i
    rw [movesOf, Pool.talk_append, (Pool.unmoved still).1, List.nil_append, talks]

end Life

end AutoRouteGateway.Library
