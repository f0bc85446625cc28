import Mathlib.Data.List.Forall2
import AutoRouteGateway.Library.Protocol

/-!
Contract: coroutines that cannot tell two states, or two answers, apart.

A relation between states and one between answers carry over to coroutines:
answered alike in states that are alike, they ask the same questions and leave
states that are alike. Threads that do so go through the same conversations, on
two implementations of the state, beside other threads that keep the relation,
or with answers that differ in what nobody looks at.

Owns: bisimilar coroutines, pools that agree on some of their threads, and the
unwinding of a schedule into that of those threads.
-/

namespace AutoRouteGateway.Library

variable {σ σ' Q : Type} {A : Q → Type} {ρ : Type}

/-- Resumed by answers that are alike in states that are alike, the coroutines
leave states that are alike and go on in the same way. -/
inductive Coroutine.Bisimilar (alike : σ → σ' → Prop)
    (answers : (question : Q) → A question → A question → Prop) :
    Coroutine σ Q A ρ → Coroutine σ' Q A ρ → Prop
  | done (result : ρ) : Bisimilar alike answers (.done result) (.done result)
  | await {question : Q} {leave : A question → σ → σ} {next : A question → σ → Coroutine σ Q A ρ}
      {leave' : A question → σ' → σ'} {next' : A question → σ' → Coroutine σ' Q A ρ}
      (left : ∀ answer answer' s s', answers question answer answer' → alike s s' →
        alike (leave answer s) (leave' answer' s'))
      (goesOn : ∀ answer answer' s s', answers question answer answer' → alike s s' →
        Bisimilar alike answers (next answer s) (next' answer' s')) :
      Bisimilar alike answers (.await question leave next) (.await question leave' next')

/-- Segments that leave states that are alike and go on in the same way. -/
structure Coroutine.SegmentsAlike (alike : σ → σ' → Prop)
    (answers : (question : Q) → A question → A question → Prop) (segment : Segment σ Q A ρ)
    (segment' : Segment σ' Q A ρ) : Prop where
  state : alike segment.1 segment'.1
  goesOn : Bisimilar alike answers segment.2 segment'.2

namespace Coroutine

variable {alike : σ → σ' → Prop} {answers : (question : Q) → A question → A question → Prop}

theorem bisimilar_pause {question : Q} {resume : A question → σ → Segment σ Q A ρ}
    {resume' : A question → σ' → Segment σ' Q A ρ}
    (resumes : ∀ answer answer' s s', answers question answer answer' → alike s s' →
      SegmentsAlike alike answers (resume answer s) (resume' answer' s')) :
    Bisimilar alike answers (pause question resume) (pause question resume') :=
  .await (fun answer answer' s s' told same => (resumes answer answer' s s' told same).state)
    (fun answer answer' s s' told same => (resumes answer answer' s s' told same).goesOn)

theorem SegmentsAlike.done {s : σ} {s' : σ'} (same : alike s s') (result : ρ) :
    SegmentsAlike alike answers (s, .done result) (s', .done result) :=
  ⟨same, .done result⟩

/-- Where answers that are alike go on alike, so do answers that are the same. -/
theorem Bisimilar.sameAnswers (reflexive : ∀ question answer, answers question answer answer)
    {coroutine : Coroutine σ Q A ρ} {coroutine' : Coroutine σ' Q A ρ}
    (bisimilar : Bisimilar alike answers coroutine coroutine') :
    Bisimilar alike (fun _ answer answer' => answer = answer') coroutine coroutine' := by
  induction bisimilar with
  | done result => exact .done result
  | await left goesOn inductionHypothesis =>
      refine .await ?_ ?_
      · rintro answer _ s s' rfl same
        exact left answer answer s s' (reflexive _ answer) same
      · rintro answer _ s s' rfl same
        exact inductionHypothesis answer answer s s' (reflexive _ answer) same

end Coroutine

/-- The protocol of a thread of which only the effect on the state matters. -/
def Protocol.hidden (A : Q → Type) (keeps : σ → σ → Prop) : Protocol σ Q A where
  asks := fun _ _ => True
  effect := fun _ _ _ s t => keeps s t

/-- The same question, with answers that are alike. -/
inductive ExchangeAlike (answers : (question : Q) → A question → A question → Prop) :
    Exchange Q A → Exchange Q A → Prop
  | of {question : Q} {answer answer' : A question} (told : answers question answer answer') :
      ExchangeAlike answers ⟨question, answer⟩ ⟨question, answer'⟩

theorem questions_of_alike {answers : (question : Q) → A question → A question → Prop}
    {talk talk' : List (Exchange Q A)} (same : List.Forall₂ (ExchangeAlike answers) talk talk') :
    talk.map Exchange.question = talk'.map Exchange.question := by
  induction same with
  | nil => rfl
  | cons first rest inductionHypothesis =>
      obtain ⟨-⟩ := first
      rw [List.map_cons, List.map_cons, inductionHypothesis]

theorem eq_of_alike {talk talk' : List (Exchange Q A)}
    (same : List.Forall₂ (ExchangeAlike fun _ answer answer' => answer = answer') talk talk') :
    talk = talk' := by
  refine List.forall₂_eq_eq_eq ▸ same.imp ?_
  rintro first second ⟨rfl⟩
  rfl

namespace Pool

variable {ι : Type}

/-- The same thread moves, with answers that are alike. -/
structure MovesAlike (answers : (question : Q) → A question → A question → Prop)
    (move move' : Move ι Q A) : Prop where
  thread : move.thread = move'.thread
  told : ∀ question, answers question (move.answer question) (move'.answer question)

/-- The pools agree on the threads inside, and their states are alike. -/
structure Agree (alike : σ → σ' → Prop)
    (answers : (question : Q) → A question → A question → Prop) (inside : ι → Prop)
    (pool : Pool ι σ Q A ρ) (pool' : Pool ι σ' Q A ρ) : Prop where
  state : alike pool.state pool'.state
  threads : ∀ i, inside i → (pool.threads i).Bisimilar alike answers (pool'.threads i)

section Rules

variable {alike : σ → σ' → Prop} {answers : (question : Q) → A question → A question → Prop}
  {inside : ι → Prop} {pool : Pool ι σ Q A ρ} {pool' : Pool ι σ' Q A ρ}

theorem forall₂_movesAlike_refl (reflexive : ∀ question answer, answers question answer answer)
    (schedule : List (Move ι Q A)) :
    List.Forall₂ (MovesAlike answers) schedule schedule :=
  List.forall₂_same.mpr fun _ _ => ⟨rfl, fun _ => reflexive _ _⟩

/-- What can be seen of a thread inside is the same in both pools. -/
theorem Agree.seen (agree : Agree alike answers inside pool pool') {i : ι}
    (isInside : inside i) :
    pool.waitsFor? i = pool'.waitsFor? i ∧ pool.result? i = pool'.result? i := by
  have bisimilar := agree.threads i isInside
  unfold waitsFor? result?
  generalize pool.threads i = thread at bisimilar ⊢
  generalize pool'.threads i = thread' at bisimilar ⊢
  cases bisimilar <;> exact ⟨rfl, rfl⟩

variable [DecidableEq ι]

theorem Agree.said (agree : Agree alike answers inside pool pool') {i : ι}
    {move move' : Move ι Q A} (moves : MovesAlike answers move move') (isInside : inside i) :
    List.Forall₂ (ExchangeAlike answers) (pool.said i move) (pool'.said i move') := by
  unfold Pool.said
  rw [moves.thread]
  split_ifs with isOwn
  · subst isOwn
    have bisimilar := agree.threads move'.thread isInside
    unfold exchange?
    rw [moves.thread]
    generalize pool.threads move'.thread = thread at bisimilar ⊢
    generalize pool'.threads move'.thread = thread' at bisimilar ⊢
    cases bisimilar with
    | done result => exact .nil
    | await left goesOn => exact .cons (.of (moves.told _)) .nil
  · exact .nil

/-- A move inside is the same move in both pools. -/
theorem Agree.step_inside (agree : Agree alike answers inside pool pool')
    {move move' : Move ι Q A} (moves : MovesAlike answers move move')
    (isInside : inside move.thread) :
    Agree alike answers inside (pool.step move) (pool'.step move') := by
  have bisimilar := agree.threads move.thread isInside
  cases waits : pool.threads move.thread with
  | done result =>
      cases waits' : pool'.threads move'.thread with
      | done result' =>
          rw [step_done waits, step_done waits']
          exact agree
      | await question leave next =>
          rw [waits, moves.thread, waits'] at bisimilar
          cases bisimilar
  | await question leave next =>
      cases waits' : pool'.threads move'.thread with
      | done result' =>
          rw [waits, moves.thread, waits'] at bisimilar
          cases bisimilar
      | await question' leave' next' =>
          rw [waits, moves.thread, waits'] at bisimilar
          cases bisimilar with
          | await left goesOn =>
              rw [step_await waits, step_await waits', ← moves.thread]
              refine ⟨left _ _ _ _ (moves.told _) agree.state, ?_⟩
              intro i isIn
              dsimp only
              by_cases isOwn : i = move.thread
              · subst isOwn
                rw [Function.update_self, Function.update_self]
                exact goesOn _ _ _ _ (moves.told _) agree.state
              · rw [Function.update_of_ne isOwn, Function.update_of_ne isOwn]
                exact agree.threads i isIn

variable {keeps : σ → σ → Prop}

/-- A move outside is not noticed inside. -/
theorem Agree.step_outside (unnoticed : ∀ s t s', keeps s t → alike s s' → alike t s')
    (agree : Agree alike answers inside pool pool') {before : List (Exchange Q A)}
    {move : Move ι Q A} (hidden : (pool.threads move.thread).Follows (.hidden A keeps) before)
    (isOutside : ¬ inside move.thread) : Agree alike answers inside (pool.step move) pool' := by
  constructor
  · cases waits : pool.threads move.thread with
    | done result =>
        rw [step_done waits]
        exact agree.state
    | await question leave next =>
        rw [waits] at hidden
        rw [step_await waits]
        exact unnoticed _ _ _ (hidden.2 _ _).1 agree.state
  · intro i isIn
    rw [threads_step_of_ne]
    · exact agree.threads i isIn
    · rintro rfl
      exact isOutside isIn

/-- The run of the threads inside is one they have without the others. -/
theorem Agree.run_filter [DecidablePred inside]
    (unnoticed : ∀ s t s', keeps s t → alike s s' → alike t s')
    (agree : Agree alike answers inside pool pool') {before : ι → List (Exchange Q A)}
    (hidden : ∀ i, ¬ inside i → (pool.threads i).Follows (.hidden A keeps) (before i))
    {schedule schedule' : List (Move ι Q A)}
    (moves : List.Forall₂ (MovesAlike answers)
      (schedule.filter fun move => inside move.thread) schedule') :
    Agree alike answers inside (pool.run schedule) (pool'.run schedule') ∧
      ∀ i, inside i → List.Forall₂ (ExchangeAlike answers) (pool.talk i schedule)
        (pool'.talk i schedule') := by
  induction schedule generalizing pool pool' before schedule' with
  | nil =>
      cases moves
      exact ⟨agree, fun i isIn => .nil⟩
  | cons move rest inductionHypothesis =>
      have keepsHidden : ∀ i, ¬ inside i → ((pool.step move).threads i).Follows
          (.hidden A keeps) (before i ++ pool.said i move) :=
        fun i isOutside => follows_step (hidden i isOutside) move
      by_cases isInside : inside move.thread
      · rw [List.filter_cons_of_pos (by simpa using isInside)] at moves
        cases moves with
        | cons first later =>
            obtain ⟨states, talks⟩ := inductionHypothesis (agree.step_inside first isInside)
              keepsHidden later
            exact ⟨states, fun i isIn => List.rel_append (agree.said first isIn) (talks i isIn)⟩
      · rw [List.filter_cons_of_neg (by simpa using isInside)] at moves
        obtain ⟨states, talks⟩ := inductionHypothesis
          (agree.step_outside unnoticed (hidden _ isInside) isInside) keepsHidden moves
        refine ⟨states, ?_⟩
        intro i isIn
        have other : move.thread ≠ i := by
          rintro rfl
          exact isInside isIn
        rw [talk, Pool.said, if_neg other, List.nil_append]
        exact talks i isIn

/-- With the same answers, the conversations are the same as well. -/
theorem Agree.run_filter_same [DecidablePred inside]
    (reflexive : ∀ question answer, answers question answer answer)
    (unnoticed : ∀ s t s', keeps s t → alike s s' → alike t s')
    (agree : Agree alike answers inside pool pool') {before : ι → List (Exchange Q A)}
    (hidden : ∀ i, ¬ inside i → (pool.threads i).Follows (.hidden A keeps) (before i))
    (schedule : List (Move ι Q A)) :
    let own := schedule.filter fun move => inside move.thread
    alike (pool.run schedule).state (pool'.run own).state ∧
      ∀ i, inside i → pool.talk i schedule = pool'.talk i own ∧
        (pool.run schedule).waitsFor? i = (pool'.run own).waitsFor? i ∧
          (pool.run schedule).result? i = (pool'.run own).result? i := by
  have same : Agree alike (fun _ answer answer' => answer = answer') inside pool pool' :=
    ⟨agree.state, fun i isIn => (agree.threads i isIn).sameAnswers reflexive⟩
  obtain ⟨after, talks⟩ := same.run_filter unnoticed hidden
    (forall₂_movesAlike_refl (fun _ _ => rfl) _)
  exact ⟨after.state, fun i isIn => ⟨eq_of_alike (talks i isIn), after.seen isIn⟩⟩

/-- Pools of bisimilar threads have the same run. -/
theorem Agree.run (agree : Agree alike answers (fun _ => True) pool pool')
    {schedule schedule' : List (Move ι Q A)}
    (moves : List.Forall₂ (MovesAlike answers) schedule schedule') :
    Agree alike answers (fun _ => True) (pool.run schedule) (pool'.run schedule') ∧
      ∀ i, List.Forall₂ (ExchangeAlike answers) (pool.talk i schedule)
        (pool'.talk i schedule') := by
  induction moves generalizing pool pool' with
  | nil => exact ⟨agree, fun i => .nil⟩
  | cons first later inductionHypothesis =>
      obtain ⟨states, talks⟩ := inductionHypothesis (agree.step_inside first trivial)
      exact ⟨states, fun i => List.rel_append (agree.said first trivial) (talks i)⟩

theorem Agree.run_same (reflexive : ∀ question answer, answers question answer answer)
    (agree : Agree alike answers (fun _ => True) pool pool') (schedule : List (Move ι Q A)) :
    alike (pool.run schedule).state (pool'.run schedule).state ∧
      ∀ i, pool.talk i schedule = pool'.talk i schedule ∧
        (pool.run schedule).waitsFor? i = (pool'.run schedule).waitsFor? i ∧
          (pool.run schedule).result? i = (pool'.run schedule).result? i := by
  have same : Agree alike (fun _ answer answer' => answer = answer') (fun _ => True) pool pool' :=
    ⟨agree.state, fun i isIn => (agree.threads i isIn).sameAnswers reflexive⟩
  obtain ⟨after, talks⟩ := same.run (forall₂_movesAlike_refl (fun _ _ => rfl) schedule)
  exact ⟨after.state, fun i => ⟨eq_of_alike (talks i), after.seen trivial⟩⟩

end Rules

end Pool

end AutoRouteGateway.Library
