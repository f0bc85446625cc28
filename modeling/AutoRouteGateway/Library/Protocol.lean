import Mathlib.Data.List.Induction
import AutoRouteGateway.Library.Coroutine

/-!
Contract: protocols of coroutines, and what they say about pools.

A protocol says which questions may follow a conversation, and what answering
one may do to the shared state. A coroutine that follows it does so whatever it
is answered and in whatever state it is resumed, so it does so in every pool.

Owns: protocols, the conversations of the threads of a pool, and the rules that
carry a protocol, an invariant or an observation over every schedule.
-/

namespace AutoRouteGateway.Library

/-- A question with the answer it got. -/
structure Exchange (Q : Type) (A : Q → Type) where
  question : Q
  answer : A question

/-- What may be asked after a conversation, and how an answer may change the state. -/
structure Protocol (σ Q : Type) (A : Q → Type) where
  asks : List (Exchange Q A) → Q → Prop
  effect : List (Exchange Q A) → (question : Q) → A question → σ → σ → Prop

namespace Coroutine

variable {σ Q : Type} {A : Q → Type} {ρ : Type}

/-- From the conversation on, the coroutine keeps to the protocol. -/
def Follows (protocol : Protocol σ Q A) : List (Exchange Q A) → Coroutine σ Q A ρ → Prop
  | _, .done _ => True
  | talk, .await question leave next =>
      protocol.asks talk question ∧ ∀ answer s,
        protocol.effect talk question answer s (leave answer s) ∧
          Follows protocol (talk ++ [⟨question, answer⟩]) (next answer s)

variable {protocol : Protocol σ Q A} {talk : List (Exchange Q A)}

theorem follows_pause {question : Q} {resume : A question → σ → Segment σ Q A ρ} :
    Follows protocol talk (pause question resume) ↔
      protocol.asks talk question ∧ ∀ answer s,
        protocol.effect talk question answer s (resume answer s).1 ∧
          Follows protocol (talk ++ [⟨question, answer⟩]) (resume answer s).2 := Iff.rfl

/-- What follows a protocol follows every wider one. -/
theorem Follows.weaken {wider : Protocol σ Q A}
    (asks : ∀ talk question, protocol.asks talk question → wider.asks talk question)
    (effect : ∀ talk question answer s s', protocol.asks talk question →
      protocol.effect talk question answer s s' → wider.effect talk question answer s s')
    {coroutine : Coroutine σ Q A ρ} (follows : Follows protocol talk coroutine) :
    Follows wider talk coroutine := by
  induction coroutine generalizing talk with
  | done result => trivial
  | await question leave next inductionHypothesis =>
      refine ⟨asks _ _ follows.1, ?_⟩
      intro answer s
      exact ⟨effect _ _ _ _ _ follows.1 (follows.2 answer s).1,
        inductionHypothesis answer s (follows.2 answer s).2⟩

/-- Resumed in states of the invariant by allowed answers, the coroutine ends
with such a result only. -/
def EndsWell (holds : σ → Prop) (allowed : (question : Q) → A question → Prop)
    (well : ρ → Prop) : Coroutine σ Q A ρ → Prop
  | .done result => well result
  | .await question _ next => ∀ answer s, holds s → allowed question answer →
      EndsWell holds allowed well (next answer s)

theorem endsWell_pause {holds : σ → Prop} {allowed : (question : Q) → A question → Prop}
    {well : ρ → Prop} {question : Q} {resume : A question → σ → Segment σ Q A ρ} :
    EndsWell holds allowed well (pause question resume) ↔
      ∀ answer s, holds s → allowed question answer →
        EndsWell holds allowed well (resume answer s).2 := Iff.rfl

/-- From the conversation on, the coroutine ends only with results that the
whole conversation accounts for. -/
def Concludes (accounts : List (Exchange Q A) → ρ → Prop) :
    List (Exchange Q A) → Coroutine σ Q A ρ → Prop
  | talk, .done result => accounts talk result
  | talk, .await question _ next => ∀ answer s,
      Concludes accounts (talk ++ [⟨question, answer⟩]) (next answer s)

theorem concludes_pause {accounts : List (Exchange Q A) → ρ → Prop} {question : Q}
    {resume : A question → σ → Segment σ Q A ρ} :
    Concludes accounts talk (pause question resume) ↔ ∀ answer s,
      Concludes accounts (talk ++ [⟨question, answer⟩]) (resume answer s).2 := Iff.rfl

end Coroutine

namespace Pool

variable {ι σ Q : Type} {A : Q → Type} {ρ : Type}

/-- The exchange a move completes, unless its thread is over. -/
def exchange? (pool : Pool ι σ Q A ρ) (move : Move ι Q A) : Option (Exchange Q A) :=
  match pool.threads move.thread with
  | .done _ => none
  | .await question _ _ => some ⟨question, move.answer question⟩

/-- The question a thread waits with. -/
def waitsFor? (pool : Pool ι σ Q A ρ) (i : ι) : Option Q :=
  match pool.threads i with
  | .done _ => none
  | .await question _ _ => some question

/-- The result of a thread that is over. -/
def result? (pool : Pool ι σ Q A ρ) (i : ι) : Option ρ :=
  match pool.threads i with
  | .done result => some result
  | .await _ _ _ => none

section Waiting

variable {pool : Pool ι σ Q A ρ} {move : Move ι Q A} {question : Q}

theorem exchange?_done {result : ρ} (finished : pool.threads move.thread = .done result) :
    pool.exchange? move = none := by
  rw [exchange?, finished]

theorem exchange?_await {leave : A question → σ → σ}
    {next : A question → σ → Coroutine σ Q A ρ}
    (waits : pool.threads move.thread = .await question leave next) :
    pool.exchange? move = some ⟨question, move.answer question⟩ := by
  rw [exchange?, waits]

theorem waitsFor?_eq_some {i : ι} (waits : pool.waitsFor? i = some question) :
    ∃ leave next, pool.threads i = .await question leave next := by
  unfold waitsFor? at waits
  split at waits
  · cases waits
  · cases waits
    exact ⟨_, _, by assumption⟩

end Waiting

variable [DecidableEq ι]

/-- What a move adds to the conversation of a thread. -/
def said (pool : Pool ι σ Q A ρ) (i : ι) (move : Move ι Q A) : List (Exchange Q A) :=
  if move.thread = i then (pool.exchange? move).toList else []

/-- The conversation one thread has had along a schedule. -/
def talk (i : ι) (pool : Pool ι σ Q A ρ) : List (Move ι Q A) → List (Exchange Q A)
  | [] => []
  | move :: rest => pool.said i move ++ talk i (pool.step move) rest

/-- The exchanges of all threads along a schedule, in order. -/
def transcript (pool : Pool ι σ Q A ρ) : List (Move ι Q A) → List (ι × Exchange Q A)
  | [] => []
  | move :: rest =>
      ((pool.exchange? move).map (move.thread, ·)).toList ++ transcript (pool.step move) rest

section Steps

variable {pool : Pool ι σ Q A ρ} {move : Move ι Q A}

theorem threads_step_of_ne {i : ι} (other : move.thread ≠ i) :
    (pool.step move).threads i = pool.threads i := by
  cases waits : pool.threads move.thread with
  | done result => rw [step_done waits]
  | await question leave next =>
      rw [step_await waits]
      exact Function.update_of_ne (Ne.symm other) _ _

theorem run_concat (schedule : List (Move ι Q A)) (move : Move ι Q A) :
    pool.run (schedule ++ [move]) = (pool.run schedule).step move :=
  List.foldl_append

theorem talk_concat (schedule : List (Move ι Q A)) (move : Move ι Q A) (i : ι) :
    pool.talk i (schedule ++ [move]) = pool.talk i schedule ++ (pool.run schedule).said i move := by
  induction schedule generalizing pool with
  | nil => simp [talk, run]
  | cons first rest inductionHypothesis =>
      simp only [List.cons_append, talk, inductionHypothesis, List.append_assoc]
      rfl

theorem transcript_concat (schedule : List (Move ι Q A)) (move : Move ι Q A) :
    pool.transcript (schedule ++ [move]) =
      pool.transcript schedule ++
        (((pool.run schedule).exchange? move).map (move.thread, ·)).toList := by
  induction schedule generalizing pool with
  | nil => simp [transcript, run]
  | cons first rest inductionHypothesis =>
      simp only [List.cons_append, transcript, inductionHypothesis, List.append_assoc]
      rfl

end Steps

/-- Every answer of a conversation was given by a move of its thread. -/
theorem answer_of_mem_talk {pool : Pool ι σ Q A ρ} {i : ι} {schedule : List (Move ι Q A)}
    {exchange : Exchange Q A} (member : exchange ∈ pool.talk i schedule) :
    ∃ move ∈ schedule, move.thread = i ∧ move.answer exchange.question = exchange.answer := by
  induction schedule generalizing pool with
  | nil => cases member
  | cons move rest inductionHypothesis =>
      rcases List.mem_append.mp member with now | later
      · refine ⟨move, List.mem_cons_self, ?_⟩
        unfold said exchange? at now
        split at now
        · rename_i own
          split at now
          · cases now
          · rw [List.mem_singleton.mp now]
            exact ⟨own, rfl⟩
        · cases now
      · obtain ⟨other, isMove, told⟩ := inductionHypothesis later
        exact ⟨other, List.mem_cons_of_mem _ isMove, told⟩

/-- A thread that is not over has completed an exchange at each of its moves. -/
theorem length_talk {pool : Pool ι σ Q A ρ} {i : ι} {schedule : List (Move ι Q A)}
    (waits : (pool.run schedule).result? i = none) :
    (pool.talk i schedule).length = schedule.countP fun move => move.thread = i := by
  induction schedule using List.reverseRecOn with
  | nil => rfl
  | append_singleton schedule move inductionHypothesis =>
      rw [run_concat] at waits
      rw [talk_concat, List.length_append, List.countP_append]
      by_cases own : move.thread = i
      · subst own
        cases thread : (pool.run schedule).threads move.thread with
        | done result =>
            rw [step_done thread, result?, thread] at waits
            cases waits
        | await question leave next =>
            have waited : (pool.run schedule).result? move.thread = none := by
              rw [result?, thread]
            rw [inductionHypothesis waited, said, exchange?_await thread]
            simp
      · have waited : (pool.run schedule).result? i = none := by
          rw [result?, ← threads_step_of_ne own]
          exact waits
        rw [inductionHypothesis waited, said]
        simp [own]

section OneThread

variable {protocol : Protocol σ Q A} {pool : Pool ι σ Q A ρ} {i : ι}
  {before : List (Exchange Q A)}

/-- After a move a thread still keeps to its protocol. -/
theorem follows_step (follows : (pool.threads i).Follows protocol before) (move : Move ι Q A) :
    ((pool.step move).threads i).Follows protocol (before ++ pool.said i move) := by
  by_cases own : move.thread = i
  · subst own
    rw [said, if_pos rfl]
    cases waits : pool.threads move.thread with
    | done result =>
        rw [step_done waits, waits]
        trivial
    | await question leave next =>
        rw [waits] at follows
        rw [step_await waits, exchange?_await waits]
        dsimp only
        rw [Function.update_self]
        exact (follows.2 _ _).2
  · rw [said, if_neg own, List.append_nil, threads_step_of_ne own]
    exact follows

/-- A thread keeps to its protocol along every schedule. -/
theorem follows_run (follows : (pool.threads i).Follows protocol before)
    (schedule : List (Move ι Q A)) :
    ((pool.run schedule).threads i).Follows protocol (before ++ pool.talk i schedule) := by
  induction schedule generalizing pool before with
  | nil =>
      rw [talk, List.append_nil]
      exact follows
  | cons move rest inductionHypothesis =>
      have later := inductionHypothesis (follows_step follows move)
      rw [List.append_assoc] at later
      exact later

/-- What a thread waits with may follow its conversation. -/
theorem asks_run (follows : (pool.threads i).Follows protocol [])
    (schedule : List (Move ι Q A)) {question : Q}
    (waits : (pool.run schedule).waitsFor? i = some question) :
    protocol.asks (pool.talk i schedule) question := by
  have own := follows_run follows schedule
  obtain ⟨leave, next, thread⟩ := waitsFor?_eq_some waits
  rw [thread] at own
  exact own.1

/-- Every exchange of a conversation followed what came before it. -/
theorem asks_talk (follows : (pool.threads i).Follows protocol before)
    (schedule : List (Move ι Q A)) {earlier later : List (Exchange Q A)}
    {exchange : Exchange Q A} (split : pool.talk i schedule = earlier ++ exchange :: later) :
    protocol.asks (before ++ earlier) exchange.question := by
  induction schedule generalizing pool before earlier with
  | nil => simp [talk] at split
  | cons move rest inductionHypothesis =>
      have stepped := follows_step follows move
      rw [talk] at split
      cases own : pool.said i move with
      | nil =>
          rw [own, List.nil_append] at split
          have later := inductionHypothesis stepped split
          rwa [own, List.append_nil] at later
      | cons first more =>
          have isOwn : move.thread = i := by
            by_contra other
            rw [said, if_neg other] at own
            cases own
          subst isOwn
          rw [said, if_pos rfl] at own
          cases waits : pool.threads move.thread with
          | done result =>
              rw [exchange?_done waits] at own
              cases own
          | await question leave next =>
              rw [waits] at follows
              have spoken : pool.said move.thread move = [⟨question, move.answer question⟩] := by
                rw [said, if_pos rfl, exchange?_await waits]
                rfl
              rw [spoken, List.singleton_append] at split
              cases earlier with
              | nil =>
                  cases split
                  rw [List.append_nil]
                  exact follows.1
              | cons head earlier =>
                  obtain ⟨same, split⟩ := List.cons.inj split
                  have later := inductionHypothesis stepped split
                  rw [spoken, List.append_assoc, List.singleton_append, same] at later
                  exact later

/-- A move that completes an exchange has an effect of the protocol. -/
theorem effect_run {move : Move ι Q A} (follows : (pool.threads move.thread).Follows protocol [])
    (schedule : List (Move ι Q A)) {question : Q} {leave : A question → σ → σ}
    {next : A question → σ → Coroutine σ Q A ρ}
    (waits : (pool.run schedule).threads move.thread = .await question leave next) :
    protocol.asks (pool.talk move.thread schedule) question ∧
      protocol.effect (pool.talk move.thread schedule) question (move.answer question)
        (pool.run schedule).state ((pool.run schedule).step move).state := by
  have own := follows_run follows schedule
  rw [waits] at own
  rw [step_await waits]
  exact ⟨own.1, (own.2 _ _).1⟩

/-- The result of a thread is accounted for by its conversation. -/
theorem concludes_run {accounts : List (Exchange Q A) → ρ → Prop}
    (concludes : (pool.threads i).Concludes accounts before) (schedule : List (Move ι Q A)) :
    ((pool.run schedule).threads i).Concludes accounts (before ++ pool.talk i schedule) := by
  induction schedule using List.reverseRecOn with
  | nil =>
      rw [talk, List.append_nil]
      exact concludes
  | append_singleton schedule move inductionHypothesis =>
      rw [run_concat, talk_concat, said]
      by_cases own : move.thread = i
      · subst own
        rw [if_pos rfl]
        cases waits : (pool.run schedule).threads move.thread with
        | done result =>
            rw [step_done waits, exchange?_done waits, Option.toList_none, List.append_nil]
            exact inductionHypothesis
        | await question leave next =>
            rw [waits] at inductionHypothesis
            rw [step_await waits, exchange?_await waits, ← List.append_assoc]
            dsimp only
            rw [Function.update_self]
            exact inductionHypothesis _ _
      · rw [if_neg own, List.append_nil, threads_step_of_ne own]
        exact inductionHypothesis

theorem accounts_result {accounts : List (Exchange Q A) → ρ → Prop}
    (concludes : (pool.threads i).Concludes accounts []) {schedule : List (Move ι Q A)}
    {result : ρ} (isOver : (pool.run schedule).result? i = some result) :
    accounts (pool.talk i schedule) result := by
  have own := concludes_run concludes schedule
  unfold result? at isOver
  split at isOver
  · rename_i last thread
    cases isOver
    rw [thread] at own
    exact own
  · cases isOver

end OneThread

section AllThreads

variable {protocol : ι → Protocol σ Q A} {pool : Pool ι σ Q A ρ}

section Allowed

variable {holds : σ → Prop} {allowed : (question : Q) → A question → Prop}

/-- What no effect of an allowed answer breaks holds after every schedule with
allowed answers. -/
theorem invariant_run (follows : ∀ i, (pool.threads i).Follows (protocol i) [])
    (kept : ∀ i talk question answer s s', (protocol i).asks talk question →
      (protocol i).effect talk question answer s s' → allowed question answer →
      holds s → holds s')
    (start : holds pool.state) (schedule : List (Move ι Q A))
    (answers : ∀ made ∈ pool.transcript schedule, allowed made.2.question made.2.answer) :
    holds (pool.run schedule).state := by
  induction schedule using List.reverseRecOn with
  | nil => exact start
  | append_singleton schedule move inductionHypothesis =>
      rw [transcript_concat, List.forall_mem_append] at answers
      have before := inductionHypothesis answers.1
      rw [run_concat]
      cases waits : (pool.run schedule).threads move.thread with
      | done result =>
          rw [step_done waits]
          exact before
      | await question leave next =>
          obtain ⟨asks, effect⟩ := effect_run (follows move.thread) schedule waits
          rw [exchange?_await waits] at answers
          exact kept _ _ _ _ _ _ asks effect (answers.2 _ List.mem_cons_self) before

/-- In such a schedule a thread that ends well from the invariant on ends well. -/
theorem endsWell_run {well : ρ → Prop} {i : ι}
    (follows : ∀ i, (pool.threads i).Follows (protocol i) [])
    (kept : ∀ i talk question answer s s', (protocol i).asks talk question →
      (protocol i).effect talk question answer s s' → allowed question answer →
      holds s → holds s')
    (start : holds pool.state) (ends : (pool.threads i).EndsWell holds allowed well)
    (schedule : List (Move ι Q A))
    (answers : ∀ made ∈ pool.transcript schedule, allowed made.2.question made.2.answer) :
    ((pool.run schedule).threads i).EndsWell holds allowed well := by
  induction schedule using List.reverseRecOn with
  | nil => exact ends
  | append_singleton schedule move inductionHypothesis =>
      rw [transcript_concat, List.forall_mem_append] at answers
      have before := inductionHypothesis answers.1
      have held := invariant_run follows kept start schedule answers.1
      rw [run_concat]
      by_cases own : move.thread = i
      · subst own
        cases waits : (pool.run schedule).threads move.thread with
        | done result =>
            rw [step_done waits]
            exact before
        | await question leave next =>
            rw [exchange?_await waits] at answers
            rw [waits] at before
            rw [step_await waits]
            dsimp only
            rw [Function.update_self]
            exact before _ _ held (answers.2 _ List.mem_cons_self)
      · rw [threads_step_of_ne own]
        exact before

end Allowed

/-- What only the moves of one thread add to, and each what its exchange says,
is what the conversation of that thread says. -/
theorem observed_run {E : Type} (observe : σ → List E) (i : ι) (entries : Exchange Q A → List E)
    (follows : ∀ i, (pool.threads i).Follows (protocol i) [])
    (own : ∀ talk question answer s s', (protocol i).asks talk question →
      (protocol i).effect talk question answer s s' →
      observe s' = observe s ++ entries ⟨question, answer⟩)
    (others : ∀ j ≠ i, ∀ talk question answer s s', (protocol j).asks talk question →
      (protocol j).effect talk question answer s s' → observe s' = observe s)
    (schedule : List (Move ι Q A)) :
    observe (pool.run schedule).state =
      observe pool.state ++ (pool.talk i schedule).flatMap entries := by
  induction schedule using List.reverseRecOn with
  | nil => simp [talk, run]
  | append_singleton schedule move inductionHypothesis =>
      rw [run_concat, talk_concat, List.flatMap_append, ← List.append_assoc]
      cases waits : (pool.run schedule).threads move.thread with
      | done result =>
          rw [step_done waits, said, exchange?_done waits, inductionHypothesis]
          simp
      | await question leave next =>
          obtain ⟨asks, effect⟩ := effect_run (follows move.thread) schedule waits
          rw [said, exchange?_await waits]
          by_cases isOwn : move.thread = i
          · subst isOwn
            rw [own _ _ _ _ _ asks effect, inductionHypothesis, if_pos rfl]
            simp
          · rw [others move.thread isOwn _ _ _ _ _ asks effect, inductionHypothesis,
              if_neg isOwn, List.flatMap_nil, List.append_nil]

/-- Where every effect is a step of an abstract machine, a schedule is a run of
that machine over the transcript. -/
theorem simulated_run {τ : Type} (abstraction : σ → τ)
    (abstractStep : τ → ι × Exchange Q A → τ)
    (follows : ∀ i, (pool.threads i).Follows (protocol i) [])
    (simulates : ∀ i talk question answer s s', (protocol i).asks talk question →
      (protocol i).effect talk question answer s s' →
      abstraction s' = abstractStep (abstraction s) (i, ⟨question, answer⟩))
    (schedule : List (Move ι Q A)) :
    abstraction (pool.run schedule).state =
      (pool.transcript schedule).foldl abstractStep (abstraction pool.state) := by
  induction schedule using List.reverseRecOn with
  | nil => rfl
  | append_singleton schedule move inductionHypothesis =>
      rw [run_concat, transcript_concat, List.foldl_append, ← inductionHypothesis]
      cases waits : (pool.run schedule).threads move.thread with
      | done result =>
          rw [step_done waits, exchange?_done waits]
          rfl
      | await question leave next =>
          obtain ⟨asks, effect⟩ := effect_run (follows move.thread) schedule waits
          rw [simulates _ _ _ _ _ _ asks effect, exchange?_await waits]
          rfl

/-- What every exchange of the protocols allows holds of every exchange made. -/
theorem asks_transcript (follows : ∀ i, (pool.threads i).Follows (protocol i) [])
    (schedule : List (Move ι Q A)) {made : ι × Exchange Q A}
    (member : made ∈ pool.transcript schedule) :
    ∃ talk, (protocol made.1).asks talk made.2.question := by
  induction schedule using List.reverseRecOn with
  | nil => cases member
  | append_singleton schedule move inductionHypothesis =>
      rw [transcript_concat] at member
      rcases List.mem_append.mp member with earlier | last
      · exact inductionHypothesis earlier
      · cases waits : (pool.run schedule).threads move.thread with
        | done result =>
            rw [exchange?_done waits] at last
            cases last
        | await question leave next =>
            rw [exchange?_await waits] at last
            cases List.mem_singleton.mp last
            exact ⟨_, (effect_run (follows move.thread) schedule waits).1⟩

end AllThreads

end Pool

end AutoRouteGateway.Library
