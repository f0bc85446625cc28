import AutoRouteGateway.Service.RouteIsolation

/-!
Contract: what upstream says about an error decides nothing but its class.

Two runs of the same requests in which every failure has the same class, but
any other text, status or headers, ask the same questions, end the same way,
write the same rows and record the same events. Only the reasons kept beside
the rows may differ.

Owns: stores that differ in reasons only, and that no request tells them apart.
-/

namespace AutoRouteGateway.Service

open AutoRouteGateway.Domain
open AutoRouteGateway.Library
open AutoRouteGateway.Library.Coroutine
open AutoRouteGateway.Policy
open AutoRouteGateway.Routing
open AutoRouteGateway.Runtime
open AutoRouteGateway.State

/-- The same rows and the same events. -/
structure SameFacts (kind : StoreKind) (s s' : kind.Contents) : Prop where
  board : kind.scopedStore.board s = kind.scopedStore.board s'
  log : eventLog kind s = eventLog kind s'

section Facts

variable {kind : StoreKind} {s s' : kind.Contents}

theorem SameFacts.alike (same : SameFacts kind s s') : Alike kind (fun _ => True) s s' := by
  unfold Alike
  rw [same.board]
  exact .refl _

/-- The engine never reads a reason. -/
theorem indistinct_sameFacts (kind : StoreKind) (engine : FallbackEngine) :
    Indistinct kind.store kind.store engine (fun _ => True) (SameFacts kind) where
  scored := fun _ same => (same.alike.reads trivial).1
  eligible := fun now _ same => (same.alike.reads trivial).2 now
  failed := by
    intro candidate s s' failure failure' now failures _ same
    refine applyFailure_alike failures ⟨?_, ?_⟩
    · rw [board_applyFailure, board_applyFailure, same.board, boardFailure_alike failures]
    · rw [eventLog_applyFailure, eventLog_applyFailure, same.log]
  succeeded := by
    intro candidate s s' _ same
    obtain ⟨t, applied, board, log⟩ := applySuccess_effect kind candidate s
    obtain ⟨t', applied', board', log'⟩ := applySuccess_effect kind candidate s'
    rw [applied, applied']
    refine .done ⟨?_, ?_⟩
    · rw [board, board', same.board]
    · rw [log, log', same.log]
  recorded := by
    intro s s' event same
    obtain ⟨t, recorded, board, log⟩ := record_effect kind event s
    obtain ⟨t', recorded', board', log'⟩ := record_effect kind event s'
    rw [recorded, recorded']
    refine .done ⟨?_, ?_⟩
    · rw [board, board', same.board]
    · rw [log, log', same.log]

end Facts

section Texts

variable {ρ : Type} (kind : StoreKind) (engine : FallbackEngine) (service : GatewayService)
  {ι : Type} [DecidableEq ι] (requests : ι → Request kind.Contents) (start : kind.Contents)

/-- Two schedules in which the same requests move and are answered alike but
for the texts of errors: every request asks the same and ends the same, and
the rows and the events of the store are the same. -/
theorem error_texts_unnoticed (served : ∀ i, ServedBy kind service (requests i))
    {schedule schedule' : List (Move ι Question (Question.Answer ρ))}
    (moves : List.Forall₂ (Pool.MovesAlike AnswersAlike) schedule schedule') :
    let pool := requestPool (ρ := ρ) kind engine service requests start
    (∀ i, (pool.talk i schedule).map Exchange.question =
          (pool.talk i schedule').map Exchange.question ∧
        (pool.run schedule).waitsFor? i = (pool.run schedule').waitsFor? i ∧
          (pool.run schedule).result? i = (pool.run schedule').result? i) ∧
      kind.scopedStore.board (pool.run schedule).state =
        kind.scopedStore.board (pool.run schedule').state ∧
      eventLog kind (pool.run schedule).state = eventLog kind (pool.run schedule').state := by
  intro pool
  have agree : pool.Agree (SameFacts kind) AnswersAlike (fun _ => True) pool := by
    refine ⟨⟨rfl, rfl⟩, ?_⟩
    intro i _
    obtain ⟨payload, counter, isScored⟩ := served i
    refine coroutine_bisimilar (indistinct_sameFacts kind engine) rfl rfl rfl
      (fun candidate _ => trivial) ?_
    intro s s' same
    rw [isScored]
    exact congrArg Prod.fst (scoredCandidates_alike (indistinct_sameFacts kind engine)
      (requests i).info.virtualModel payload counter (fun _ _ _ _ => trivial) same)
  obtain ⟨after, talks⟩ := agree.run moves
  exact ⟨fun i => ⟨questions_of_alike (talks i), after.seen trivial⟩, after.state.board,
    after.state.log⟩

end Texts

/-- The crossed calls, with a refusal that says more. -/
def talkativeCalls : List (Move Bool Question (Question.Answer Dict)) :=
  [⟨false, calledBack (.returned [])⟩, ⟨true, calledBack (.returned [])⟩,
    ⟨true, calledBack (.failed
      { errorClass := .auth, status := some 401, message := "invalid key sk-1" })⟩,
    ⟨false, calledBack (.failed { errorClass := .tokenLimit })⟩]

/-- The longer refusal leaves the same events. -/
theorem same_events_of_talkative_calls :
    eventLog .inMemory ((requestPool .inMemory {} (keyedService "s")
        (fun _ : Bool => keyedRequest) .empty).run crossedCalls).state =
      eventLog .inMemory ((requestPool .inMemory {} (keyedService "s")
        (fun _ : Bool => keyedRequest) .empty).run talkativeCalls).state := by
  have calledAlike : ∀ {outcome outcome' : AttemptOutcome Dict}, OutcomesAlike outcome outcome' →
      ∀ question, AnswersAlike question (calledBack outcome question)
        (calledBack outcome' question) := by
    intro outcome outcome' same question
    cases question with
    | arrival => trivial
    | call number retries candidate now => exact same
    | contact number candidate secret now => exact SameStream.refl _
    | yielded attempt event => trivial
  refine (error_texts_unnoticed .inMemory {} (keyedService "s") (fun _ : Bool => keyedRequest)
    .empty (fun _ => ⟨[], 0, rfl⟩) ?_).2.2
  refine .cons ⟨rfl, calledAlike (.refl _)⟩ (.cons ⟨rfl, calledAlike (.refl _)⟩
    (.cons ⟨rfl, calledAlike (.failed ⟨rfl, rfl, rfl⟩)⟩
      (.cons ⟨rfl, calledAlike (.refl _)⟩ .nil)))

end AutoRouteGateway.Service
