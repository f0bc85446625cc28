import AutoRouteGateway.Api.OpenAi
import AutoRouteGateway.Service.StreamDelivery
import AutoRouteGateway.State.InMemory

/-!
Contract: the commit boundary of a streamed call.

Owns: the frames of the generator by what the call delivered, and the proof
that a call is a partial failure exactly after a valid chunk.
-/

namespace AutoRouteGateway.Api

open AutoRouteGateway.Domain
open AutoRouteGateway.Policy
open AutoRouteGateway.Routing
open AutoRouteGateway.Runtime
open AutoRouteGateway.Service
open AutoRouteGateway.State

/-! ## The end marker of the generator -/

theorem done_mem_sseEnding (result : Except ServiceError Unit) :
    Frame.done ∈ (sseEnding result).frames ↔ result = .ok () := by
  cases result with
  | ok value => simp [sseEnding]
  | error error => cases error <;> simp [sseEnding]

/-- The generator ends with the marker exactly when the call delivered one or
ended without raising. -/
theorem done_mem_sse (virtualModel : String) (result : Except ServiceError Unit)
    (events : List Event) :
    Frame.done ∈ (sse virtualModel result events).frames ↔
      (∃ event ∈ events, isDone event = true) ∨ result = .ok () := by
  induction events with
  | nil => simp [sse, done_mem_sseEnding]
  | cons event rest inductionHypothesis =>
      by_cases done : isDone event = true
      · simp [sse, done]
      · rw [sse, if_neg done]
        have later : (∃ other ∈ event :: rest, isDone other = true) ↔
            ∃ other ∈ rest, isDone other = true := by
          simp [done]
        rw [later, ← inductionHypothesis]
        dsimp only
        split <;> simp

/-! ## The boundary -/

/-- The commit boundary of one call, at the service and at the generator. -/
structure CommitBoundaryExact {σ : Type} (virtualModel : String) (call : StreamResult σ) :
    Prop where
  /-- A partial failure is an exception that reaches the delivery of the selected
  stream after a valid chunk was yielded. -/
  partialFailure : (∃ errorClass, call.result = .error (.partialStream errorClass)) ↔
    ∃ selection handle exception, call.selection = some selection ∧
      selection.ending = .selected handle ∧ handle.iteration.raised = some exception ∧
        HasValidChunk call.yields
  otherError : ∀ error, call.result = .error error →
    (∀ errorClass, error ≠ .partialStream errorClass) → ¬ HasValidChunk call.yields
  doneFrame : Frame.done ∈ (sse virtualModel call.result call.yields).frames ↔
    (∃ event ∈ call.yields, isDone event = true) ∨ call.result = .ok ()

section Boundary

variable {σ : Type} {S : StateStore σ} {request : RequestInfo} {call : StreamResult σ}

/-- A call that raises before it delivers anything. -/
theorem CommitBoundaryExact.undelivered {error : ServiceError} (virtualModel : String)
    (notPartial : ∀ errorClass, error ≠ .partialStream errorClass) (yields : call.yields = [])
    (result : call.result = .error error) : CommitBoundaryExact virtualModel call where
  partialFailure := by
    rw [yields, result]
    apply iff_of_false
    · rintro ⟨errorClass, same⟩
      exact notPartial errorClass (Except.error.inj same)
    · rintro ⟨-, -, -, -, -, -, chunk⟩
      exact not_hasValidChunk_nil chunk
  otherError := by
    intro _ _ _
    rw [yields]
    exact not_hasValidChunk_nil
  doneFrame := done_mem_sse virtualModel _ _

/-- A call that delivers the selected stream. -/
theorem CommitBoundaryExact.delivered {selection : Selection σ} {handle : StreamHandle}
    (quiet : QuietRecord S) (virtualModel : String) (isSelection : call.selection = some selection)
    (ending : selection.ending = .selected handle)
    (yields : call.yields =
      (deliver S request handle handle.iterated false selection.store).yields)
    (result : call.result =
      (deliver S request handle handle.iterated false selection.store).result) :
    CommitBoundaryExact virtualModel call := by
  obtain ⟨sameYields, sameResult⟩ := deliver_iterate request handle quiet
    handle.iterated false selection.store
  rw [sameYields, handle.iterate_iterated] at yields
  rw [sameResult, handle.iterate_iterated, ← yields] at result
  cases raised : handle.iteration.raised with
  | none =>
      rw [raised] at result
      constructor
      · apply iff_of_false
        · rintro ⟨errorClass, same⟩
          rw [result] at same
          cases same
        · rintro ⟨own, ownHandle, exception, isOwn, isHandle, reaches, -⟩
          rw [isSelection, Option.some.injEq] at isOwn
          rw [← isOwn, ending, SelectionEnd.selected.injEq] at isHandle
          rw [← isHandle, raised] at reaches
          cases reaches
      · intro error same
        rw [result] at same
        cases same
      · exact done_mem_sse virtualModel _ _
  | some exception =>
      rw [raised] at result
      simp only [Bool.false_eq_true, false_or, deliveryError] at result
      by_cases chunk : HasValidChunk call.yields
      · rw [if_pos chunk] at result
        constructor
        · exact iff_of_true ⟨_, result⟩ ⟨_, _, _, isSelection, ending, raised, chunk⟩
        · intro error same notPartial
          rw [result, Except.error.injEq] at same
          exact absurd same.symm (notPartial _)
        · exact done_mem_sse virtualModel _ _
      · rw [if_neg chunk] at result
        constructor
        · apply iff_of_false
          · rintro ⟨errorClass, same⟩
            rw [result] at same
            cases same
          · rintro ⟨-, -, -, -, -, -, valid⟩
            exact chunk valid
        · exact fun _ _ _ => chunk
        · exact done_mem_sse virtualModel _ _

end Boundary

/-- Over every store whose event log does not raise, the commit boundary of
every `chat_stream` call is exact. -/
theorem commit_boundary_exact {σ : Type} (S : StateStore σ) (quiet : QuietRecord S)
    (engine : FallbackEngine) (service : GatewayService) (clock : Clock) (upstream : Upstream σ)
    (requestId virtualModel : String) (payload : Dict) (counter : Nat) (start : σ) :
    CommitBoundaryExact virtualModel (chatStream S engine service clock upstream requestId
      virtualModel payload counter start) := by
  cases chatStream_outcome S engine service clock upstream requestId virtualModel payload counter
    start with
  | unscored error early selection yields result =>
      exact .undelivered virtualModel early.not_partialStream yields result
  | unselected selection error late isSelection ending yields result =>
      exact .undelivered virtualModel late.not_partialStream yields result
  | delivered selection handle isSelection ending validated yields result =>
      exact .delivered quiet virtualModel isSelection ending yields result

/-- A content chunk, then a server error. -/
theorem commit_boundary_exact_partial :
    CommitBoundaryExact "v" (chatStream InMemoryStateStore.store {} (keyedService "s")
      ⟨fun _ => 0, fun _ => 0⟩ (.constant _ (.body []) (.completed [])
        ⟨[[("data", .dict [("choices", .list [.dict [("delta",
          .dict [("content", .str "hi")])]])])]], some (.http 500 "" [])⟩)
      "r" "v" [] 0 InMemoryStateStore.empty) :=
  commit_boundary_exact InMemoryStateStore.store (fun _ _ => ⟨_, rfl⟩) {} (keyedService "s") _ _
    "r" "v" [] 0 InMemoryStateStore.empty

end AutoRouteGateway.Api
