import AutoRouteGateway.Library.Bisimulation
import AutoRouteGateway.Service.StoreDouble
import AutoRouteGateway.Service.StoreMaps

/-!
Contract: requests as coroutines over a mapped store.

Owns: the proof that a request over one store, told the same answers, asks the
same questions as over the store it is seen through, and leaves stores that are
read alike.
-/

namespace AutoRouteGateway.Service

open AutoRouteGateway.Domain
open AutoRouteGateway.Library
open AutoRouteGateway.Library.Coroutine
open AutoRouteGateway.Routing
open AutoRouteGateway.Runtime
open AutoRouteGateway.State

section Maps

variable {σ τ ρ : Type} {S : StateStore σ} {T : StateStore τ} (m : StoreMap S T)

/-- The states are read alike. -/
abbrev ReadsTo : σ → τ → Prop := fun s t => m.read s = t

/-- The answers are the same. -/
abbrev SameAnswer : (question : Question) → question.Answer ρ → question.Answer ρ → Prop :=
  fun _ answer answer' => answer = answer'

/-- The segments leave states that are read alike, and go on in the same way. -/
abbrev SegmentRead (segment : RequestSegment σ ρ) (segment' : RequestSegment τ ρ) : Prop :=
  SegmentsAlike (ReadsTo m) SameAnswer segment segment'

theorem segmentRead_done (s : σ) (ending : RequestEnd ρ) :
    SegmentRead m (s, .done ending) (m.read s, .done ending) :=
  SegmentsAlike.done (show ReadsTo m s (m.read s) from rfl) ending

variable (engine : FallbackEngine) (service : GatewayService) (clock : Clock)
  (request : RequestInfo)

/-- The retry loop, by induction on the budget. -/
theorem attemptOn_read (candidate : RouteCandidate) {proceed : Progress σ → RequestSegment σ ρ}
    {proceed' : Progress τ → RequestSegment τ ρ}
    (proceeds : ∀ progress, SegmentRead m (proceed progress) (proceed' (progress.map m.read)))
    (budget retries : Nat) (now : Instant) (progress : Progress σ) :
    SegmentRead m (attemptOn S engine clock request candidate proceed budget retries now progress)
      (attemptOn T engine clock request candidate proceed' budget retries now
        (progress.map m.read)) := by
  induction budget generalizing retries now progress with
  | zero => exact segmentRead_done m _ _
  | succ budget inductionHypothesis =>
      refine ⟨rfl, bisimilar_pause ?_⟩
      rintro outcome _ s _ rfl rfl
      have settled := settleCall_read m engine clock request candidate retries outcome
        { progress with store := s, attempts := progress.attempts + 1 }
      have steps := congrArg Prod.snd settled
      refine (?_ : ∀ (step : NextStep σ ρ) (step' : NextStep τ ρ), step' = step.map m.read →
        SegmentRead m
          (callEnd (fun left => attemptOn S engine clock request candidate proceed budget
            (retries + 1) (clock.settle left.attempts) left) proceed step)
          (callEnd (fun left => attemptOn T engine clock request candidate proceed' budget
            (retries + 1) (clock.settle left.attempts) left) proceed' step')) _ _ steps
      rintro step _ rfl
      cases step with
      | stop ending left => exact segmentRead_done m _ _
      | next left => exact proceeds left
      | retry left => exact inductionHypothesis _ _ left

/-- The loop over the scored list, by induction on what is left of it. -/
theorem runOver_read (scored : List ScoredCandidate) (position : Nat) (progress : Progress σ) :
    SegmentRead (ρ := ρ) m (runOver S engine clock request scored position progress)
      (runOver T engine clock request scored position (progress.map m.read)) := by
  induction scored generalizing position progress with
  | nil => exact segmentRead_done m _ _
  | cons sc rest inductionHypothesis =>
      have sameTurn : attemptable T (clock.check position) (progress.map m.read).store sc =
          attemptable S (clock.check position) progress.store sc := attemptable_read m _ _ sc
      rw [runOver, runOver, sameTurn]
      split_ifs
      · exact attemptOn_read m engine clock request sc.candidate
          (fun left => inductionHypothesis (position + 1) left) _ 0 _ progress
      · exact inductionHypothesis (position + 1) progress

theorem deliveryEnd_read (handle : StreamHandle) (exception : UpstreamException)
    (committed : Bool) (s : σ) :
    SegmentRead (ρ := ρ) m (deliveryEnd S request handle exception committed s)
      (deliveryEnd T request handle exception committed (m.read s)) := by
  unfold deliveryEnd
  rw [deliveryFailure_read]
  exact segmentRead_done m _ _

/-- The delivery, by induction on what is still to come. -/
theorem deliverOn_read (handle : StreamHandle) (items : List (Bool × Event)) (committed : Bool)
    (s : σ) :
    SegmentRead (ρ := ρ) m (deliverOn S request handle items committed s)
      (deliverOn T request handle items committed (m.read s)) := by
  induction items generalizing committed s with
  | nil =>
      rw [deliverOn, deliverOn]
      cases handle.ending with
      | none => exact segmentRead_done m _ _
      | some exception => exact deliveryEnd_read m request handle exception committed s
  | cons item rest inductionHypothesis =>
      obtain ⟨replayed, event⟩ := item
      have recorded : recordDone T request handle event (m.read s) =
          (recordDone S request handle event s).map m.read := by
        unfold recordDone
        split
        · exact m.record _ _
        · rfl
      rw [deliverOn, deliverOn, recorded]
      cases commits replayed committed event with
      | error text => exact deliveryEnd_read m request handle _ committed s
      | ok committed' =>
          cases recordDone S request handle event s with
          | raised error s => exact deliveryEnd_read m request handle _ committed' s
          | done s =>
              refine ⟨rfl, bisimilar_pause ?_⟩
              rintro answer _ t _ rfl rfl
              exact inductionHypothesis committed' t

theorem contactEnd_read (attempt : Nat) (candidate : RouteCandidate)
    {proceed : σ → RequestSegment σ ρ} {proceed' : τ → RequestSegment τ ρ}
    (proceeds : ∀ s, SegmentRead m (proceed s) (proceed' (m.read s))) (stream : UpstreamStream)
    (s : σ) :
    SegmentRead m (contactEnd S engine clock request attempt candidate proceed stream s)
      (contactEnd T engine clock request attempt candidate proceed' stream (m.read s)) := by
  simp only [contactEnd, settlePrefix_read]
  cases settlePrefix S engine clock request attempt candidate s
      (readPrefix stream.ending stream.events) with
  | raised error s => exact segmentRead_done m _ _
  | done s =>
      dsimp only [StoreResult.map]
      cases readPrefix stream.ending stream.events with
      | selected buffered rest => exact deliverOn_read m request _ _ false s
      | exhausted => exact proceeds s
      | failed exception => exact proceeds s

/-- The selection loop, by induction on what is left of the scored list. -/
theorem selectOver_read (scored : List ScoredCandidate) (position attempts : Nat) (s : σ) :
    SegmentRead (ρ := ρ) m
      (selectOver S engine service clock request scored position attempts s)
      (selectOver T engine service clock request scored position attempts (m.read s)) := by
  induction scored generalizing position attempts s with
  | nil => exact segmentRead_done m _ _
  | cons sc rest inductionHypothesis =>
      rw [selectOver, selectOver, attemptable_read]
      split_ifs
      · exact segmentRead_done m _ _
      · cases prepare service sc.candidate with
        | error error => exact segmentRead_done m _ _
        | ok secret =>
            refine ⟨rfl, bisimilar_pause ?_⟩
            rintro stream _ t _ rfl rfl
            exact contactEnd_read m engine clock request (attempts + 1) sc.candidate
              (fun s => inductionHypothesis (position + 1) (attempts + 1) s) stream t
      · exact inductionHypothesis (position + 1) attempts s

/-- A request and its counterpart over the store it is seen through ask the same
questions and end in the same way. -/
theorem coroutine_read {own : Request σ} {other : Request τ} (entry : other.entry = own.entry)
    (info : other.info = own.info) (sameClock : other.clock = own.clock)
    (scores : ∀ s, other.scored (m.read s) = own.scored s) :
    Bisimilar (ReadsTo m) SameAnswer (own.coroutine (ρ := ρ) S engine service)
      (other.coroutine (ρ := ρ) T engine service) := by
  refine bisimilar_pause ?_
  rintro answer _ s _ rfl rfl
  rw [Request.start, Request.start, scores s, entry, info, sameClock]
  cases own.scored s with
  | error error => exact segmentRead_done m _ _
  | ok scored =>
      cases own.entry with
      | run => exact runOver_read m engine own.clock own.info scored 0 { store := s }
      | chatStream => exact selectOver_read m engine service own.clock own.info scored 0 0 s

end Maps

/-! ## Arrivals -/

/-- The request over any store. -/
def Arrival.requestOver {σ : Type} (S : StateStore σ) (service : GatewayService)
    (arrival : Arrival) : Request σ where
  entry := arrival.entry
  info := arrival.info
  clock := arrival.clock
  scored := fun s => (scoredCandidates S service arrival.info.virtualModel arrival.payload
    arrival.counter s).1

section Arrivals

variable {ι σ τ ρ : Type} (S : StateStore σ) {T : StateStore τ} (engine : FallbackEngine)
  (service : GatewayService) (arrivals : ι → Arrival) (start : σ)

/-- The requests that arrive, over a store. -/
def poolOver : Pool ι σ Question (Question.Answer ρ) (RequestEnd ρ) where
  state := start
  threads := fun i => ((arrivals i).requestOver S service).coroutine S engine service

variable {S} [DecidableEq ι]

/-- Over a store and over the one it is seen through, the requests see the same. -/
theorem poolOver_read (m : StoreMap S T) (schedule : List (Move ι Question (Question.Answer ρ))) :
    let own := poolOver (ρ := ρ) S engine service arrivals start
    let read := poolOver (ρ := ρ) T engine service arrivals (m.read start)
    m.read (own.run schedule).state = (read.run schedule).state ∧
      ∀ i, own.talk i schedule = read.talk i schedule ∧
        (own.run schedule).waitsFor? i = (read.run schedule).waitsFor? i ∧
        (own.run schedule).result? i = (read.run schedule).result? i := by
  intro own read
  have agree : own.Agree (ReadsTo m) SameAnswer (fun _ => True) read := by
    refine ⟨rfl, ?_⟩
    intro i _
    refine coroutine_read m engine service rfl rfl rfl ?_
    intro s
    exact congrArg Prod.fst (scoredCandidates_read m service _ _ _ s)
  exact agree.run_same (fun _ _ => rfl) schedule

end Arrivals

end AutoRouteGateway.Service
