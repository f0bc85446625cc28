import AutoRouteGateway.Library.Protocol
import AutoRouteGateway.Routing.CallEffects
import AutoRouteGateway.Service.Interleaving

/-!
Contract: what one request may do, whatever it is answered and whatever other
requests do to the store meanwhile.

Its attempts are numbered from one, stay under the ceiling and go down the
scored list once; a retry repeats the last call only after a failure that asks
for one. A stream is delivered event by event from the last contact, and after
its first event nothing is attempted any more.

Owns: the protocol of a request, the effect of each answer on the board and on
the event log, and the proof that both entries keep to it.
-/

namespace AutoRouteGateway.Service

open AutoRouteGateway.Domain
open AutoRouteGateway.Library
open AutoRouteGateway.Library.Coroutine
open AutoRouteGateway.Policy
open AutoRouteGateway.Routing
open AutoRouteGateway.Runtime
open AutoRouteGateway.State

/-! ## Conversations -/

abbrev Talk (ρ : Type) := List (Exchange Question (Question.Answer ρ))

/-- The candidate whose turn a question opens; a retry opens none. -/
def Question.turn? : Question → Option RouteCandidate
  | .call _ 0 candidate _ => some candidate
  | .contact _ candidate _ _ => some candidate
  | _ => none

def Question.event? : Question → Option Event
  | .yielded _ event => some event
  | _ => none

section Conversations

variable {ρ : Type}

/-- The attempts a conversation has started, oldest first. -/
def attemptsOf (talk : Talk ρ) : List (Nat × RouteCandidate) :=
  talk.filterMap fun exchange => exchange.question.attempt?

/-- The candidates whose turn has come, in order. -/
def turnsOf (talk : Talk ρ) : List RouteCandidate :=
  talk.filterMap fun exchange => exchange.question.turn?

/-- The events that have reached the caller. -/
def yieldsOf (talk : Talk ρ) : List Event :=
  talk.filterMap fun exchange => exchange.question.event?

@[simp] theorem attemptsOf_append (earlier later : Talk ρ) :
    attemptsOf (earlier ++ later) = attemptsOf earlier ++ attemptsOf later :=
  List.filterMap_append

@[simp] theorem turnsOf_append (earlier later : Talk ρ) :
    turnsOf (earlier ++ later) = turnsOf earlier ++ turnsOf later :=
  List.filterMap_append

@[simp] theorem yieldsOf_append (earlier later : Talk ρ) :
    yieldsOf (earlier ++ later) = yieldsOf earlier ++ yieldsOf later :=
  List.filterMap_append

end Conversations

/-! ## The protocol -/

section Asking

variable {σ ρ : Type} (engine : FallbackEngine) (service : GatewayService) (request : Request σ)

/-- An attempt may start: it has the next number, under the ceiling, nothing was
delivered, and its candidate is on the scored list, not before the last one. -/
structure MayAttempt (talk : Talk ρ) (question : Question) (number : Nat)
    (candidate : RouteCandidate) : Prop where
  next : number = (attemptsOf talk).length + 1
  below : (number : Int) ≤ engine.policy.hardAttemptCeiling
  undelivered : yieldsOf talk = []
  inTurn : ∃ s scored, request.scored s = .ok scored ∧
    candidate ∈ scored.map ScoredCandidate.candidate ∧
    (turnsOf talk ++ question.turn?.toList).Sublist (scored.map ScoredCandidate.candidate)

/-- A call that is the retry number `retries` of its candidate follows the
failure that asks for it. -/
def FollowsRetry (talk : Talk ρ) (candidate : RouteCandidate) : (retries : Nat) → Prop
  | 0 => True
  | retries + 1 => ∃ earlier number now failure,
      talk = earlier ++
        [⟨.call number retries candidate now, AttemptOutcome.failed failure⟩] ∧
      failure.committed = false ∧
      nextAction failure.errorClass retries engine.policy = .retrySameCandidate

/-- An event may reach the caller: it is the next one of the stream that the
last attempt selected. -/
def MayYield (talk : Talk ρ) (attempt : Nat) (event : Event) : Prop :=
  ∃ (earlier later : Talk ρ) (candidate : RouteCandidate) (secret : String) (now : Instant)
      (stream : UpstreamStream),
    talk = earlier ++ ⟨.contact attempt candidate secret now, stream⟩ :: later ∧
      attemptsOf later = [] ∧ yieldsOf earlier = [] ∧
      (∃ buffered rest, readPrefix stream.ending stream.events = .selected buffered rest) ∧
      (yieldsOf later ++ [event]) <+: stream.events

/-- What a request may ask after a conversation. -/
def MayAsk (talk : Talk ρ) : Question → Prop
  | .arrival => talk = []
  | .call number retries candidate now =>
      request.entry = .run ∧
        MayAttempt engine request talk (.call number retries candidate now) number candidate ∧
        FollowsRetry engine talk candidate retries
  | .contact number candidate secret now =>
      request.entry = .chatStream ∧
        MayAttempt engine request talk (.contact number candidate secret now) number candidate ∧
        prepare service candidate = .ok secret
  | .yielded attempt event => request.entry = .chatStream ∧ MayYield talk attempt event

end Asking

/-- The state-writing call of the engine that the prefix of a stream leads to. -/
def prefixCalls (now : Instant) (candidate : RouteCandidate) : PrefixResult → List EngineCall
  | .failed exception => [.failed now candidate (candidateFailure exception)]
  | _ => []

/-- The state-writing calls of the engine that an answer leads to. -/
def engineCalls {ρ : Type} (clock : Clock) : (question : Question) → question.Answer ρ →
    List EngineCall
  | .call number _ candidate _, outcome => outcomeCalls (clock.settle number) candidate outcome
  | .contact number candidate _ _, stream =>
      prefixCalls (clock.settle number) candidate (readPrefix stream.ending stream.events)
  | _, _ => []

theorem engineCalls_contact {ρ : Type} (clock : Clock) (number : Nat)
    (candidate : RouteCandidate) (secret : String) (now : Instant) (stream : UpstreamStream) :
    engineCalls (ρ := ρ) clock (.contact number candidate secret now) stream =
      prefixCalls (clock.settle number) candidate
        (readPrefix stream.ending stream.events) := rfl

section Protocols

variable {ρ : Type} (kind : StoreKind) (engine : FallbackEngine) (service : GatewayService)
  (request : Request kind.Contents)

/-- What an answer may add to the event log: events of the attempt it belongs to. -/
def LogEffect (talk : Talk ρ) : (question : Question) → question.Answer ρ →
    (s s' : kind.Contents) → Prop
  | .arrival, _, s, s' => eventLog kind s' = eventLog kind s
  | .call number retries candidate _, outcome, s, s' =>
      AddsEvent kind request.info number candidate s s' ∧
        (candidate.credentialId ≠ none → eventLog kind s' = eventLog kind s ++
          [outcomeEvent engine request.info candidate number retries outcome])
  | .contact number candidate _ _, _, s, s' =>
      AddsEvent kind request.info number candidate s s'
  | .yielded attempt _, _, s, s' => ∃ candidate, (attempt, candidate) ∈ attemptsOf talk ∧
      AddsEvent kind request.info attempt candidate s s'

/-- What a request writes when it is answered, up to its next question. -/
structure Effect (talk : Talk ρ) (question : Question) (answer : question.Answer ρ)
    (s s' : kind.Contents) : Prop where
  board : kind.scopedStore.board s' =
    boardAfter engine (engineCalls request.clock question answer) (kind.scopedStore.board s)
  log : LogEffect kind engine request talk question answer s s'

/-- The protocol of a request. -/
def requestProtocol : Protocol kind.Contents Question (Question.Answer ρ) where
  asks := MayAsk engine service request
  effect := Effect kind engine request

/-- A segment that leaves the store it was given and keeps to the protocol. -/
structure Resumes (talk : Talk ρ) (s : kind.Contents)
    (segment : RequestSegment kind.Contents ρ) : Prop where
  store : segment.1 = s
  follows : segment.2.Follows (requestProtocol kind engine service request) talk

theorem Resumes.done (talk : Talk ρ) (s : kind.Contents) (ending : RequestEnd ρ) :
    Resumes kind engine service request talk s (s, .done ending) := ⟨rfl, trivial⟩

end Protocols

/-! ## A run of the engine -/

section Runs

variable {ρ : Type} {kind : StoreKind} {engine : FallbackEngine} {service : GatewayService}
  {request : Request kind.Contents}

/-- The conversation so far is about the candidates of `front`. -/
structure Passed (front : List ScoredCandidate) (attempts : Nat) (talk : Talk ρ) : Prop where
  attempts : (attemptsOf talk).length = attempts
  undelivered : yieldsOf talk = []
  turns : (turnsOf talk).Sublist (front.map ScoredCandidate.candidate)

theorem Passed.skip {front : List ScoredCandidate} {attempts : Nat} {talk : Talk ρ}
    (passed : Passed front attempts talk) (sc : ScoredCandidate) :
    Passed (front ++ [sc]) attempts talk where
  attempts := passed.attempts
  undelivered := passed.undelivered
  turns := by
    rw [List.map_append]
    exact passed.turns.trans (List.sublist_append_left _ _)

/-- The next attempt, on the candidate after `front`. -/
theorem Passed.mayAttempt {front : List ScoredCandidate} {sc : ScoredCandidate}
    {rest scored : List ScoredCandidate} {start : kind.Contents} {attempts : Nat} {talk : Talk ρ}
    (passed : Passed (front ++ [sc]) attempts talk) {question : Question}
    (isScored : request.scored start = .ok scored) (whole : front ++ sc :: rest = scored)
    (below : ((attempts + 1 : Nat) : Int) ≤ engine.policy.hardAttemptCeiling)
    (turns : (turnsOf talk ++ question.turn?.toList).Sublist
      ((front ++ [sc]).map ScoredCandidate.candidate)) :
    MayAttempt engine request talk question (attempts + 1) sc.candidate where
  next := by rw [passed.attempts]
  below := below
  undelivered := passed.undelivered
  inTurn := by
    refine ⟨start, scored, isScored, List.mem_map_of_mem ?_, turns.trans (List.Sublist.map _ ?_)⟩
    · rw [← whole]
      exact List.mem_append_right _ List.mem_cons_self
    · rw [← whole, List.append_cons front sc rest]
      exact List.sublist_append_left _ _

variable {front rest scored : List ScoredCandidate} {sc : ScoredCandidate}
  {start : kind.Contents}

/-- The retry loop, by induction on the budget: a retry goes on after the
failure that asked for it. -/
theorem resumes_attemptOn (isRun : request.entry = .run)
    (isScored : request.scored start = .ok scored) (whole : front ++ sc :: rest = scored)
    {proceed : Progress kind.Contents → RequestSegment kind.Contents ρ}
    (proceeds : ∀ talk progress, Passed (front ++ [sc]) progress.attempts talk →
      Resumes kind engine service request talk progress.store (proceed progress))
    (budget retries : Nat) (now : Instant) (progress : Progress kind.Contents)
    (isBudget : budget = attemptBudget engine progress.attempts) {talk : Talk ρ}
    (passed : Passed (front ++ [sc]) progress.attempts talk)
    (turns : (turnsOf talk ++ (Question.call (progress.attempts + 1) retries sc.candidate
      now).turn?.toList).Sublist ((front ++ [sc]).map ScoredCandidate.candidate))
    (followsRetry : FollowsRetry engine talk sc.candidate retries) :
    Resumes kind engine service request talk progress.store
      (attemptOn kind.store engine request.clock request.info sc.candidate proceed budget retries
        now progress) := by
  induction budget generalizing retries now progress talk with
  | zero => exact .done ..
  | succ budget inductionHypothesis =>
      have below : ((progress.attempts + 1 : Nat) : Int) ≤ engine.policy.hardAttemptCeiling := by
        unfold attemptBudget at isBudget
        omega
      refine ⟨rfl, follows_pause.mpr
        ⟨⟨isRun, passed.mayAttempt isScored whole below turns, followsRetry⟩, ?_⟩⟩
      intro outcome s
      change AttemptOutcome ρ at outcome
      let returned : Progress kind.Contents :=
        { progress with store := s, attempts := progress.attempts + 1 }
      obtain ⟨attempts, settled⟩ := settleCall_effect engine request.clock request.info
        sc.candidate retries outcome returned
      let talk' : Talk ρ :=
        talk ++ [⟨.call (progress.attempts + 1) retries sc.candidate now, outcome⟩]
      have spoken : ∀ left : Progress kind.Contents, left.attempts = progress.attempts + 1 →
          Passed (front ++ [sc]) left.attempts talk' := by
        intro left counted
        refine ⟨?_, ?_, ?_⟩
        · rw [attemptsOf_append, List.length_append, passed.attempts, counted]
          rfl
        · rw [yieldsOf_append, passed.undelivered]
          rfl
        · rw [turnsOf_append]
          cases retries <;> exact turns
      suffices goesOn : ∀ step : NextStep kind.Contents ρ,
          (settleCall kind.store engine request.clock request.info sc.candidate retries outcome
            returned).2 = step →
          Resumes kind engine service request talk' step.progress.store (callEnd
            (fun left => attemptOn kind.store engine request.clock request.info sc.candidate
              proceed budget (retries + 1) (request.clock.settle left.attempts) left)
            proceed step) by
        have resumed := goesOn _ rfl
        refine ⟨⟨?_, ?_⟩, resumed.follows⟩
        · rw [show _ = _ from resumed.store]
          exact settled.board
        · unfold LogEffect
          rw [show _ = _ from resumed.store]
          exact ⟨settled.log, settled.keyed⟩
      intro step isStep
      rw [isStep] at attempts
      cases step with
      | stop ending left => exact .done ..
      | next left => exact proceeds talk' left (spoken left attempts)
      | retry left =>
          obtain ⟨failure, isFailure, uncommitted, action⟩ := failed_of_settleCall_retry isStep
          have budgetLeft := attemptBudget_succ engine isBudget
          have own := (spoken left attempts).turns
          rw [← List.append_nil (turnsOf talk')] at own
          subst isFailure
          exact inductionHypothesis (retries + 1) (request.clock.settle left.attempts) left
            (budgetLeft.trans (congrArg (attemptBudget engine) attempts.symm))
            (spoken left attempts) own ⟨talk, _, _, failure, rfl, uncommitted, action⟩

/-- The loop over the scored list, by induction on what is left of it. -/
theorem resumes_runOver (isRun : request.entry = .run)
    (isScored : request.scored start = .ok scored) (whole : front ++ rest = scored)
    (position : Nat) (progress : Progress kind.Contents) {talk : Talk ρ}
    (passed : Passed front progress.attempts talk) :
    Resumes kind engine service request talk progress.store
      (runOver kind.store engine request.clock request.info rest position progress) := by
  induction rest generalizing front position progress talk with
  | nil => exact .done ..
  | cons sc rest inductionHypothesis =>
      rw [runOver]
      split
      · refine resumes_attemptOn isRun isScored whole ?_ _ 0 _ progress rfl (passed.skip sc) ?_
          trivial
        · intro talk' progress' passed'
          exact inductionHypothesis (by rw [← whole, List.append_cons front sc rest]) _
            progress' passed'
        · rw [List.map_append]
          exact passed.turns.append (List.Sublist.refl _)
      · exact inductionHypothesis (by rw [← whole, List.append_cons front sc rest]) _
          progress (passed.skip sc)

end Runs

/-! ## A stream -/

section Streams

variable {ρ : Type} {kind : StoreKind} {engine : FallbackEngine} {service : GatewayService}
  {request : Request kind.Contents}

/-- The conversation is in the delivery of the stream of `handle`, with `items`
still to come. -/
structure Delivering (handle : StreamHandle) (items : List (Bool × Event)) (talk : Talk ρ) :
    Prop where
  contacted : ∃ (earlier later : Talk ρ) (secret : String) (now : Instant)
      (stream : UpstreamStream),
    talk = earlier ++ ⟨.contact handle.attempt handle.candidate secret now, stream⟩ :: later ∧
      attemptsOf later = [] ∧ yieldsOf earlier = [] ∧
      (∃ buffered rest, readPrefix stream.ending stream.events = .selected buffered rest) ∧
      yieldsOf later ++ items.map Prod.snd = stream.events

theorem Delivering.mayYield {handle : StreamHandle} {item : Bool × Event}
    {items : List (Bool × Event)} {talk : Talk ρ}
    (delivering : Delivering handle (item :: items) talk) :
    MayYield talk handle.attempt item.2 := by
  obtain ⟨earlier, later, secret, now, stream, split, last, first, selected, whole⟩ :=
    delivering.contacted
  refine ⟨earlier, later, handle.candidate, secret, now, stream, split, last, first, selected,
    items.map Prod.snd, ?_⟩
  rw [← whole, List.append_assoc]
  rfl

theorem Delivering.next {handle : StreamHandle} {item : Bool × Event}
    {items : List (Bool × Event)} {talk : Talk ρ}
    (delivering : Delivering handle (item :: items) talk) :
    Delivering handle items (talk ++ [⟨.yielded handle.attempt item.2, ()⟩]) := by
  obtain ⟨earlier, later, secret, now, stream, split, last, first, selected, whole⟩ :=
    delivering.contacted
  refine ⟨earlier, later ++ [⟨.yielded handle.attempt item.2, ()⟩], secret, now, stream, ?_, ?_,
    first, selected, ?_⟩
  · rw [split, List.append_assoc]
    rfl
  · rw [attemptsOf_append, last]
    rfl
  · rw [← whole, yieldsOf_append, List.append_assoc]
    rfl

theorem Delivering.attempted {handle : StreamHandle} {items : List (Bool × Event)}
    {talk : Talk ρ} (delivering : Delivering handle items talk) :
    (handle.attempt, handle.candidate) ∈ attemptsOf talk := by
  obtain ⟨earlier, later, secret, now, stream, split, -⟩ := delivering.contacted
  rw [split, attemptsOf_append]
  exact List.mem_append_right _ List.mem_cons_self

variable (kind engine service request) in
/-- A segment of a delivery: it records at most one event of its attempt, and
keeps to the protocol. -/
structure DeliverySegment (handle : StreamHandle) (talk : Talk ρ) (s : kind.Contents)
    (segment : RequestSegment kind.Contents ρ) : Prop where
  board : kind.scopedStore.board segment.1 = kind.scopedStore.board s
  log : AddsEvent kind request.info handle.attempt handle.candidate s segment.1
  follows : segment.2.Follows (requestProtocol kind engine service request) talk

theorem delivers_deliveryEnd (handle : StreamHandle) (exception : UpstreamException)
    (committed : Bool) (talk : Talk ρ) (s : kind.Contents) :
    DeliverySegment kind engine service request handle talk s
      (deliveryEnd kind.store request.info handle exception committed s) := by
  obtain ⟨s', recorded, board, log⟩ := record_effect kind
    (routeEvent request.info handle.candidate handle.attempt
      (some (candidateFailure exception).errorClass)
      (if committed then .partialStreamFailure else .nextCandidate)) s
  have left : (deliveryFailure kind.store request.info handle exception committed s).store =
      s' := by
    simp only [deliveryFailure, recorded]
    split <;> rfl
  unfold deliveryEnd
  simp only [left]
  exact ⟨board, Or.inr ⟨_, _, log⟩, trivial⟩

/-- The delivery, by induction on what is still to come. -/
theorem delivers_deliverOn (isStream : request.entry = .chatStream) (handle : StreamHandle)
    (items : List (Bool × Event)) (committed : Bool) (s : kind.Contents) {talk : Talk ρ}
    (delivering : Delivering handle items talk) :
    DeliverySegment kind engine service request handle talk s
      (deliverOn kind.store request.info handle items committed s) := by
  induction items generalizing committed s talk with
  | nil =>
      rw [deliverOn]
      cases handle.ending with
      | none => exact ⟨rfl, Or.inl rfl, trivial⟩
      | some exception => exact delivers_deliveryEnd _ _ _ _ _
  | cons item rest inductionHypothesis =>
      obtain ⟨replayed, event⟩ := item
      rw [deliverOn]
      cases commits replayed committed event with
      | error text => exact delivers_deliveryEnd _ _ _ _ _
      | ok committed' =>
          have goesOn : (pause (.yielded handle.attempt event) fun _ s =>
                deliverOn kind.store request.info handle rest committed' s).Follows
              (requestProtocol (ρ := ρ) kind engine service request) talk := by
            refine follows_pause.mpr ⟨⟨isStream, delivering.mayYield⟩, ?_⟩
            intro answer s'
            have later := inductionHypothesis committed' s' delivering.next
            exact ⟨⟨later.board, handle.candidate, delivering.attempted, later.log⟩,
              later.follows⟩
          dsimp only
          unfold recordDone
          split_ifs
          · obtain ⟨s', recorded, board, log⟩ := record_effect kind
              (routeEvent request.info handle.candidate handle.attempt none .success) s
            rw [recorded]
            exact ⟨board, Or.inr ⟨_, _, log⟩, goesOn⟩
          · exact ⟨rfl, Or.inl rfl, goesOn⟩

/-- What follows a contact: a delivery, or the next candidate after a failure
that is recorded. -/
theorem resumes_contactEnd (isStream : request.entry = .chatStream) {talk : Talk ρ}
    (undelivered : yieldsOf talk = []) (number : Nat) (candidate : RouteCandidate)
    (secret : String) (now : Instant) (stream : UpstreamStream)
    {proceed : kind.Contents → RequestSegment kind.Contents ρ}
    (proceeds : ∀ s, Resumes kind engine service request
      (talk ++ [⟨.contact number candidate secret now, stream⟩]) s (proceed s))
    (s : kind.Contents) :
    Effect kind engine request talk (.contact number candidate secret now) stream s
        (contactEnd kind.store engine request.clock request.info number candidate proceed stream
          s).1 ∧
      (contactEnd kind.store engine request.clock request.info number candidate proceed stream
        s).2.Follows (requestProtocol kind engine service request)
          (talk ++ [⟨.contact number candidate secret now, stream⟩]) := by
  unfold contactEnd
  cases read : readPrefix stream.ending stream.events with
  | selected buffered rest =>
      have whole := (readPrefix_selected read).1
      let handle : StreamHandle := ⟨number, candidate, buffered, rest, stream.ending⟩
      have delivering : Delivering (ρ := ρ) handle handle.iterated
          (talk ++ [⟨.contact number candidate secret now, stream⟩]) := by
        refine ⟨talk, [], secret, now, stream, rfl, rfl, undelivered, ⟨_, _, read⟩, ?_⟩
        simp [StreamHandle.iterated, handle, yieldsOf, whole, Function.comp_def]
      have delivers : DeliverySegment kind engine service request handle _ s
          (deliverOn kind.store request.info handle handle.iterated false s) :=
        delivers_deliverOn isStream handle handle.iterated false s delivering
      refine ⟨⟨?_, delivers.log⟩, delivers.follows⟩
      rw [engineCalls_contact, read]
      exact delivers.board
  | exhausted =>
      obtain ⟨s', recorded, board, log⟩ := record_effect kind
        (routeEvent request.info candidate number (some .server) .nextCandidate) s
      simp only [settlePrefix, recorded]
      have resumed := proceeds s'
      refine ⟨⟨?_, ?_⟩, resumed.follows⟩
      · rw [resumed.store, board, engineCalls_contact, read]
        rfl
      · change AddsEvent kind request.info number candidate s _
        rw [resumed.store]
        exact Or.inr ⟨_, _, log⟩
  | failed exception =>
      obtain ⟨s', applied, board, log⟩ | ⟨error, s', applied, -, -, board, log⟩ :=
        applyFailure_effect kind engine (request.clock.settle number) candidate
          (candidateFailure exception) s
      · obtain ⟨left, recorded, board', log'⟩ := record_effect kind
          (routeEvent request.info candidate number
            (some (candidateFailure exception).errorClass) .nextCandidate) s'
        simp only [settlePrefix, applied, recorded]
        have resumed := proceeds left
        refine ⟨⟨?_, ?_⟩, resumed.follows⟩
        · rw [resumed.store, engineCalls_contact, read, board', board]
          rfl
        · change AddsEvent kind request.info number candidate s _
          rw [resumed.store]
          exact Or.inr ⟨_, _, log'.trans (by rw [log])⟩
      · simp only [settlePrefix, applied]
        refine ⟨⟨?_, Or.inl log⟩, trivial⟩
        rw [engineCalls_contact, read, board]
        rfl

/-- The selection loop, by induction on what is left of the scored list. -/
theorem resumes_selectOver {front rest scored : List ScoredCandidate} {start : kind.Contents}
    (isStream : request.entry = .chatStream) (isScored : request.scored start = .ok scored)
    (whole : front ++ rest = scored) (position attempts : Nat) (s : kind.Contents)
    {talk : Talk ρ} (passed : Passed front attempts talk) :
    Resumes kind engine service request talk s
      (selectOver kind.store engine service request.clock request.info rest position attempts
        s) := by
  induction rest generalizing front position attempts s talk with
  | nil => exact .done ..
  | cons sc rest inductionHypothesis =>
      have whole' : front ++ [sc] ++ rest = scored := by
        rw [← whole, List.append_cons front sc rest]
      rw [selectOver]
      split_ifs with ready above
      · exact .done ..
      · split
        · exact .done ..
        · rename_i secret prepared
          have turns : (turnsOf talk ++ [sc.candidate]).Sublist
              ((front ++ [sc]).map ScoredCandidate.candidate) := by
            rw [List.map_append]
            exact passed.turns.append (List.Sublist.refl _)
          have below : ((attempts + 1 : Nat) : Int) ≤ engine.policy.hardAttemptCeiling := by
            omega
          refine ⟨rfl, follows_pause.mpr ⟨⟨isStream,
            (passed.skip sc).mayAttempt isScored whole below turns, prepared⟩, ?_⟩⟩
          intro stream s'
          refine resumes_contactEnd isStream passed.undelivered _ _ _ _ stream ?_ s'
          intro s''
          refine inductionHypothesis whole' _ _ s'' ⟨?_, ?_, ?_⟩
          · rw [attemptsOf_append, List.length_append, passed.attempts]
            rfl
          · rw [yieldsOf_append, passed.undelivered]
            rfl
          · rw [turnsOf_append]
            exact turns
      · exact inductionHypothesis whole' _ _ s (passed.skip sc)

end Streams

/-- A request keeps to its protocol, whatever it is answered and in whatever
stores. -/
theorem follows_coroutine {ρ : Type} (kind : StoreKind) (engine : FallbackEngine)
    (service : GatewayService) (request : Request kind.Contents) :
    (request.coroutine (ρ := ρ) kind.store engine service).Follows
      (requestProtocol kind engine service request) [] := by
  refine follows_pause.mpr ⟨rfl, ?_⟩
  intro answer s
  have passed : Passed (ρ := ρ) [] 0 [⟨.arrival, answer⟩] := ⟨rfl, rfl, List.Sublist.refl _⟩
  have resumed : Resumes kind engine service request [⟨.arrival, answer⟩] s
      (request.start (ρ := ρ) kind.store engine service s) := by
    rw [Request.start]
    split
    · exact .done ..
    · rename_i scored isScored
      split
      · rename_i isRun
        exact resumes_runOver isRun isScored rfl 0 { store := s } passed
      · rename_i isStream
        exact resumes_selectOver isStream isScored rfl 0 0 s passed
  refine ⟨⟨?_, ?_⟩, resumed.follows⟩
  · rw [resumed.store]
    rfl
  · rw [LogEffect, resumed.store]

/-- The request with the list that it scores in the state it finds on arrival. -/
def Request.arrivedAt {σ : Type} (request : Request σ) (found : σ) : Request σ :=
  { request with scored := fun _ => request.scored found }

/-- From its arrival on a request keeps to the protocol for the list it scored then. -/
theorem follows_start {ρ : Type} (kind : StoreKind) (engine : FallbackEngine)
    (service : GatewayService) (request : Request kind.Contents) (answer : Unit)
    (found : kind.Contents) :
    (request.start (ρ := ρ) kind.store engine service found).2.Follows
      (requestProtocol kind engine service (request.arrivedAt found)) [⟨.arrival, answer⟩] :=
  ((follows_coroutine kind engine service (request.arrivedAt found)).2 answer found).2

end AutoRouteGateway.Service
