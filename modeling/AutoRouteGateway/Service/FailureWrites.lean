import AutoRouteGateway.Routing.FailureWrites
import AutoRouteGateway.Service.Chat
import AutoRouteGateway.Service.StreamFallback
import AutoRouteGateway.Service.TerminalEvents

/-!
Contract: recorded failures and the state written for them, in both entries.

`chat` leaves the bookkeeping to the engine. `chat_stream` records two failures
without applying them: a stream that ends without content, and an exception of the
selected stream before anything was committed.

Owns: the journal of each entry, and the exact condition under which every failure
recorded for a streamed call is accompanied by its writes.
-/

namespace AutoRouteGateway.Service

open AutoRouteGateway.Domain
open AutoRouteGateway.Library
open AutoRouteGateway.Policy
open AutoRouteGateway.Routing
open AutoRouteGateway.Runtime
open AutoRouteGateway.State

/-! ## Journals -/

/-- The same upstream beside a journal, which it does not write. -/
def Upstream.besideJournal {σ : Type} (upstream : Upstream σ) : Upstream (σ × List Write) where
  chatCompletions := fun number candidate secret s =>
    let call := upstream.chatCompletions number candidate secret s.1
    (call.1, (call.2, s.2))
  execute := fun number candidate s =>
    let call := upstream.execute number candidate s.1
    (call.1, (call.2, s.2))
  chatCompletionsStream := fun number candidate secret s =>
    let call := upstream.chatCompletionsStream number candidate secret s.1
    (call.1, (call.2, s.2))

theorem streamsAlike_besideJournal {σ : Type} (S : StateStore σ) (upstream : Upstream σ) :
    StreamsAlike (journalingMap S) upstream.besideJournal upstream where
  stream := fun _ _ _ _ => rfl

theorem chatAttempt_besideJournal {σ : Type} (service : GatewayService) (upstream : Upstream σ)
    (virtualModel : String) :
    chatAttempt service upstream.besideJournal virtualModel =
      besideJournal (chatAttempt service upstream virtualModel) := by
  funext number candidate s
  cases executes : candidate.executorType with
  | cli =>
      simp only [chatAttempt, besideJournal, executes, attemptExecutor, Upstream.besideJournal]
      split
      · rfl
      · generalize upstream.execute number candidate s.1 = call
        obtain ⟨reply, after⟩ := call
        cases reply <;> rfl
  | api =>
      simp only [chatAttempt, besideJournal, executes, attemptApi, Upstream.besideJournal]
      split
      · rfl
      · cases service.secret candidate with
        | error error => rfl
        | ok secret =>
            dsimp only
            generalize upstream.chatCompletions number candidate secret s.1 = call
            obtain ⟨reply, after⟩ := call
            cases reply <;> rfl

section Journals

variable {σ : Type} (S : StateStore σ) (engine : FallbackEngine) (service : GatewayService)
  (clock : Clock) (upstream : Upstream σ) (requestId virtualModel : String) (payload : Dict)
  (counter : Nat) (start : σ)

/-- What a call of `chat` writes, in order. -/
def chatJournal : List Write :=
  (chat (journaling S) engine service clock upstream.besideJournal requestId virtualModel payload
    counter (start, [])).store.2

/-- The streamed call, with the journal of its writes. -/
def journaledStream : StreamResult (σ × List Write) :=
  chatStream (journaling S) engine service clock upstream.besideJournal requestId virtualModel
    payload counter (start, [])

/-- What a call of `chat_stream` writes, in order. -/
def streamJournal : List Write :=
  (journaledStream S engine service clock upstream requestId virtualModel payload counter
    start).store.2

/-- Keeping the journal changes nothing else. -/
theorem journaledStream_erased :
    (journaledStream S engine service clock upstream requestId virtualModel payload counter
        start).map Prod.fst =
      chatStream S engine service clock upstream requestId virtualModel payload counter start :=
  (chatStream_read (journalingMap S) engine service clock (streamsAlike_besideJournal S upstream)
    requestId virtualModel payload counter (start, [])).symm

/-- The journal of `chat` is empty without a scored list, and else that of the run. -/
theorem chatJournal_eq :
    chatJournal S engine service clock upstream requestId virtualModel payload counter start =
      match (scoredCandidates S service virtualModel payload counter start).1 with
      | .error _ => []
      | .ok scored => (journaledRun S engine clock ⟨requestId, virtualModel⟩
          (chatAttempt service upstream virtualModel) scored start).store.2 := by
  have same : scoredCandidates (journaling S) service virtualModel payload counter (start, []) =
      scoredCandidates S service virtualModel payload counter start :=
    (scoredCandidates_read (journalingMap S) service virtualModel payload counter (start, [])).symm
  unfold chatJournal chat
  rw [same, chatAttempt_besideJournal]
  generalize scoredCandidates S service virtualModel payload counter start = found
  obtain ⟨outcome, counter'⟩ := found
  cases outcome <;> rfl

end Journals

/-! ## Streams that are recorded without a write -/

/-- The stream ends, and nothing in it ends a stream or selects one. -/
def UpstreamStream.WithoutContent (stream : UpstreamStream) : Prop :=
  stream.ending = none ∧
    ∀ event ∈ stream.events, isDone event = false ∧ isValidChunk event = .ok false

/-- The stream raises after an end marker and without a valid chunk, with a class whose
failures write. -/
def UpstreamStream.FailsAfterMarker (stream : UpstreamStream) : Prop :=
  ∃ exception, (UpstreamStream.readable stream.ending stream.events).raised = some exception ∧
    (∃ event ∈ (UpstreamStream.readable stream.ending stream.events).yields,
      isDone event = true) ∧
    ¬ HasValidChunk (UpstreamStream.readable stream.ending stream.events).yields ∧
    ¬ ((candidateFailure exception).errorClass = .tokenLimit ∨
      (candidateFailure exception).errorClass = .unknown)

def UpstreamStream.Accounted (stream : UpstreamStream) : Prop :=
  ¬ stream.WithoutContent ∧ ¬ stream.FailsAfterMarker

/-- Every stream that the call contacts is accounted for. -/
def StreamResult.AllAccounted {σ : Type} (call : StreamResult σ) : Prop :=
  ∀ selection, call.selection = some selection →
    ∀ contact ∈ selection.contacts, contact.stream.Accounted

theorem readPrefix_exhausted_iff {ending : Option UpstreamException} {events : List Event} :
    readPrefix ending events = .exhausted ↔
      UpstreamStream.WithoutContent ⟨events, ending⟩ := by
  unfold UpstreamStream.WithoutContent
  dsimp only
  induction events with
  | nil => cases ending <;> simp [readPrefix]
  | cons event rest inductionHypothesis =>
      rw [List.forall_mem_cons]
      unfold readPrefix
      cases done : isDone event with
      | true => simp
      | false =>
          cases looked : isValidChunk event with
          | error text => simp
          | ok valid =>
              cases valid with
              | true => simp
              | false =>
                  simp only [Bool.false_eq_true, if_false, and_self, true_and]
                  rw [← inductionHypothesis]
                  cases readPrefix ending rest <;> simp

/-- Where nothing is selected, no end marker can be read. -/
theorem noMarker_of_unselected {ending : Option UpstreamException} {events : List Event}
    (unselected : ∀ buffered rest, readPrefix ending events ≠ .selected buffered rest) :
    ∀ event ∈ (UpstreamStream.readable ending events).yields, isDone event = false := by
  induction events with
  | nil => exact List.forall_mem_nil _
  | cons event rest inductionHypothesis =>
      unfold readPrefix at unselected
      unfold UpstreamStream.readable
      cases done : isDone event with
      | true =>
          rw [done, if_pos rfl] at unselected
          exact absurd rfl (unselected _ _)
      | false =>
          rw [done, if_neg Bool.false_ne_true] at unselected
          cases looked : isValidChunk event with
          | error text => exact List.forall_mem_nil _
          | ok valid =>
              rw [looked] at unselected
              cases valid with
              | true => exact absurd rfl (unselected _ _)
              | false =>
                  have later : ∀ buffered tail,
                      readPrefix ending rest ≠ .selected buffered tail := by
                    intro buffered tail selected
                    rw [selected] at unselected
                    exact unselected _ _ rfl
                  exact List.forall_mem_cons.mpr ⟨done, inductionHypothesis later⟩

/-! ## Selection -/

section Selection

variable {σ : Type} {S : StateStore σ} (quiet : QuietRecord S) (engine : FallbackEngine)
  (service : GatewayService) (clock : Clock) (upstream : Upstream σ) (request : RequestInfo)

include quiet

/-- Of the prefixes that select nothing, the one without content writes nothing. -/
theorem settlePrefix_adds (attempt : Nat) (candidate : RouteCandidate) (s : σ × List Write)
    (read : PrefixResult) :
    Adds engine clock (read ≠ .exhausted) s.2
      (settlePrefix (journaling S) engine clock request attempt candidate s read).state.2 := by
  cases read with
  | selected buffered rest => exact (Extends.refl s.2).of_iff (iff_of_true trivial (by simp))
  | exhausted =>
      obtain ⟨s', recorded, journal⟩ := record_journal quiet
        (routeEvent request candidate attempt (some .server) .nextCandidate) s
      unfold settlePrefix
      rw [recorded, StoreResult.state_done, journal]
      apply (adds_bare s.2 request candidate attempt .server).of_iff
      simp
  | failed exception =>
      unfold settlePrefix
      dsimp only
      cases applied : applyFailure (journaling S) engine (clock.settle attempt) candidate
          (candidateFailure exception) s with
      | raised error own =>
          change Adds engine clock _ s.2 own.2
          rw [journal_of_applyFailure_raised applied]
          exact (Extends.refl s.2).of_iff (iff_of_true trivial (by simp))
      | done own =>
          obtain ⟨s', recorded, journal⟩ := record_journal quiet (routeEvent request candidate
            attempt (some (candidateFailure exception).errorClass) .nextCandidate) own
          dsimp only
          rw [recorded, StoreResult.state_done, journal, journal_of_applyFailure_done applied]
          exact (adds_failure s.2 request candidate attempt _ _).of_iff
            (iff_of_true trivial (by simp))

theorem contactCandidate_adds (attempt : Nat) (candidate : RouteCandidate) (secret : String)
    (s : σ × List Write) :
    Adds engine clock
      (¬ (contactCandidate (journaling S) engine clock upstream.besideJournal request attempt
        candidate secret s).1.stream.WithoutContent) s.2
      (contactCandidate (journaling S) engine clock upstream.besideJournal request attempt
        candidate secret s).1.settled.2 := by
  rw [contactCandidate_log]
  exact (settlePrefix_adds quiet engine clock request attempt candidate
    ((upstream.chatCompletionsStream attempt candidate secret s.1).2, s.2) _).of_iff
    (not_congr readPrefix_exhausted_iff)

theorem selectFrom_adds (scored : List ScoredCandidate) (position attempts : Nat)
    (s : σ × List Write) :
    Adds engine clock
      (∀ contact ∈ (selectFrom (journaling S) engine service clock upstream.besideJournal request
        scored position attempts s).contacts, ¬ contact.stream.WithoutContent) s.2
      (selectFrom (journaling S) engine service clock upstream.besideJournal request scored
        position attempts s).store.2 := by
  have nobody : ∀ {selection : Selection (σ × List Write)}, selection.contacts = [] →
      (True ↔ ∀ contact ∈ selection.contacts, ¬ contact.stream.WithoutContent) := by
    intro selection none
    rw [none]
    exact iff_of_true trivial (List.forall_mem_nil _)
  induction scored generalizing position attempts s with
  | nil => exact (Extends.refl s.2).of_iff (nobody rfl)
  | cons sc rest inductionHypothesis =>
      simp only [selectFrom]
      split
      · split
        · exact (Extends.refl s.2).of_iff (nobody rfl)
        · split
          · exact (Extends.refl s.2).of_iff (nobody rfl)
          · rename_i secret _
            have one := contactCandidate_adds quiet engine clock upstream request (attempts + 1)
              sc.candidate secret s
            split
            · exact one.of_iff (List.forall_mem_singleton).symm
            · exact (one.trans (inductionHypothesis _ _ _)).of_iff List.forall_mem_cons.symm
      · exact inductionHypothesis _ _ _

omit quiet

/-- A contact either selects its stream, or the stream has no end marker to fail after. -/
theorem contactCandidate_marker (S : StateStore σ) (attempt : Nat) (candidate : RouteCandidate)
    (secret : String) (s : σ) :
    match (contactCandidate S engine clock upstream request attempt candidate secret s).2 with
    | some (.selected handle) =>
        (contactCandidate S engine clock upstream request attempt candidate secret s).1.stream =
          ⟨handle.buffered ++ handle.events, handle.ending⟩
    | _ =>
        ¬ (contactCandidate S engine clock upstream request attempt candidate secret
          s).1.stream.FailsAfterMarker := by
  simp only [contactCandidate]
  generalize upstream.chatCompletionsStream attempt candidate secret s = call
  have unmarked : (∀ buffered rest,
      readPrefix call.1.ending call.1.events ≠ .selected buffered rest) →
      ¬ call.1.FailsAfterMarker := by
    rintro unselected ⟨exception, raised, ⟨event, member, done⟩, -⟩
    rw [noMarker_of_unselected unselected event member] at done
    cases done
  cases read : readPrefix call.1.ending call.1.events with
  | selected buffered rest =>
      rw [settlePrefix]
      dsimp only
      rw [(readPrefix_selected read).1]
  | exhausted =>
      have own := unmarked (by simp [read])
      cases settlePrefix S engine clock request attempt candidate call.2 .exhausted <;> exact own
  | failed exception =>
      have own := unmarked (by simp [read])
      cases settlePrefix S engine clock request attempt candidate call.2 (.failed exception) <;>
        exact own

/-- Only the selected stream can fail after an end marker. -/
theorem selectFrom_markers (S : StateStore σ) (scored : List ScoredCandidate)
    (position attempts : Nat) (s : σ) :
    (∀ contact ∈ (selectFrom S engine service clock upstream request scored position attempts
        s).contacts, ¬ contact.stream.FailsAfterMarker) ↔
      ∀ handle, (selectFrom S engine service clock upstream request scored position attempts
          s).ending = .selected handle →
        ¬ UpstreamStream.FailsAfterMarker ⟨handle.buffered ++ handle.events, handle.ending⟩ := by
  have unselected : ∀ {error : ServiceError} (handle : StreamHandle),
      SelectionEnd.raised error = .selected handle →
        ¬ UpstreamStream.FailsAfterMarker ⟨handle.buffered ++ handle.events, handle.ending⟩ := by
    intro error handle selected
    cases selected
  induction scored generalizing position attempts s with
  | nil => exact iff_of_true (List.forall_mem_nil _) unselected
  | cons sc rest inductionHypothesis =>
      simp only [selectFrom]
      split
      · split
        · exact iff_of_true (List.forall_mem_nil _) unselected
        · split
          · exact iff_of_true (List.forall_mem_nil _) unselected
          · rename_i secret _
            have marker := contactCandidate_marker engine clock upstream request S (attempts + 1)
              sc.candidate secret s
            split
            · rename_i ending ends
              rw [ends] at marker
              apply List.forall_mem_singleton.trans
              cases ending with
              | raised error => exact iff_of_true marker unselected
              | selected handle =>
                  change ¬ UpstreamStream.FailsAfterMarker (contactCandidate _ _ _ _ _ _ _ _
                    _).1.stream ↔ _
                  rw [marker]
                  constructor
                  · rintro own handle' ⟨⟩
                    exact own
                  · intro each
                    exact each handle rfl
            · rename_i continues
              rw [continues] at marker
              exact List.forall_mem_cons.trans ((and_iff_right marker).trans
                (inductionHypothesis _ _ _))
      · exact inductionHypothesis _ _ _

end Selection

/-! ## Delivery -/

section Delivery

variable {σ : Type} {S : StateStore σ} (quiet : QuietRecord S) (engine : FallbackEngine)
  (clock : Clock) (request : RequestInfo) (handle : StreamHandle)

include quiet

/-- The failure of a delivery is never applied. -/
theorem deliveryFailure_adds (exception : UpstreamException) (committed : Bool)
    (s : σ × List Write) :
    Adds engine clock (committed = true ∨ (candidateFailure exception).errorClass = .tokenLimit ∨
        (candidateFailure exception).errorClass = .unknown) s.2
      (deliveryFailure (journaling S) request handle exception committed s).store.2 := by
  obtain ⟨s', recorded, journal⟩ := record_journal quiet (routeEvent request handle.candidate
    handle.attempt (some (candidateFailure exception).errorClass)
    (if committed then .partialStreamFailure else .nextCandidate)) s
  unfold deliveryFailure
  dsimp only
  rw [recorded]
  cases committed with
  | true =>
      change Adds engine clock _ s.2 s'.2
      rw [journal]
      apply (adds_lone_event s.2 ?_).of_iff (iff_of_true trivial (Or.inl rfl))
      rintro ⟨⟩
  | false =>
      change Adds engine clock _ s.2 s'.2
      rw [journal]
      exact (adds_bare s.2 request handle.candidate handle.attempt _).of_iff (by simp)

theorem recordDone_adds (event : Event) (s : σ × List Write) :
    ∃ s', recordDone (journaling S) request handle event s = .done s' ∧
      Adds engine clock True s.2 s'.2 := by
  unfold recordDone
  split
  · obtain ⟨s', recorded, journal⟩ := record_journal quiet
      (routeEvent request handle.candidate handle.attempt none .success) s
    refine ⟨s', recorded, ?_⟩
    rw [journal]
    apply adds_lone_event
    rintro ⟨⟩
  · exact ⟨s, rfl, .refl _⟩

/-- An exception before anything was committed is recorded without a write. -/
theorem deliver_adds (events : List (Bool × Event)) (committed : Bool) (s : σ × List Write) :
    Adds engine clock
      (∀ exception, (handle.iterate events committed).raised = some exception →
        (committed = true ∨ HasValidChunk (handle.iterate events committed).yields) ∨
          (candidateFailure exception).errorClass = .tokenLimit ∨
          (candidateFailure exception).errorClass = .unknown) s.2
      (deliver (journaling S) request handle events committed s).store.2 := by
  have failure : ∀ (exception : UpstreamException) (committed : Bool) (s : σ × List Write),
      Adds engine clock (∀ other, some exception = some other →
        (committed = true ∨ HasValidChunk []) ∨
          (candidateFailure other).errorClass = .tokenLimit ∨
          (candidateFailure other).errorClass = .unknown) s.2
        (deliveryFailure (journaling S) request handle exception committed s).store.2 := by
    intro exception committed s
    apply (deliveryFailure_adds quiet engine clock request handle exception committed s).of_iff
    simp [not_hasValidChunk_nil]
  induction events generalizing committed s with
  | nil =>
      simp only [deliver, StreamHandle.iterate]
      cases handle.ending with
      | none => exact (Extends.refl s.2).of_iff (iff_of_true trivial (by simp))
      | some exception => exact failure exception committed s
  | cons item rest inductionHypothesis =>
      obtain ⟨replayed, event⟩ := item
      simp only [deliver, StreamHandle.iterate]
      cases looked : commits replayed committed event with
      | error text => exact failure _ committed s
      | ok committed' =>
          obtain ⟨s', recorded, one⟩ := recordDone_adds quiet engine clock request handle event s
          dsimp only
          rw [recorded]
          refine (one.trans (inductionHypothesis committed' s')).of_iff ?_
          simp only [true_and, hasValidChunk_cons, commits_ok looked, or_assoc]

end Delivery

/-- A selected stream fails after an end marker exactly if its delivery raises before a
chunk, with a class whose failures write. -/
theorem failsAfterMarker_iff {handle : StreamHandle} (validated : handle.Validated) :
    ¬ UpstreamStream.FailsAfterMarker ⟨handle.buffered ++ handle.events, handle.ending⟩ ↔
      ∀ exception, handle.iteration.raised = some exception →
        (false = true ∨ HasValidChunk handle.iteration.yields) ∨
          (candidateFailure exception).errorClass = .tokenLimit ∨
          (candidateFailure exception).errorClass = .unknown := by
  have marked : ¬ HasValidChunk handle.iteration.yields →
      ∃ event ∈ handle.iteration.yields, isDone event = true := by
    intro noChunk
    obtain ⟨event, member, done | valid⟩ := validated.yields
    · exact ⟨event, member, done⟩
    · exact absurd ⟨event, member, valid⟩ noChunk
  unfold UpstreamStream.FailsAfterMarker
  rw [validated.iteration] at marked ⊢
  constructor
  · intro accounted exception raised
    by_contra failed
    rw [not_or, not_or] at failed
    exact accounted ⟨exception, raised, marked failed.1.2, failed.1.2, failed.2⟩
  · rintro each ⟨exception, raised, -, noChunk, writes⟩
    rcases each exception raised with (impossible | chunk) | silent
    · cases impossible
    · exact noChunk chunk
    · exact writes silent

/-! ## Both entries -/

section Entries

variable {σ : Type} {S : StateStore σ} (quiet : QuietRecord S) (engine : FallbackEngine)
  (service : GatewayService) (clock : Clock) (upstream : Upstream σ)
  (requestId virtualModel : String) (payload : Dict) (counter : Nat) (start : σ)

include quiet

theorem chatJournal_accompanied :
    Accompanied engine clock (chatJournal S engine service clock upstream requestId virtualModel
      payload counter start) := by
  rw [chatJournal_eq]
  cases (scoredCandidates S service virtualModel payload counter start).1 with
  | error error => exact audited_nil
  | ok scored => exact journaledRun_accompanied quiet engine clock _ _ scored start

theorem streamJournal_accompanied_iff :
    Accompanied engine clock (streamJournal S engine service clock upstream requestId virtualModel
        payload counter start) ↔
      (journaledStream S engine service clock upstream requestId virtualModel payload counter
        start).AllAccounted := by
  unfold streamJournal journaledStream chatStream
  generalize scoredCandidates (journaling S) service virtualModel payload counter (start, []) =
    found
  obtain ⟨outcome, counter'⟩ := found
  cases outcome with
  | error error =>
      apply iff_of_true audited_nil
      intro selection isSelection
      cases isSelection
  | ok scored =>
      have selects := selectFrom_adds quiet engine service clock upstream ⟨requestId, virtualModel⟩
        scored 0 0 (start, [])
      have markers := selectFrom_markers engine service clock upstream.besideJournal
        ⟨requestId, virtualModel⟩ (journaling S) scored 0 0 (start, [])
      have validated : ∀ handle, (selectFrom (journaling S) engine service clock
          upstream.besideJournal ⟨requestId, virtualModel⟩ scored 0 0 (start, [])).ending =
            .selected handle → handle.Validated :=
        fun handle selected => selectFrom_validated scored 0 0 (start, []) selected
      dsimp only
      generalize selectFrom (journaling S) engine service clock upstream.besideJournal
        ⟨requestId, virtualModel⟩ scored 0 0 (start, []) = selection at selects markers validated
      have accounted : (∀ contact ∈ selection.contacts, contact.stream.Accounted) ↔
          (∀ contact ∈ selection.contacts, ¬ contact.stream.WithoutContent) ∧
            ∀ contact ∈ selection.contacts, ¬ contact.stream.FailsAfterMarker := by
        simp only [UpstreamStream.Accounted, imp_and, forall_and]
      have all : ∀ call : StreamResult (σ × List Write), call.selection = some selection →
          (call.AllAccounted ↔ ∀ contact ∈ selection.contacts, contact.stream.Accounted) := by
        intro call isSelection
        constructor
        · exact fun each => each selection isSelection
        · intro each other isOther
          cases isSelection.symm.trans isOther
          exact each
      cases ending : selection.ending with
      | raised error =>
          dsimp only
          rw [all _ rfl, accounted]
          apply (selects.audited rfl).trans
          rw [and_iff_right audited_nil]
          refine (and_iff_left (markers.mpr ?_)).symm
          intro handle selected
          rw [ending] at selected
          cases selected
      | selected handle =>
          have delivers := deliver_adds quiet engine clock ⟨requestId, virtualModel⟩ handle
            handle.iterated false selection.store
          rw [StreamHandle.iterate_iterated, ← failsAfterMarker_iff (validated handle ending)]
            at delivers
          dsimp only
          rw [all _ rfl, accounted]
          apply ((selects.trans delivers).audited rfl).trans
          rw [and_iff_right audited_nil, markers, ending]
          apply and_congr_right
          intro _
          constructor
          · rintro own other ⟨⟩
            exact own
          · exact fun each => each handle rfl

end Entries

theorem contacts_map {σ τ : Type} (f : σ → τ) (selection : Selection σ) :
    (selection.map f).contacts = selection.contacts := by
  unfold Selection.contacts Selection.map
  rw [List.filterMap_map]
  apply List.filterMap_congr
  intro turn member
  obtain ⟨position, scored, store, attempts, verdict⟩ := turn
  cases verdict <;> rfl

theorem allAccounted_map {σ τ : Type} (f : σ → τ) (call : StreamResult σ) :
    (call.map f).AllAccounted ↔ call.AllAccounted := by
  unfold StreamResult.AllAccounted StreamResult.map
  dsimp only
  constructor
  · intro each selection isSelection
    rw [← contacts_map f]
    exact each _ (congrArg (Option.map (Selection.map f)) isSelection)
  · intro each selection isSelection
    obtain ⟨own, isOwn, rfl⟩ := Option.map_eq_some_iff.mp isSelection
    rw [contacts_map f]
    exact each own isOwn

/-- The candidate's provider is degraded, with a cooldown that reaches the time. -/
structure DegradedUntil (kind : StoreKind) (s : kind.Contents) (candidate : RouteCandidate)
    (time : Instant) : Prop where
  health : kind.store.getHealth s (providerSubject candidate) = .degraded
  cooldown : ∃ deadline, kind.store.getCooldown s (providerSubject candidate) = some deadline ∧
    time ≤ deadline

theorem server_failure_degrades (kind : StoreKind) (engine : FallbackEngine) (now : Instant)
    (candidate : RouteCandidate) {failure : CandidateFailure}
    (server : failure.errorClass = .server) (s : kind.Contents) :
    DegradedUntil kind (applyFailure kind.store engine now candidate failure s).state candidate
      (cooldown now engine.serverCooldown 0) := by
  have seen : (kind.scopedStore.board
      (applyFailure kind.store engine now candidate failure s).state).seenHealth
        (providerSubject candidate) =
      some (.degraded, some (cooldown now engine.serverCooldown 0)) := by
    unfold applyFailure
    rw [server, kind.scopedStore.setHealth_board]
    exact Board.seenHealth_postHealth_of_reads (StoreKind.readsHealth_self _ _) _
  constructor
  · rw [kind.scopedStore.getHealth_eq, seen]
    rfl
  · rw [kind.scopedStore.getCooldown_eq, seen]
    dsimp only [Option.bind_some]
    cases (((kind.scopedStore.board
      (applyFailure kind.store engine now candidate failure s).state).seenQuota
        (providerSubject candidate)).bind Prod.snd) with
    | none => exact ⟨_, rfl, le_rfl⟩
    | some other => exact ⟨_, rfl, le_max_left _ _⟩

/-- Every failure that `chat` records to go on to the next candidate is accompanied by
exactly the write of its class. For `chat_stream` this holds exactly if no contacted
stream ends without content, and none raises after an end marker and without a chunk. -/
theorem failures_accompanied_iff (kind : StoreKind) (engine : FallbackEngine)
    (service : GatewayService) (clock : Clock) (upstream : Upstream kind.Contents)
    (requestId virtualModel : String) (payload : Dict) (counter : Nat) (start : kind.Contents) :
    Accompanied engine clock (chatJournal kind.store engine service clock upstream requestId
        virtualModel payload counter start) ∧
      (Accompanied engine clock (streamJournal kind.store engine service clock upstream requestId
          virtualModel payload counter start) ↔
        (chatStream kind.store engine service clock upstream requestId virtualModel payload counter
          start).AllAccounted) ∧
      ∀ now candidate failure s, failure.errorClass = .server →
        DegradedUntil kind (applyFailure kind.store engine now candidate failure s).state candidate
          (cooldown now engine.serverCooldown 0) := by
  have quiet : QuietRecord kind.store := recordRouteEvent_done kind
  refine ⟨chatJournal_accompanied quiet engine service clock upstream _ _ _ _ _, ?_, ?_⟩
  · rw [streamJournal_accompanied_iff quiet, ← journaledStream_erased, allAccounted_map]
  · intro now candidate failure s server
    exact server_failure_degrades kind engine now candidate server s

/-! ## One key -/

/-- What a streamed call with one key writes, when the key is answered with the stream. -/
def oneStreamJournal (stream : UpstreamStream) : List Write :=
  streamJournal InMemoryStateStore.store {} (keyedService "s") ⟨fun _ => 0, fun _ => 0⟩
    (.constant _ (.body []) (.completed []) stream) "r" "v" [] 0 .empty

def oneStreamEvent (errorClass : Option ErrorClass) (action : EventAction) : RouteEvent :=
  ⟨"r", "v", 1, "p", some "k", "m", errorClass, action⟩

/-- A server failure of the only key, right behind an event, is not accompanied. -/
theorem not_accompanied_of_server {earlier : List Write} (closed : openPart isEvent earlier = [])
    (clock : Clock) :
    ¬ Accompanied {} clock
      (earlier ++ [.event (oneStreamEvent (some .server) .nextCandidate)]) := by
  intro accompanied
  have rule := (audited_concat.mp accompanied).2
  let candidate : RouteCandidate :=
    { providerId := "p"
      credentialId := some "k"
      concreteModel := ⟨"m", "p", ∅⟩
      capabilities := ∅
      executorType := .api
      credentialPriority := 0 }
  obtain ⟨failure, isClass, unwritten⟩ := rule ⟨"r", "v"⟩ candidate 1 .server rfl
  rw [closed] at unwritten
  have silent := prescribedWrites_eq_nil_iff.mp unwritten.symm
  rw [isClass] at silent
  rcases silent with impossible | impossible <;> cases impossible

/-- A stream that ends without content is recorded as a server failure, and so is an
exception after the end marker; neither degrades the provider. -/
theorem unaccompanied_failures :
    oneStreamJournal ⟨[], none⟩ = [.event (oneStreamEvent (some .server) .nextCandidate)] ∧
      ¬ Accompanied {} ⟨fun _ => 0, fun _ => 0⟩ (oneStreamJournal ⟨[], none⟩) ∧
      oneStreamJournal ⟨[doneMarker], some (.other "cut")⟩ =
        [.event (oneStreamEvent none .success),
          .event (oneStreamEvent (some .server) .nextCandidate)] ∧
      ¬ Accompanied {} ⟨fun _ => 0, fun _ => 0⟩
        (oneStreamJournal ⟨[doneMarker], some (.other "cut")⟩) := by
  have empty : oneStreamJournal ⟨[], none⟩ =
      [.event (oneStreamEvent (some .server) .nextCandidate)] := by
    decide +kernel
  have cut : oneStreamJournal ⟨[doneMarker], some (.other "cut")⟩ =
      [.event (oneStreamEvent none .success),
        .event (oneStreamEvent (some .server) .nextCandidate)] := by
    decide +kernel
  refine ⟨empty, ?_, cut, ?_⟩
  · rw [empty]
    exact not_accompanied_of_server openPart_nil _
  · rw [cut]
    have closed : openPart isEvent [.event (oneStreamEvent none .success)] = [] := rfl
    exact not_accompanied_of_server closed _

end AutoRouteGateway.Service
