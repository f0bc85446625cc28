import AutoRouteGateway.Config.Loader
import AutoRouteGateway.Service.NoMixedResponse
import AutoRouteGateway.State.Stores

/-!
Contract: when pre-commit fallback in streaming is total.

The adapter and the secret of a candidate are looked up outside the `try` of
the selection loop, so an unprepared candidate ends the whole call.

Owns: how the selection loop ends, and the exact condition under which it goes
on past every failure.
-/

namespace AutoRouteGateway.Service

open AutoRouteGateway.Config
open AutoRouteGateway.Domain
open AutoRouteGateway.Library
open AutoRouteGateway.Policy
open AutoRouteGateway.Routing
open AutoRouteGateway.Runtime
open AutoRouteGateway.State

/-! ## Stores that do not raise -/

section Quiet

variable (kind : StoreKind) (engine : FallbackEngine)

theorem recordRouteEvent_done (event : RouteEvent) (s : kind.Contents) :
    ∃ s', kind.store.recordRouteEvent event s = .done s' := by
  cases kind <;> exact ⟨_, rfl⟩

/-- A failure of a candidate with a credential is recorded without an exception. -/
theorem applyFailure_done {candidate : RouteCandidate} (keyed : candidate.credentialId ≠ none)
    (now : Instant) (failure : CandidateFailure) (s : kind.Contents) :
    ∃ s', applyFailure kind.store engine now candidate failure s = .done s' := by
  obtain ⟨id, isId⟩ := Option.ne_none_iff_exists'.mp keyed
  unfold applyFailure
  cases kind with
  | inMemory => cases failure.errorClass <;> exact ⟨_, rfl⟩
  | sqlite =>
      cases failure.errorClass with
      | auth =>
          change ∃ s', SqliteStateStore.setCredential (credentialSubject candidate) .authError _ s =
            .done s'
          unfold SqliteStateStore.setCredential
          simp only [credentialSubject, isId]
          exact ⟨_, rfl⟩
      | _ => exact ⟨_, rfl⟩

end Quiet

/-! ## Candidates that can be contacted -/

/-- The adapter exists and the secret resolves. -/
def Prepared (service : GatewayService) (candidate : RouteCandidate) : Prop :=
  service.hasAdapter candidate = true ∧ ∃ secret, service.secret candidate = .ok secret

theorem prepare_eq_ok_iff {service : GatewayService} {candidate : RouteCandidate}
    {secret : String} :
    prepare service candidate = .ok secret ↔
      service.hasAdapter candidate = true ∧ service.secret candidate = .ok secret := by
  unfold prepare
  cases service.hasAdapter candidate with
  | false => simp
  | true => cases service.secret candidate <;> simp

theorem prepare_ok_iff {service : GatewayService} {candidate : RouteCandidate} :
    (∃ secret, prepare service candidate = .ok secret) ↔ Prepared service candidate := by
  simp only [prepare_eq_ok_iff, Prepared, exists_and_left]

/-- A lookup that fails raises its own exception, never the one of an empty pool. -/
theorem prepare_error_ne {service : GatewayService} {candidate : RouteCandidate}
    {error : ServiceError} (failed : prepare service candidate = .error error)
    (noEligible : NoEligibleCandidateError) : error ≠ .noEligible noEligible := by
  unfold prepare at failed
  split at failed
  · cases failed
    exact nofun
  · split at failed
    · cases failed
      exact nofun
    · cases failed

/-- A candidate is prepared when it is an api candidate whose secret resolves. -/
theorem prepared_iff {service : GatewayService} {candidate : RouteCandidate}
    (isCandidate : IsCandidate service.config candidate) :
    Prepared service candidate ↔
      candidate.executorType = .api ∧ ∃ secret, service.secret candidate = .ok secret := by
  rw [Prepared, GatewayService.hasAdapter_iff isCandidate]

/-- A prepared candidate has a credential. -/
theorem Prepared.keyed {service : GatewayService} {candidate : RouteCandidate}
    (prepared : Prepared service candidate) : candidate.credentialId ≠ none := by
  obtain ⟨-, secret, resolved⟩ := prepared
  exact GatewayService.credential_of_secret resolved

/-! ## What the selection loop does -/

/-- Reading the prefix selects nothing. -/
def UpstreamStream.FailsEarly (stream : UpstreamStream) : Prop :=
  ∀ buffered rest, readPrefix stream.ending stream.events ≠ .selected buffered rest

section Loop

variable {σ : Type} (S : StateStore σ) (engine : FallbackEngine) (service : GatewayService)
  (clock : Clock) (virtualModel : String)

/-- The runs of the selection loop over the rest of the list after some
attempts, when no store operation raises: their turns and how they end. -/
inductive SelectionRun :
    List ScoredCandidate → Nat → List (StreamTurn σ) → SelectionEnd → Prop where
  | exhausted (attempts : Nat) :
      SelectionRun [] attempts [] (.raised (.noEligible ⟨virtualModel, attempts, none⟩))
  | skipped (position : Nat) (s : σ) {sc rest attempts turns ending}
      (idle : attemptable S (clock.check position) s sc = false)
      (later : SelectionRun rest attempts turns ending) :
      SelectionRun (sc :: rest) attempts (⟨position, sc, s, attempts, .skipped⟩ :: turns) ending
  | ceiling (position : Nat) (s : σ) {sc rest} {attempts : Nat}
      (reached : engine.policy.hardAttemptCeiling ≤ attempts) :
      SelectionRun (sc :: rest) attempts [⟨position, sc, s, attempts, .ceiling⟩]
        (.raised (.noEligible ⟨virtualModel, attempts, none⟩))
  | unprepared (position : Nat) (s : σ) {sc rest} {attempts : Nat} {error}
      (ready : attemptable S (clock.check position) s sc = true)
      (below : attempts < engine.policy.hardAttemptCeiling)
      (failed : prepare service sc.candidate = .error error) :
      SelectionRun (sc :: rest) attempts [⟨position, sc, s, attempts, .unprepared error⟩]
        (.raised error)
  | failed (position : Nat) (s : σ) (log : StreamAttempt σ) {sc rest attempts turns ending}
      (prepared : Prepared service sc.candidate) (early : log.stream.FailsEarly)
      (later : SelectionRun rest (attempts + 1) turns ending) :
      SelectionRun (sc :: rest) attempts
        (⟨position, sc, s, attempts, .contacted log⟩ :: turns) ending
  | selected (position : Nat) (s : σ) (log : StreamAttempt σ) (handle : StreamHandle)
      {sc rest attempts} (prepared : Prepared service sc.candidate)
      (selects : ¬ log.stream.FailsEarly) :
      SelectionRun (sc :: rest) attempts [⟨position, sc, s, attempts, .contacted log⟩]
        (.selected handle)

end Loop

section Quiet

variable (kind : StoreKind) (engine : FallbackEngine) (service : GatewayService) (clock : Clock)
  (upstream : Upstream kind.Contents) (request : RequestInfo)

theorem settlePrefix_done {candidate : RouteCandidate} (keyed : candidate.credentialId ≠ none)
    (attempt : Nat) (s : kind.Contents) (read : PrefixResult) :
    ∃ s', settlePrefix kind.store engine clock request attempt candidate s read = .done s' := by
  cases read with
  | selected buffered rest => exact ⟨s, rfl⟩
  | exhausted => exact recordRouteEvent_done kind _ s
  | failed exception =>
      obtain ⟨s', applied⟩ := applyFailure_done kind engine keyed (clock.settle attempt)
        (candidateFailure exception) s
      simp only [settlePrefix, applied]
      exact recordRouteEvent_done kind _ s'

/-- One contact fails early and the loop goes on, or it selects its stream. -/
theorem contactCandidate_cases {candidate : RouteCandidate}
    (keyed : candidate.credentialId ≠ none) (attempt : Nat) (secret : String)
    (s : kind.Contents) {contact : StreamAttempt kind.Contents × Option SelectionEnd}
    (isContact : contactCandidate kind.store engine clock upstream request attempt candidate
      secret s = contact) :
    (contact.2 = none ∧ contact.1.stream.FailsEarly) ∨
      ∃ handle, contact.2 = some (.selected handle) ∧ ¬ contact.1.stream.FailsEarly := by
  subst isContact
  simp only [contactCandidate]
  obtain ⟨s', settled⟩ := settlePrefix_done kind engine clock request keyed attempt
    (upstream.chatCompletionsStream attempt candidate secret s).2
    (readPrefix (upstream.chatCompletionsStream attempt candidate secret s).1.ending
      (upstream.chatCompletionsStream attempt candidate secret s).1.events)
  rw [settled]
  dsimp only
  split
  · rename_i buffered rest read
    exact Or.inr ⟨_, rfl, fun early => early buffered rest read⟩
  · rename_i unselected
    exact Or.inl ⟨rfl, fun buffered rest read => unselected buffered rest read⟩

/-- Over either store, the selection loop makes such a run. -/
theorem selectFrom_run (scored : List ScoredCandidate) (position attempts : Nat)
    (s : kind.Contents) :
    SelectionRun kind.store engine service clock request.virtualModel scored attempts
      (selectFrom kind.store engine service clock upstream request scored position attempts
        s).turns
      (selectFrom kind.store engine service clock upstream request scored position attempts
        s).ending := by
  induction scored generalizing position attempts s with
  | nil => exact SelectionRun.exhausted attempts
  | cons sc rest inductionHypothesis =>
      by_cases ready : attemptable kind.store (clock.check position) s sc = true
      · by_cases reached : engine.policy.hardAttemptCeiling ≤ attempts
        · simp only [selectFrom, ready, reached, if_true]
          exact SelectionRun.ceiling position s reached
        · simp only [selectFrom, ready, reached, if_true, if_false]
          cases lookup : prepare service sc.candidate with
          | error error => exact SelectionRun.unprepared position s ready (by omega) lookup
          | ok secret =>
              have prepared := prepare_ok_iff.mp ⟨secret, lookup⟩
              dsimp only
              rcases contactCandidate_cases kind engine clock upstream request prepared.keyed
                (attempts + 1) secret s rfl with ⟨goesOn, early⟩ | ⟨handle, ends, selects⟩
              · rw [goesOn]
                exact SelectionRun.failed position s _ prepared early
                  (inductionHypothesis (position + 1) (attempts + 1) _)
              · rw [ends]
                exact SelectionRun.selected position s _ handle prepared selects
      · have idle : attemptable kind.store (clock.check position) s sc = false := by
          simpa using ready
        simp only [selectFrom, ready, if_false, Bool.false_eq_true]
        exact SelectionRun.skipped position s idle (inductionHypothesis (position + 1) attempts s)

end Quiet

/-! ## When fallback is total -/

section Total

variable {σ : Type}

/-- Work on the candidate failed before an event was yielded: the lookup of its
adapter or secret, or its stream. -/
def StreamTurn.Failed (turn : StreamTurn σ) : Prop :=
  match turn.verdict with
  | .unprepared _ => True
  | .contacted attempt => attempt.stream.FailsEarly
  | _ => False

variable (S : StateStore σ) (engine : FallbackEngine) (service : GatewayService) (clock : Clock)
  (virtualModel : String)

/-- The candidate is usable and eligible at its turn. -/
def StreamTurn.Open (turn : StreamTurn σ) : Prop :=
  attemptable S (clock.check turn.position) turn.store turn.scored = true

/-- Work on the candidate starts: it is open, and the ceiling is not reached. -/
def StreamTurn.Due (turn : StreamTurn σ) : Prop :=
  turn.Open S clock ∧ turn.attempts < engine.policy.hardAttemptCeiling

/-- Fallback over the rest of the list, after some attempts, is total. -/
structure FallbackIsTotal (attempts : Nat) (scored : List ScoredCandidate)
    (turns : List (StreamTurn σ)) (ending : SelectionEnd) : Prop where
  /-- Positions are visited in order, and only those that are not open are skipped. -/
  inOrder : turns.map StreamTurn.scored <+: scored
  begins : scored ≠ [] → turns ≠ []
  skips : ∀ turn ∈ turns, turn.verdict = .skipped → ¬ turn.Open S clock
  /-- After a failure the next position is visited, if there is one. -/
  goesOn : ∀ turn, turns.getLast? = some turn → turn.Failed → turns.length = scored.length
  /-- Selection raises nothing but `NoEligibleCandidateError`, and only at the
  ceiling or when every position was visited and either failed or was not open. -/
  raises : ∀ error, ending = .raised error → ∃ made,
    error = .noEligible ⟨virtualModel, made, none⟩ ∧
      made = attempts + (turns.filterMap StreamTurn.contact?).length ∧
        (engine.policy.hardAttemptCeiling ≤ made ∨
          turns.length = scored.length ∧ ∀ turn ∈ turns, turn.Failed ∨ ¬ turn.Open S clock)

variable {S engine service clock virtualModel}

theorem FallbackIsTotal.exhausted {attempts : Nat} :
    FallbackIsTotal S engine clock virtualModel attempts [] []
      (.raised (.noEligible ⟨virtualModel, attempts, none⟩)) where
  inOrder := List.nil_prefix
  begins := fun nonempty => absurd rfl nonempty
  skips := by
    intro turn member
    cases member
  goesOn := by
    intro turn isLast
    cases isLast
  raises := by
    intro error raised
    cases raised
    refine ⟨attempts, rfl, rfl, Or.inr ⟨rfl, ?_⟩⟩
    intro turn member
    cases member

/-- The loop stops at the ceiling. -/
theorem FallbackIsTotal.atCeiling {attempts : Nat} (position : Nat) (s : σ)
    (sc : ScoredCandidate) (rest : List ScoredCandidate)
    (reached : engine.policy.hardAttemptCeiling ≤ attempts) :
    FallbackIsTotal S engine clock virtualModel attempts (sc :: rest)
      [⟨position, sc, s, attempts, .ceiling⟩]
      (.raised (.noEligible ⟨virtualModel, attempts, none⟩)) where
  inOrder := List.cons_prefix_cons.mpr ⟨rfl, List.nil_prefix⟩
  begins := fun _ => List.cons_ne_nil _ _
  skips := by
    intro turn member skipped
    rw [List.mem_singleton.mp member] at skipped
    cases skipped
  goesOn := by
    intro turn isLast failed
    rw [← Option.some.inj isLast] at failed
    cases failed
  raises := by
    intro error raised
    cases raised
    exact ⟨attempts, rfl, rfl, Or.inl reached⟩

/-- The loop stops with a selection. -/
theorem FallbackIsTotal.selected {attempts : Nat} (turn : StreamTurn σ)
    (rest : List ScoredCandidate) (handle : StreamHandle)
    (visited : turn.verdict ≠ .skipped) (succeeds : ¬ turn.Failed) :
    FallbackIsTotal S engine clock virtualModel attempts (turn.scored :: rest) [turn]
      (.selected handle) where
  inOrder := List.cons_prefix_cons.mpr ⟨rfl, List.nil_prefix⟩
  begins := fun _ => List.cons_ne_nil _ _
  skips := by
    intro other member skipped
    rw [List.mem_singleton.mp member] at skipped
    exact absurd skipped visited
  goesOn := by
    intro other isLast failed
    rw [← Option.some.inj isLast] at failed
    exact absurd failed succeeds
  raises := by
    intro error raised
    cases raised

/-- A position that is skipped or fails, in front of a total rest. -/
theorem FallbackIsTotal.cons {attempts attempts' : Nat} (turn : StreamTurn σ)
    {rest : List ScoredCandidate} {turns : List (StreamTurn σ)} {ending : SelectionEnd}
    (skips : turn.verdict = .skipped → ¬ turn.Open S clock)
    (passed : turn.Failed ∨ ¬ turn.Open S clock)
    (counted : attempts' = attempts + ([turn].filterMap StreamTurn.contact?).length)
    (later : FallbackIsTotal S engine clock virtualModel attempts' rest turns ending) :
    FallbackIsTotal S engine clock virtualModel attempts (turn.scored :: rest) (turn :: turns)
      ending where
  inOrder := List.cons_prefix_cons.mpr ⟨rfl, later.inOrder⟩
  begins := fun _ => List.cons_ne_nil _ _
  skips := by
    intro other member skipped
    rcases List.mem_cons.mp member with same | member
    · rw [same] at skipped ⊢
      exact skips skipped
    · exact later.skips other member skipped
  goesOn := by
    intro other isLast failed
    cases turns with
    | nil =>
        have nothingLeft : rest = [] := by
          by_contra nonempty
          exact later.begins nonempty rfl
        rw [nothingLeft]
        rfl
    | cons next turns =>
        rw [List.getLast?_cons_cons] at isLast
        have visited := later.goesOn other isLast failed
        rw [List.length_cons, visited, List.length_cons]
  raises := by
    intro error raised
    obtain ⟨made, isError, isMade, reason⟩ := later.raises error raised
    refine ⟨made, isError, ?_, ?_⟩
    · change made = attempts + (([turn] ++ turns).filterMap StreamTurn.contact?).length
      rw [isMade, counted, List.filterMap_append, List.length_append, Nat.add_assoc]
    · rcases reason with reached | ⟨visited, passes⟩
      · exact Or.inl reached
      · refine Or.inr ⟨by rw [List.length_cons, visited, List.length_cons], ?_⟩
        intro other member
        rcases List.mem_cons.mp member with same | member
        · rw [same]
          exact passed
        · exact passes other member

/-- A run in which every candidate whose work starts is prepared is total. -/
theorem SelectionRun.total {scored : List ScoredCandidate} {attempts : Nat}
    {turns : List (StreamTurn σ)} {ending : SelectionEnd}
    (run : SelectionRun S engine service clock virtualModel scored attempts turns ending)
    (prepared : ∀ turn ∈ turns, turn.Due S engine clock →
      Prepared service turn.scored.candidate) :
    FallbackIsTotal S engine clock virtualModel attempts scored turns ending := by
  induction run with
  | exhausted attempts => exact FallbackIsTotal.exhausted
  | @skipped position s sc rest attempts turns ending idle later inductionHypothesis =>
      have closed : ¬ StreamTurn.Open S clock ⟨position, sc, s, attempts, .skipped⟩ := by
        intro isOpen
        rw [StreamTurn.Open, idle] at isOpen
        cases isOpen
      exact FallbackIsTotal.cons _ (fun _ => closed) (Or.inr closed) rfl
        (inductionHypothesis fun turn member => prepared turn (List.mem_cons_of_mem _ member))
  | ceiling position s reached => exact FallbackIsTotal.atCeiling position s _ _ reached
  | unprepared position s ready below failed =>
      obtain ⟨secret, lookup⟩ := prepare_ok_iff.mpr
        (prepared _ (List.mem_singleton.mpr rfl) ⟨ready, below⟩)
      rw [failed] at lookup
      cases lookup
  | @failed position s log sc rest attempts turns ending isPrepared early later
      inductionHypothesis =>
      exact FallbackIsTotal.cons ⟨position, sc, s, attempts, .contacted log⟩
        (fun skipped => absurd skipped (by simp)) (Or.inl early) rfl
        (inductionHypothesis fun turn member => prepared turn (List.mem_cons_of_mem _ member))
  | @selected position s log handle sc rest attempts isPrepared selects =>
      exact FallbackIsTotal.selected ⟨position, sc, s, attempts, .contacted log⟩ rest handle
        (by simp) selects

/-- A run that raises nothing but `NoEligibleCandidateError` started work on
prepared candidates only. -/
theorem SelectionRun.prepared {scored : List ScoredCandidate} {attempts : Nat}
    {turns : List (StreamTurn σ)} {ending : SelectionEnd}
    (run : SelectionRun S engine service clock virtualModel scored attempts turns ending)
    (onlyNoEligible : ∀ error, ending = .raised error → ∃ own, error = .noEligible own) :
    ∀ turn ∈ turns, turn.Due S engine clock → Prepared service turn.scored.candidate := by
  induction run with
  | exhausted attempts =>
      intro turn member
      cases member
  | skipped position s idle later inductionHypothesis =>
      intro turn member due
      rcases List.mem_cons.mp member with same | member
      · rw [same, StreamTurn.Due, StreamTurn.Open, idle] at due
        cases due.1
      · exact inductionHypothesis onlyNoEligible turn member due
  | ceiling position s reached =>
      intro turn member due
      rw [List.mem_singleton.mp member] at due
      exact absurd due.2 (not_lt.mpr reached)
  | unprepared position s ready below failed =>
      obtain ⟨own, same⟩ := onlyNoEligible _ rfl
      exact absurd same (prepare_error_ne failed own)
  | failed position s log isPrepared early later inductionHypothesis =>
      intro turn member due
      rcases List.mem_cons.mp member with same | member
      · rw [same]
        exact isPrepared
      · exact inductionHypothesis onlyNoEligible turn member due
  | selected position s log handle isPrepared selects =>
      intro turn member due
      rw [List.mem_singleton.mp member]
      exact isPrepared

end Total

/-- Over either store, fallback in one call of `chat_stream` is total exactly
when every candidate that work starts on has an adapter and a secret that is
set. The turns are those of a selection really made from the start store, and
what it raises is what the call raises. -/
theorem chatStream_fallback_total_iff (kind : StoreKind) (engine : FallbackEngine)
    (service : GatewayService) (clock : Clock) (upstream : Upstream kind.Contents)
    (requestId virtualModel : String) (payload : Dict) (counter : Nat) (start : kind.Contents)
    {scored : List ScoredCandidate}
    (isScored : (scoredCandidates kind.store service virtualModel payload counter start).1 =
      .ok scored) :
    ∃ selection, (chatStream kind.store engine service clock upstream requestId virtualModel
        payload counter start).selection = some selection ∧
      SelectionPerformed kind.store engine service clock upstream ⟨requestId, virtualModel⟩ start
        selection ∧
      (∀ error, selection.ending = .raised error →
        (chatStream kind.store engine service clock upstream requestId virtualModel payload
          counter start).result = .error error) ∧
      (FallbackIsTotal kind.store engine clock virtualModel 0 scored selection.turns
          selection.ending ↔
        ∀ turn ∈ selection.turns, turn.Due kind.store engine clock →
          Prepared service turn.scored.candidate) := by
  have run := selectFrom_run kind engine service clock upstream ⟨requestId, virtualModel⟩ scored
    0 0 start
  refine ⟨_, chatStream_selection requestId isScored, selectFrom_performed .., ?_, ?_⟩
  · intro error raised
    exact (chatStream_raised requestId isScored raised).1
  · constructor
    · intro total
      apply run.prepared
      intro error raised
      obtain ⟨made, isError, -⟩ := total.raises error raised
      exact ⟨_, isError⟩
    · exact run.total

/-- One key whose variable is set, and an upstream that ends at once. -/
theorem chatStream_fallback_total_iff_empty_stream :
    ∃ selection, (chatStream InMemoryStateStore.store {} (keyedService "s")
        ⟨fun _ => 0, fun _ => 0⟩ (.constant _ (.body []) (.completed []) ⟨[], none⟩) "r" "v" [] 0
        InMemoryStateStore.empty).selection = some selection ∧
      FallbackIsTotal InMemoryStateStore.store {} ⟨fun _ => 0, fun _ => 0⟩ "v" 0
        (scoreCandidates InMemoryStateStore.store InMemoryStateStore.empty
          [⟨"p", some "k", ⟨"m", "p", {.text, .usage}⟩, {.text, .usage}, .api, 100, false⟩])
        selection.turns selection.ending := by
  obtain ⟨selection, isSelection, -, -, total⟩ := chatStream_fallback_total_iff .inMemory {}
    (keyedService "s") ⟨fun _ => 0, fun _ => 0⟩
    (.constant _ (.body []) (.completed []) ⟨[], none⟩) "r" "v" [] 0 InMemoryStateStore.empty rfl
  refine ⟨selection, isSelection, total.mpr ?_⟩
  intro turn member due
  cases isSelection
  rw [List.mem_singleton.mp member]
  exact ⟨rfl, "s", rfl⟩

/-- The variable of the first key is not set, the one of the second is: the
accepted configuration has a usable candidate left, and selection raises
`MissingSecretError` instead of trying it. -/
theorem chatStream_fallback_not_total :
    validate (singleProviderConfig [{ id := "k1", env := "A" }, { id := "k2", env := "B" }]) =
        .ok () ∧
      ∃ scored selection,
        (scoredCandidates InMemoryStateStore.store (singleProviderService
          [{ id := "k1", env := "A" }, { id := "k2", env := "B" }]
          ⟨UpsertTable.empty.upsert "B" "s", .empty⟩) "v" [] 0 InMemoryStateStore.empty).1 =
            .ok scored ∧
        (chatStream InMemoryStateStore.store {} (singleProviderService
          [{ id := "k1", env := "A" }, { id := "k2", env := "B" }]
          ⟨UpsertTable.empty.upsert "B" "s", .empty⟩) ⟨fun _ => 0, fun _ => 0⟩
          (Upstream.constant _ (.body []) (.completed []) ⟨[[("data", .str "[DONE]")]], none⟩)
          "r" "v" [] 0 InMemoryStateStore.empty).selection = some selection ∧
        selection.ending = .raised (.secret (.missing "A")) ∧
        ¬ FallbackIsTotal InMemoryStateStore.store {} ⟨fun _ => 0, fun _ => 0⟩ "v" 0 scored
          selection.turns selection.ending := by
  refine ⟨rfl, _, _, rfl, rfl, rfl, ?_⟩
  intro total
  obtain ⟨made, same, -⟩ := total.raises _ rfl
  cases same

end AutoRouteGateway.Service
