import AutoRouteGateway.Config.Loader
import AutoRouteGateway.Routing.Cooldown
import AutoRouteGateway.Service.Chat

/-!
Contract: what a key without a secret does to the other keys of its provider.

The secret is looked up outside the `try` of an attempt, so the exception
reaches the engine's handler for contract breaches and is settled as a server
failure: the provider's health row becomes degraded, with the cooldown.

Owns: what a sibling candidate sees after such an attempt, and the exact states
in which it sees nothing of it.
-/

namespace AutoRouteGateway.Service

open AutoRouteGateway.Config
open AutoRouteGateway.Domain
open AutoRouteGateway.Library
open AutoRouteGateway.Policy
open AutoRouteGateway.Routing
open AutoRouteGateway.Runtime
open AutoRouteGateway.State

/-! ## Local events -/

/-- The candidate is scored, held and attempted as before. -/
structure StaysLocal (kind : StoreKind) (before after : kind.Contents)
    (sibling : RouteCandidate) : Prop where
  usable : (scoreCandidate kind.store after sibling).usable =
    (scoreCandidate kind.store before sibling).usable
  cooldown : kind.store.getCooldown after (subject sibling) =
    kind.store.getCooldown before (subject sibling)
  eligible : ∀ now, eligible kind.store now after sibling =
    eligible kind.store now before sibling
  attempted : ∀ now sc, sc.candidate = sibling →
    attemptable kind.store now after sc = attemptable kind.store now before sc

/-- A row for the sibling's model is found before the row of the provider. -/
def ModelRowFound (kind : StoreKind) (s : kind.Contents) (sibling : RouteCandidate) : Prop :=
  firstHit (kind.scopedStore.board s).health (modelScopes kind sibling) ≠ none

/-- The quota or the credential keeps the candidate out, whatever its health. -/
def RefusedAnyway (kind : StoreKind) (s : kind.Contents) (sibling : RouteCandidate) : Prop :=
  kind.store.getQuota s (subject sibling) = .exhausted ∨
    kind.store.getCredential s (subject sibling) = .disabled ∨
      kind.store.getCredential s (subject sibling) = .authError

/-- A server failure of the provider at `now` says nothing new to the sibling:
its deadline is already the one that would be written, or a later one of its
quota, and it is not down, unless it is refused anyway. -/
structure AlreadyHeld (kind : StoreKind) (engine : FallbackEngine) (now : Instant)
    (s : kind.Contents) (sibling : RouteCandidate) : Prop where
  deadline : kind.store.getCooldown s (subject sibling) =
    laterDeadline (some (cooldown now engine.serverCooldown 0))
      (((kind.scopedStore.board s).seenQuota (subject sibling)).bind Prod.snd)
  health : kind.store.getHealth s (subject sibling) = .down → RefusedAnyway kind s sibling

/-- The candidate is out whatever the time. -/
def Refused (kind : StoreKind) (s : kind.Contents) (candidate : RouteCandidate) : Prop :=
  kind.store.getHealth s (subject candidate) = .down ∨ RefusedAnyway kind s candidate

section Reads

variable {kind : StoreKind} {before after : kind.Contents} {sibling : RouteCandidate}

theorem usable_iff_not_refused (s : kind.Contents) (candidate : RouteCandidate) :
    (scoreCandidate kind.store s candidate).usable = true ↔ ¬ Refused kind s candidate := by
  simp only [usable_scoreCandidate_iff, Refused, RefusedAnyway, not_or, ne_eq]

theorem eligible_eq_false_iff_refused (now : Instant) (s : kind.Contents)
    (candidate : RouteCandidate) :
    eligible kind.store now s candidate = false ↔
      Refused kind s candidate ∨
        ∃ d, kind.store.getCooldown s (subject candidate) = some d ∧ now < d := by
  simp only [eligible_eq_false_iff_reads, Refused, RefusedAnyway, or_assoc]

/-- Everything a sibling sees is decided by whether it is out and by its deadline. -/
theorem staysLocal_iff :
    StaysLocal kind before after sibling ↔
      (Refused kind after sibling ↔ Refused kind before sibling) ∧
        kind.store.getCooldown after (subject sibling) =
          kind.store.getCooldown before (subject sibling) := by
  constructor
  · intro stays
    refine ⟨?_, stays.cooldown⟩
    have usable := usable_iff_not_refused after sibling
    rw [stays.usable, usable_iff_not_refused] at usable
    exact (not_iff_not.mp usable).symm
  · rintro ⟨refused, cooldown⟩
    have eligible : ∀ now, eligible kind.store now after sibling =
        eligible kind.store now before sibling := by
      intro now
      have refusals : Routing.eligible kind.store now after sibling = false ↔
          Routing.eligible kind.store now before sibling = false := by
        rw [eligible_eq_false_iff_refused, eligible_eq_false_iff_refused, refused, cooldown]
      rw [Bool.eq_iff_iff, ← Bool.not_eq_false, ← Bool.not_eq_false, refusals]
    constructor
    · rw [Bool.eq_iff_iff, usable_iff_not_refused, usable_iff_not_refused, refused]
    · exact cooldown
    · exact eligible
    · intro now sc same
      rw [attemptable, attemptable, same, eligible]

/-! ## A server failure of the provider -/

variable {engine : FallbackEngine} {now : Instant} {failed : RouteCandidate}

/-- Behind a row for its model, a sibling sees nothing of a row of the provider. -/
theorem seenHealth_serverFailure_hidden (provider : SameProvider failed sibling)
    (board : kind.scopedStore.board after =
      boardFailure engine now failed { errorClass := .server } (kind.scopedStore.board before))
    (found : ModelRowFound kind before sibling) :
    (kind.scopedStore.board after).seenHealth (subject sibling) =
      (kind.scopedStore.board before).seenHealth (subject sibling) := by
  rw [board, boardFailure_providerWide (Or.inr rfl), seenHealth_postProvider provider]
  cases row : firstHit (kind.scopedStore.board before).health (modelScopes kind sibling) with
  | none => exact absurd row found
  | some row' =>
      unfold Board.seenHealth
      rw [firstHit_of_moreSpecific row, Option.some_or]

theorem seenHealth_serverFailure_seen (provider : SameProvider failed sibling)
    (board : kind.scopedStore.board after =
      boardFailure engine now failed { errorClass := .server } (kind.scopedStore.board before))
    (notFound : ¬ ModelRowFound kind before sibling) :
    (kind.scopedStore.board after).seenHealth (subject sibling) =
      some (.degraded, some (cooldown now engine.serverCooldown 0)) := by
  have none : firstHit (kind.scopedStore.board before).health (modelScopes kind sibling) = none :=
    not_not.mp notFound
  rw [board, boardFailure_providerWide (Or.inr rfl), seenHealth_postProvider provider, none,
    Option.none_or, cooldown, Int.add_zero]
  rfl

/-- A server failure of the provider stays local to the failed candidate
exactly when the provider's row is hidden or says nothing new. -/
theorem staysLocal_serverFailure_iff (provider : SameProvider failed sibling)
    (board : kind.scopedStore.board after =
      boardFailure engine now failed { errorClass := .server }
        (kind.scopedStore.board before)) :
    StaysLocal kind before after sibling ↔
      ModelRowFound kind before sibling ∨ AlreadyHeld kind engine now before sibling := by
  have quota : (kind.scopedStore.board after).seenQuota (subject sibling) =
      (kind.scopedStore.board before).seenQuota (subject sibling) := by
    rw [board, boardFailure_providerWide (Or.inr rfl), Board.seenQuota_postHealth]
  have credential : (kind.scopedStore.board after).seenCredential (subject sibling) =
      (kind.scopedStore.board before).seenCredential (subject sibling) := by
    rw [board, boardFailure_providerWide (Or.inr rfl), Board.seenCredential_postHealth]
  have sameRefusal : RefusedAnyway kind after sibling ↔ RefusedAnyway kind before sibling := by
    unfold RefusedAnyway
    rw [kind.scopedStore.getQuota_eq, kind.scopedStore.getQuota_eq,
      kind.scopedStore.getCredential_eq, kind.scopedStore.getCredential_eq, quota, credential]
  by_cases found : ModelRowFound kind before sibling
  · have health := seenHealth_serverFailure_hidden provider board found
    refine iff_of_true (staysLocal_iff.mpr ⟨?_, ?_⟩) (Or.inl found)
    · rw [Refused, Refused, sameRefusal, kind.scopedStore.getHealth_eq,
        kind.scopedStore.getHealth_eq, health]
    · rw [kind.scopedStore.getCooldown_eq, kind.scopedStore.getCooldown_eq, health, quota]
  · have health := seenHealth_serverFailure_seen provider board found
    have notDown : kind.store.getHealth after (subject sibling) ≠ .down := by
      rw [kind.scopedStore.getHealth_eq, health]
      simp
    have deadline : kind.store.getCooldown after (subject sibling) =
        laterDeadline (some (cooldown now engine.serverCooldown 0))
          (((kind.scopedStore.board before).seenQuota (subject sibling)).bind Prod.snd) := by
      rw [kind.scopedStore.getCooldown_eq, health, quota]
      rfl
    rw [staysLocal_iff, or_iff_right found]
    constructor
    · rintro ⟨refused, sameDeadline⟩
      refine ⟨sameDeadline.symm.trans deadline, fun down => ?_⟩
      exact sameRefusal.mp ((refused.mpr (Or.inl down)).resolve_left notDown)
    · intro held
      refine ⟨?_, deadline.trans held.deadline.symm⟩
      rw [Refused, Refused, sameRefusal]
      constructor
      · exact fun refused => Or.inr (refused.resolve_left notDown)
      · exact fun refused => Or.inr (refused.elim held.health id)

end Reads

/-! ## A secret that cannot be resolved -/

section MissingSecret

variable {kind : StoreKind} {engine : FallbackEngine} {service : GatewayService} {clock : Clock}
  {upstream : Upstream kind.Contents}

/-- Recording an event leaves the three dimensions alone, also when it raises. -/
theorem board_record (progress : Progress kind.Contents) (event : RouteEvent) :
    kind.scopedStore.board (progress.record kind.store event).state.store =
      kind.scopedStore.board progress.store := by
  have unchanged := kind.scopedStore.record_board event progress.store
  unfold Progress.record
  dsimp only
  cases result : kind.store.recordRouteEvent event progress.store with
  | done s =>
      rw [result] at unchanged
      exact unchanged
  | raised error s =>
      rw [result] at unchanged
      exact unchanged

/-- The engine settles an exception as a server failure, whatever it says. -/
theorem board_afterException (request : RequestInfo) (candidate : RouteCandidate)
    (text : String) (progress : Progress kind.Contents) :
    kind.scopedStore.board (afterException (ρ := Dict) kind.store engine clock request candidate
        text progress).2.progress.store =
      boardFailure engine (clock.settle progress.attempts) candidate { errorClass := .server }
        (kind.scopedStore.board progress.store) := by
  have applied := board_applyFailure kind.scopedStore engine (clock.settle progress.attempts)
    candidate { errorClass := .server, message := truncate 200 text } progress.store
  unfold afterException
  dsimp only
  cases result : applyFailure kind.store engine (clock.settle progress.attempts) candidate
      { errorClass := .server, message := truncate 200 text } progress.store with
  | raised error s =>
      rw [result] at applied
      exact applied
  | done s =>
      rw [result] at applied
      have recorded := board_record { progress with store := s } (routeEvent request candidate
        progress.attempts (some .server) .nextCandidate)
      dsimp only
      cases outcome : Progress.record kind.store { progress with store := s }
          (routeEvent request candidate progress.attempts (some .server) .nextCandidate) with
      | raised error progress' =>
          rw [outcome] at recorded
          exact recorded.trans applied
      | done progress' =>
          rw [outcome] at recorded
          exact recorded.trans applied

/-- An attempt whose secret cannot be resolved raises before anything upstream
is called. -/
theorem chatAttempt_of_secret_error (upstream : Upstream kind.Contents) (virtualModel : String)
    (number : Nat) {candidate : RouteCandidate} {error : SecretError} (s : kind.Contents)
    (api : candidate.executorType = .api) (unresolved : service.secret candidate = .error error) :
    ∃ text, chatAttempt service upstream virtualModel number candidate s = (.raised text, s) := by
  simp only [chatAttempt, api, attemptApi, unresolved]
  by_cases adapter : service.hasAdapter candidate = false
  · exact ⟨_, if_pos adapter⟩
  · exact ⟨_, if_neg adapter⟩

/-- In a `chat` call, an attempt whose secret cannot be resolved stays local for
a candidate of the same provider exactly when a row for the candidate's model
hides the provider's row, or the candidate is already held as that row would. -/
theorem missing_secret_stays_local_iff {requestId virtualModel : String} {payload : Dict}
    {counter : Nat} {start : kind.Contents} {log : RunLog kind.Contents Dict}
    {turn : Turn kind.Contents Dict} {call : AttemptLog kind.Contents Dict} {error : SecretError}
    {sibling : RouteCandidate}
    (ran : (chat kind.store engine service clock upstream requestId virtualModel payload counter
      start).run = some log)
    (visited : turn ∈ log.turns) (made : call ∈ turn.attempts)
    (api : turn.scored.candidate.executorType = .api)
    (unresolved : service.secret turn.scored.candidate = .error error)
    (provider : SameProvider turn.scored.candidate sibling) :
    StaysLocal kind call.started call.settled sibling ↔
      ModelRowFound kind call.started sibling ∨
        AlreadyHeld kind engine (clock.settle call.number) call.started sibling := by
  obtain ⟨scored, -, rfl⟩ := run_of_chat ran
  obtain ⟨earlier, later, split⟩ := List.append_of_mem made
  have logged := runFrom_logged scored 0 { store := start } visited split
  obtain ⟨progress, step, isReturned, isNumber, settled, isSettled⟩ := logged.settled
  obtain ⟨text, raised⟩ := chatAttempt_of_secret_error upstream virtualModel call.number
    call.started api unresolved
  have answered := logged.answered.symm.trans raised
  rw [Prod.mk.injEq] at answered
  rw [answered.1] at settled
  have isStep : step = (afterException kind.store engine clock ⟨requestId, virtualModel⟩
      turn.scored.candidate text progress).2 := (congrArg Prod.snd settled).symm
  apply staysLocal_serverFailure_iff provider
  rw [isSettled, isStep, board_afterException, isReturned, isNumber, answered.2]

end MissingSecret

/-! ## Two keys of one provider -/

/-- The first key's variable is not set; the second key's is. -/
def twoKeyService : GatewayService :=
  singleProviderService [{ id := "k1", env := "K1", priority := 100 },
    { id := "k2", env := "K2", priority := 50 }] ⟨UpsertTable.empty.upsert "K2" "sk-2", .empty⟩

def twoKeyChatFrom (start : SqliteStateStore) : ChatResult (StoreKind.Contents .sqlite) :=
  chat (StoreKind.store .sqlite) {} twoKeyService ⟨fun _ => 0, fun _ => 0⟩
    (.constant _ (.body []) (.completed []) ⟨[], none⟩) "r" "v" [] 0 start

def twoKeyChat : ChatResult (StoreKind.Contents .sqlite) := twoKeyChatFrom .empty

def secondKey : RouteCandidate :=
  ⟨"p", some "k2", ⟨"m", "p", {.text, .usage}⟩, {.text, .usage}, .api, 50, false⟩

/-- The store after a success of the second key. -/
def secondKeySucceeded : SqliteStateStore :=
  (applySuccess SqliteStateStore.store secondKey .empty).state

/-- After a success of the second key the missing secret of the first one stays
local; from an empty store it does not. -/
theorem missing_secret_stays_local_iff_two_keys :
    (∃ log, (twoKeyChatFrom secondKeySucceeded).run = some log ∧
      ∃ turn ∈ log.turns, ∃ call ∈ turn.attempts,
        StaysLocal .sqlite call.started call.settled secondKey) ∧
    ∃ log, (twoKeyChatFrom .empty).run = some log ∧
      ∃ turn ∈ log.turns, ∃ call ∈ turn.attempts,
        ¬ StaysLocal .sqlite call.started call.settled secondKey := by
  constructor
  · have ran : (twoKeyChatFrom secondKeySucceeded).run.isSome = true := by decide +kernel
    have visited : ((twoKeyChatFrom secondKeySucceeded).run.get ran).turns ≠ [] :=
      List.length_pos_iff.mp (by decide +kernel +revert)
    have made :
        (((twoKeyChatFrom secondKeySucceeded).run.get ran).turns.head visited).attempts ≠ [] :=
      List.length_pos_iff.mp (by decide +kernel +revert)
    refine ⟨_, (Option.some_get ran).symm, _, List.head_mem visited, _, List.head_mem made, ?_⟩
    have sameProvider : SameProvider (((twoKeyChatFrom secondKeySucceeded).run.get ran).turns.head
        visited).scored.candidate secondKey := rfl
    rw [missing_secret_stays_local_iff (Option.some_get ran).symm (List.head_mem visited)
      (List.head_mem made) (by rfl)
      (show twoKeyService.secret _ = .error (.missing "K1") from rfl) sameProvider]
    clear sameProvider
    refine Or.inl ?_
    unfold ModelRowFound
    decide +kernel +revert
  · have ran : (twoKeyChatFrom .empty).run.isSome = true := by decide +kernel
    have visited : ((twoKeyChatFrom .empty).run.get ran).turns ≠ [] :=
      List.length_pos_iff.mp (by decide +kernel +revert)
    have made :
        (((twoKeyChatFrom .empty).run.get ran).turns.head visited).attempts ≠ [] :=
      List.length_pos_iff.mp (by decide +kernel +revert)
    refine ⟨_, (Option.some_get ran).symm, _, List.head_mem visited, _, List.head_mem made, ?_⟩
    have sameProvider : SameProvider (((twoKeyChatFrom .empty).run.get ran).turns.head
        visited).scored.candidate secondKey := rfl
    rw [missing_secret_stays_local_iff (Option.some_get ran).symm (List.head_mem visited)
      (List.head_mem made) (by rfl)
      (show twoKeyService.secret _ = .error (.missing "K1") from rfl) sameProvider]
    clear sameProvider
    rintro (found | held)
    · revert found
      unfold ModelRowFound
      decide +kernel +revert
    · have deadline := held.deadline
      clear held
      revert deadline
      decide +kernel +revert

/-- From an empty store, the key without a secret takes the other key out: the
call ends without a response, though the second key would have answered. -/
theorem missing_secret_takes_sibling_out :
    validate twoKeyService.config = .ok () ∧
      twoKeyChat.result = .error (.noEligible ⟨"v", 1, some .server⟩) ∧
      (twoKeyChat.run.map fun log => log.turns.map fun turn =>
        (turn.scored.candidate.credentialId, turn.attempts.length)) =
          some [(some "k1", 1), (some "k2", 0)] ∧
      ¬ StaysLocal .sqlite SqliteStateStore.empty twoKeyChat.store secondKey := by
  refine ⟨rfl, rfl, by decide +kernel, ?_⟩
  intro stays
  have unchanged := stays.eligible 0
  revert unchanged
  decide +kernel

end AutoRouteGateway.Service
