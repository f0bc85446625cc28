import AutoRouteGateway.State.StoreMap

/-!
Contract: what was written through a store.

Owns: the writes of the store protocol as data, and the implementation that
keeps a journal of the writes that went through. A write that raises is not in
the journal, whatever it left in the store.
-/

namespace AutoRouteGateway.State

open AutoRouteGateway.Domain

inductive Write where
  | health (subject : StateSubject) (state : HealthState) (reason : String)
      (cooldownUntil : Option Instant)
  | quota (subject : StateSubject) (state : QuotaState) (reason : String)
      (cooldownUntil : Option Instant)
  | credential (subject : StateSubject) (state : CredentialState) (reason : String)
  | event (event : RouteEvent)
deriving DecidableEq, Repr

def Write.event? : Write → Option RouteEvent
  | .event recorded => some recorded
  | _ => none

/-- The events of a journal, oldest first. -/
def recordedEvents (journal : List Write) : List RouteEvent := journal.filterMap Write.event?

@[simp] theorem recordedEvents_append (earlier later : List Write) :
    recordedEvents (earlier ++ later) = recordedEvents earlier ++ recordedEvents later :=
  List.filterMap_append

section Journaling

variable {σ : Type}

/-- Enter the write that went through. -/
def StoreResult.enter (journal : List Write) (write : Write) :
    StoreResult σ → StoreResult (σ × List Write)
  | .done s => .done (s, journal ++ [write])
  | .raised error s => .raised error (s, journal)

theorem StoreResult.map_enter (journal : List Write) (write : Write) (result : StoreResult σ) :
    (result.enter journal write).map Prod.fst = result := by
  cases result <;> rfl

/-- A write that went through is the last one of the journal. -/
theorem StoreResult.journal_of_enter_done {journal : List Write} {write : Write}
    {result : StoreResult σ} {s : σ × List Write} (done : result.enter journal write = .done s) :
    s.2 = journal ++ [write] := by
  cases result with
  | done s' =>
      cases done
      rfl
  | raised error s' => cases done

/-- A write that raises is not entered. -/
theorem StoreResult.journal_of_enter_raised {journal : List Write} {write : Write}
    {result : StoreResult σ} {error : StoreError} {s : σ × List Write}
    (raised : result.enter journal write = .raised error s) : s.2 = journal := by
  cases result with
  | done s' => cases raised
  | raised error' s' =>
      cases raised
      rfl

variable (S : StateStore σ)

/-- The same store, with the journal of what went through it. -/
def journaling : StateStore (σ × List Write) where
  getHealth := fun s => S.getHealth s.1
  setHealth := fun subject state reason deadline s =>
    (S.setHealth subject state reason deadline s.1).enter s.2
      (.health subject state reason deadline)
  getQuota := fun s => S.getQuota s.1
  setQuota := fun subject state reason deadline s =>
    (S.setQuota subject state reason deadline s.1).enter s.2
      (.quota subject state reason deadline)
  getCredential := fun s => S.getCredential s.1
  setCredential := fun subject state reason s =>
    (S.setCredential subject state reason s.1).enter s.2 (.credential subject state reason)
  getCooldown := fun s => S.getCooldown s.1
  recordRouteEvent := fun event s => (S.recordRouteEvent event s.1).enter s.2 (.event event)

theorem journaling_record (event : RouteEvent) (s : σ × List Write) :
    (journaling S).recordRouteEvent event s =
      (S.recordRouteEvent event s.1).enter s.2 (.event event) := rfl

/-- Forgetting the journal. -/
def journalingMap : StoreMap (journaling S) S where
  read := Prod.fst
  getHealth := fun _ _ => rfl
  getQuota := fun _ _ => rfl
  getCredential := fun _ _ => rfl
  getCooldown := fun _ _ => rfl
  setHealth := fun _ _ _ _ _ => (StoreResult.map_enter _ _ _).symm
  setQuota := fun _ _ _ _ _ => (StoreResult.map_enter _ _ _).symm
  setCredential := fun _ _ _ _ => (StoreResult.map_enter _ _ _).symm
  record := fun _ _ => (StoreResult.map_enter _ _ _).symm

end Journaling

end AutoRouteGateway.State
