import AutoRouteGateway.State.Store

/-!
Contract: store implementations that behave alike up to their states.

A store map reads the states of one implementation as states of another, such
that every read answers alike and every write commutes. What is proved over one
implementation then carries to the other.

Owns: store maps, and the implementation that also keeps the events it was
asked to record.
-/

namespace AutoRouteGateway.State

open AutoRouteGateway.Domain

def StoreResult.map {σ τ : Type} (f : σ → τ) : StoreResult σ → StoreResult τ
  | .done s => .done (f s)
  | .raised error s => .raised error (f s)

@[simp] theorem StoreResult.state_map {σ τ : Type} (f : σ → τ) (result : StoreResult σ) :
    (result.map f).state = f result.state := by
  cases result <;> rfl

/-- Reading the states of `S` as states of `T`. -/
structure StoreMap {σ τ : Type} (S : StateStore σ) (T : StateStore τ) where
  read : σ → τ
  getHealth : ∀ s subject, T.getHealth (read s) subject = S.getHealth s subject
  getQuota : ∀ s subject, T.getQuota (read s) subject = S.getQuota s subject
  getCredential : ∀ s subject, T.getCredential (read s) subject = S.getCredential s subject
  getCooldown : ∀ s subject, T.getCooldown (read s) subject = S.getCooldown s subject
  setHealth : ∀ subject state reason deadline s,
    T.setHealth subject state reason deadline (read s) =
      (S.setHealth subject state reason deadline s).map read
  setQuota : ∀ subject state reason deadline s,
    T.setQuota subject state reason deadline (read s) =
      (S.setQuota subject state reason deadline s).map read
  setCredential : ∀ subject state reason s,
    T.setCredential subject state reason (read s) =
      (S.setCredential subject state reason s).map read
  record : ∀ event s, T.recordRouteEvent event (read s) = (S.recordRouteEvent event s).map read

/-! ## Keeping the recorded events -/

section Recording

variable {σ : Type} (S : StateStore σ)

/-- The same store, with the events recorded through it. -/
def recording : StateStore (σ × List RouteEvent) where
  getHealth := fun s => S.getHealth s.1
  setHealth := fun subject state reason deadline s =>
    (S.setHealth subject state reason deadline s.1).map (·, s.2)
  getQuota := fun s => S.getQuota s.1
  setQuota := fun subject state reason deadline s =>
    (S.setQuota subject state reason deadline s.1).map (·, s.2)
  getCredential := fun s => S.getCredential s.1
  setCredential := fun subject state reason s =>
    (S.setCredential subject state reason s.1).map (·, s.2)
  getCooldown := fun s => S.getCooldown s.1
  recordRouteEvent := fun event s =>
    match S.recordRouteEvent event s.1 with
    | .done own => .done (own, s.2 ++ [event])
    | .raised error own => .raised error (own, s.2)

/-- Forgetting the events kept. -/
def recordingMap : StoreMap (recording S) S where
  read := Prod.fst
  getHealth := fun _ _ => rfl
  getQuota := fun _ _ => rfl
  getCredential := fun _ _ => rfl
  getCooldown := fun _ _ => rfl
  setHealth := by
    intro subject state reason deadline s
    change _ = ((S.setHealth subject state reason deadline s.1).map (·, s.2)).map Prod.fst
    cases S.setHealth subject state reason deadline s.1 <;> rfl
  setQuota := by
    intro subject state reason deadline s
    change _ = ((S.setQuota subject state reason deadline s.1).map (·, s.2)).map Prod.fst
    cases S.setQuota subject state reason deadline s.1 <;> rfl
  setCredential := by
    intro subject state reason s
    change _ = ((S.setCredential subject state reason s.1).map (·, s.2)).map Prod.fst
    cases S.setCredential subject state reason s.1 <;> rfl
  record := by
    intro event s
    simp only [recording]
    cases S.recordRouteEvent event s.1 <;> rfl

end Recording

end AutoRouteGateway.State
