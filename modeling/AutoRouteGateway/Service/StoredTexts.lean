import AutoRouteGateway.Service.CoroutineMaps
import AutoRouteGateway.State.DeadlineText

/-!
Contract: the gateway on a database that holds its deadlines as texts.

Owns: that no request notices, in any interleaving.
-/

namespace AutoRouteGateway.Service

open AutoRouteGateway.Library
open AutoRouteGateway.Routing
open AutoRouteGateway.State

section StoredTexts

variable {ι ρ : Type} [DecidableEq ι] (engine : FallbackEngine) (service : GatewayService)

/-- Whatever the interleaving: over the store that writes deadlines as texts and
parses them at every look-up, each request has the conversation, and is left
where it is, that it has over the store that keeps instants; and what the rows
hold, read, is what that store holds. In both, a deadline that is no `datetime`
raises. -/
theorem deadline_texts_unnoticed (arrivals : ι → Arrival) (start : TextStateStore)
    (schedule : List (Move ι Question (Question.Answer ρ))) :
    let texts := poolOver (ρ := ρ) TextStateStore.store engine service arrivals start
    let instants := poolOver (ρ := ρ) TextStateStore.instantStore engine service arrivals
      start.view
    (texts.run schedule).state.view = (instants.run schedule).state ∧
      ∀ i, texts.talk i schedule = instants.talk i schedule ∧
        (texts.run schedule).waitsFor? i = (instants.run schedule).waitsFor? i ∧
        (texts.run schedule).result? i = (instants.run schedule).result? i :=
  poolOver_read engine service arrivals start TextStateStore.viewMap schedule

end StoredTexts

end AutoRouteGateway.Service
