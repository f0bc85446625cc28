import AutoRouteGateway.Runtime.Json
import AutoRouteGateway.Runtime.Text
import AutoRouteGateway.State.Stores

/-!
Owns the credential part of `snapshot`, in the shape that each store gives it: a
dictionary from the text of a key to a state, and a sorted list of rows.

Does not own: the health and quota parts and the events, which only the readiness
check asks for, and drops.
-/

namespace AutoRouteGateway.State

open AutoRouteGateway.Library
open AutoRouteGateway.Runtime

/-- `str((provider_id, credential_id))`. -/
def tupleText (key : String × Option String) : String :=
  let credential :=
    match key.2 with
    | some id => quoted id
    | none => "None"
  "(" ++ quoted key.1 ++ ", " ++ credential ++ ")"

def InMemoryStateStore.credentialSnapshot (s : InMemoryStateStore) : Json :=
  .dict (s.credential.rows.map fun row => (tupleText row.1, .str row.2.value))

/-- `ORDER BY provider_id, credential_id`. -/
def rowBefore (left right : (String × String) × CredentialRow) : Bool :=
  decide (left.1.1 < right.1.1 ∨ left.1.1 = right.1.1 ∧ left.1.2 ≤ right.1.2)

/-- A selected row as a dictionary, without its `updated_at`. -/
def CredentialRow.selected (key : String × String) (row : CredentialRow) : Dict :=
  [("provider_id", .str key.1), ("credential_id", .str key.2), ("state", .str row.state.value),
    ("reason", .str row.reason)]

namespace SqliteStateStore

def sortedCredentials (s : SqliteStateStore) : List ((String × String) × CredentialRow) :=
  s.credentialState.rows.insertionSort fun left right => rowBefore left right = true

def credentialSnapshot (s : SqliteStateStore) : Json :=
  .list (s.sortedCredentials.map fun row => .dict (row.2.selected row.1))

/-- The order of the rows does not change which one a key finds. -/
theorem lookupRows_sortedCredentials (s : SqliteStateStore) (key : String × String) :
    lookupRows key s.sortedCredentials = s.credentialState.get? key :=
  lookupRows_perm (List.perm_insertionSort _ _) s.credentialState.keysNodup key

end SqliteStateStore

def StoreKind.credentialSnapshot : (kind : StoreKind) → kind.Contents → Json
  | .inMemory => InMemoryStateStore.credentialSnapshot
  | .sqlite => SqliteStateStore.credentialSnapshot

end AutoRouteGateway.State
