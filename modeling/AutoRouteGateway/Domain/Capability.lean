import Mathlib.Data.Finset.Basic
import Mathlib.Data.Finset.Insert
import Mathlib.Data.Finset.Filter
import Mathlib.Data.Fintype.Defs

/-!
Owns the capability vocabulary, capability sets with their cover test, and the
requirement derived from the facts of one request.
-/

namespace AutoRouteGateway.Domain

/-- Request and response capabilities. -/
inductive Capability where
  | text
  | visionInput
  | stream
  | tools
  | structuredOutput
  | multiTurn
  | usage
deriving DecidableEq, Repr

def Capability.value : Capability → String
  | .text => "text"
  | .visionInput => "vision_input"
  | .stream => "stream"
  | .tools => "tools"
  | .structuredOutput => "structured_output"
  | .multiTurn => "multi_turn"
  | .usage => "usage"

/-- All capabilities, in the order of their values. -/
def Capability.sorted : List Capability :=
  [.multiTurn, .stream, .structuredOutput, .text, .tools, .usage, .visionInput]

example : (Capability.sorted.map Capability.value).Pairwise (· < ·) := by decide

abbrev CapabilitySet := Finset Capability

/-- `sorted(c.value for c in capabilities)`. -/
def CapabilitySet.values (capabilities : CapabilitySet) : List String :=
  (Capability.sorted.filter (· ∈ capabilities)).map Capability.value

/-- Every required capability is present. -/
def CapabilitySet.covers (capabilities required : CapabilitySet) : Bool :=
  decide (required ⊆ capabilities)

/-- The requirement of a request; `text` is always required. -/
def requiredCapabilitiesFromRequest
    (stream tools structuredOutput visionInput multiTurn usage : Bool) : CapabilitySet :=
  let add (flag : Bool) (capability : Capability) (set : CapabilitySet) : CapabilitySet :=
    if flag then insert capability set else set
  add usage .usage <|
    add multiTurn .multiTurn <|
      add visionInput .visionInput <|
        add structuredOutput .structuredOutput <|
          add tools .tools <|
            add stream .stream {.text}

end AutoRouteGateway.Domain
