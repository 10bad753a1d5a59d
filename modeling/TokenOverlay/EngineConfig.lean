import TokenOverlay.State.Basic

namespace TokenOverlay

/-!
What the operator of an engine chooses, as against what the network fixes.
-/

/-- Tokens credited before the first block. -/
structure Allocation where
  address : Address
  property : PropertyId
  amount : Int
deriving DecidableEq, Repr

structure EngineConfig where
  /-- Who may switch features; the entry `any` stands for everyone. -/
  allowedSenders : List Address
  /-- Who may not, whatever else is allowed. -/
  ignoredSenders : List Address
  distributionFee : Int
  /-- Seconds over which a crowdsale earns one full early bonus. -/
  bonusPeriod : Int
  allocations : List Allocation
  /-- How many blocks can be undone. -/
  maxReorgDepth : Nat
deriving DecidableEq, Repr

namespace EngineConfig

def standard : EngineConfig where
  allowedSenders := []
  ignoredSenders := []
  distributionFee := 1
  bonusPeriod := 604800
  allocations := []
  maxReorgDepth := 288

/-- Whether a sender may switch features. -/
def authorizes (config : EngineConfig) (sender : Address) : Bool :=
  !config.ignoredSenders.contains sender &&
    config.allowedSenders.any fun allowed => allowed = "any" || allowed = sender

end EngineConfig
end TokenOverlay
