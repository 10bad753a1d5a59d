import TokenOverlay.State.Journal

namespace TokenOverlay

/-- What an accepted activation did. -/
inductive ActivationOutcome where
  | scheduled
  /-- The feature was on already, and stays as it is. -/
  | alreadyActive
deriving DecidableEq, Repr

namespace FeatureTable

/-!
Scheduling features, switching them off, and switching on those whose block
has come.
-/

/-- Schedule a feature for a block inside the grace window. -/
def activate (id : FeatureId) (target : Nat) (clientVersion : UInt32) (height : Nat)
    (window : GraceWindow) (txid : String) : Action ActivationOutcome := do
  let name ← Action.require (.unknownFeature id) (FeatureId.featureName? id)
  Action.guard (window.admits height target = true)
    (.gracePeriodViolation (GraceWindow.offset height target) window.least window.most)
  if (← Action.state).features.isActive id then return .alreadyActive
  Action.edit (.feature id (some {
    featureId := id
    name
    activationBlock := target
    minClientVersion := clientVersion
    completed := false
    txid }))
  return .scheduled

/-- Switch a feature off, or call off its activation. -/
def deactivate (id : FeatureId) : Action Unit := do
  Action.guard ((FeatureId.featureName? id).isSome = true) (.unknownFeature id)
  Action.guard (((← Action.state).features.get? id).isSome = true) (.featureNotActive id)
  Action.edit (.feature id none)

def completeOne (feature : Feature) : Action Unit :=
  Action.edit (.feature feature.featureId (some { feature with completed := true }))

/-- Switch on every pending feature whose block has been reached, and answer which those are. -/
def completePending (height : Nat) : Action (List FeatureId) := do
  let due := (← Action.state).features.pending.filter fun feature =>
    feature.activationBlock ≤ height
  due.forM completeOne
  return due.map Feature.featureId

end FeatureTable
end TokenOverlay
