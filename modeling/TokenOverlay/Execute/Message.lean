import TokenOverlay.Execute.Transfer
import TokenOverlay.Execute.Issue
import TokenOverlay.Execute.Exchange

namespace TokenOverlay
namespace Execute

/-!
From a message to its effect.  A type and version that does not count yet is
rejected before anything else is looked at.
-/

def deactivate (rules : Rules) (tx : TxContext) (id : FeatureId) : Action TxDetails := do
  checkAuthority rules tx
  FeatureTable.deactivate id
  return TxDetails.none

def activate (rules : Rules) (tx : TxContext) (id : FeatureId) (target clientVersion : UInt32) :
    Action TxDetails := do
  checkAuthority rules tx
  let _ ← FeatureTable.activate id target.toNat clientVersion tx.block rules.params.graceWindow
    tx.txid
  return TxDetails.none

/-- What a payload does once its type counts. -/
def payload (rules : Rules) (tx : TxContext) : Payload → Action TxDetails
  | .simpleSend property amount => simpleSend rules tx property amount
  | .sendToOwners property amount distribution =>
      sendToOwners rules tx property amount distribution
  | .sendAll ecosystem => sendAll tx ecosystem
  | .sellOffer property amount desired timeLimit minFee action =>
      sellOffer tx property amount desired timeLimit minFee action
  | .acceptOffer property amount => acceptOffer tx property amount
  | .issueFixed issuance amount => issueFixed tx issuance amount
  | .issueCrowdsale issuance desired rate deadline earlyBonus issuerPercent =>
      issueCrowdsale tx issuance desired rate deadline earlyBonus issuerPercent
  | .closeCrowdsale property => closeCrowdsale tx property
  | .issueManaged issuance => issueManaged tx issuance
  | .grant property amount _ => grant tx property amount
  | .revoke property amount _ => revoke tx property amount
  | .deactivate id => deactivate rules tx id
  | .activate id target clientVersion => activate rules tx id target clientVersion

/-- Whether the type and version of a message count in the block of a transaction. -/
def permitted (rules : Rules) (tx : TxContext) (m : Message) : Bool :=
  rules.params.permits tx.block m.payload.primaryProperty m.payload.messageType m.version

def message (rules : Rules) (tx : TxContext) (m : Message) : Action TxDetails := do
  Action.guard (permitted rules tx m = true) (.typeNotPermitted m.payload.messageType m.version)
  payload rules tx m.payload

end Execute
end TokenOverlay
