import TokenOverlay.Execute.Basic

namespace TokenOverlay
namespace Execute

/-!
Messages that issue properties or change the supply of managed ones.
-/

def issueFixed (tx : TxContext) (issuance : Issuance) (raw : UInt64) : Action TxDetails := do
  let (ecosystem, divisible) ← checkIssuance issuance
  let amount ← amountOf raw
  let id ← Registry.issue (issueRequest tx .fixed issuance ecosystem divisible amount)
  return TxDetails.created id

def issueManaged (tx : TxContext) (issuance : Issuance) : Action TxDetails := do
  let (ecosystem, divisible) ← checkIssuance issuance
  let id ← Registry.issue (issueRequest tx .managed issuance ecosystem divisible 0)
  return TxDetails.created id

/-- A time of 64 unsigned bits, held at the latest signed one. -/
def deadlineOf (raw : UInt64) : Int := min raw.toNat maxTokens

/-- Issue a property together with the crowdsale that sells it. -/
def issueCrowdsale (tx : TxContext) (issuance : Issuance) (desired : PropertyId)
    (rate rawDeadline : UInt64) (earlyBonus issuerPercent : UInt8) : Action TxDetails := do
  let (ecosystem, divisible) ← checkIssuance issuance
  let _ ← Registry.lookup desired
  Action.guard (Ecosystem.of desired = some ecosystem) .crossEcosystem
  let tokensPerUnit ← amountOf rate
  let deadline := deadlineOf rawDeadline
  Action.guard (tx.blockTime ≤ deadline) .deadlineInPast
  Action.guard (((← Action.state).crowdsales.activeOf? tx.sender).isNone = true)
    .activeCrowdsaleExists
  let id ← Registry.issue (issueRequest tx .crowdsale issuance ecosystem divisible 0)
  CrowdsaleBook.create {
    propertyId := id
    issuer := tx.sender
    desiredProperty := desired
    tokensPerUnit
    deadline
    earlyBonus
    issuerPercent
    tokensIssued := 0
    issuerTokens := 0
    active := true
    closedEarly := false
    maxTokens := false
    creationTxid := tx.txid
    closeTxid := none
    closeBlock := none }
  return TxDetails.created id

def closeCrowdsale (tx : TxContext) (property : PropertyId) : Action TxDetails := do
  let _ ← Registry.lookup property
  CrowdsaleBook.close tx.sender property tx.txid tx.block
  return TxDetails.none

/-- Granted tokens go to the reference, or else to the sender. -/
def grant (tx : TxContext) (property : PropertyId) (raw : UInt64) : Action TxDetails := do
  let amount ← amountOf raw
  Registry.grant tx.sender property amount (tx.reference.getD tx.sender)
  return TxDetails.none

def revoke (tx : TxContext) (property : PropertyId) (raw : UInt64) : Action TxDetails := do
  let amount ← amountOf raw
  Registry.revoke tx.sender property amount
  return TxDetails.none

end Execute
end TokenOverlay
