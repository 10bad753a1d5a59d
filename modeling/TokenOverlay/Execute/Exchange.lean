import TokenOverlay.Execute.Basic

namespace TokenOverlay
namespace Execute

/-!
Messages of the exchange between tokens and the host coin.
-/

/-- The terms that a sell offer states, once they are in range. -/
def termsOf (tx : TxContext) (amount desired : UInt64) (timeLimit : UInt8) (minFee : UInt64) :
    Action OfferTerms := do
  let amount ← amountOf amount
  let desired ← amountOf desired
  Action.guard ((minFee.toNat : Int) ≤ maxTokens) .invalidAmount
  return {
    amount
    desired
    timeLimit
    minFee := minFee.toNat
    txid := tx.txid
    block := tx.block }

/-- Protocol tokens can always be offered, other properties once trading is free. -/
def checkTradeable (property : PropertyId) : Action Unit := do
  Action.guard
    (property = Ecosystem.mainToken ∨ property = Ecosystem.testToken ∨
      (← Action.state).features.isActive FeatureId.freeExchange = true)
    (.propertyNotTradeable property)

def sellOffer (tx : TxContext) (property : PropertyId) (amount desired : UInt64)
    (timeLimit : UInt8) (minFee : UInt64) (action : OfferAction) : Action TxDetails := do
  let _ ← Registry.lookup property
  checkTradeable property
  match action with
  | .new => do
      let terms ← termsOf tx amount desired timeLimit minFee
      OrderBook.create tx.sender property terms
  | .update => do
      let terms ← termsOf tx amount desired timeLimit minFee
      OrderBook.update tx.sender property terms
  | .cancel => OrderBook.cancel tx.sender property
  return TxDetails.none

def acceptOffer (tx : TxContext) (property : PropertyId) (raw : UInt64) : Action TxDetails := do
  let amount ← amountOf raw
  let _ ← Registry.lookup property
  let seller ← referenceOf tx
  let _ ← OrderBook.accept tx.sender seller property amount
  return TxDetails.none

end Execute
end TokenOverlay
