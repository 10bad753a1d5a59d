import TokenOverlay.Execute.Basic

namespace TokenOverlay
namespace Execute

/-!
Messages that move tokens to other addresses: the simple send, which is also
how a crowdsale is paid, the send to all owners of a property, and the send of
everything an address has in one ecosystem.
-/

/-- The contribution that a payment makes to a sale. -/
def contributionOf (rules : Rules) (tx : TxContext) (s : State) (sale : Crowdsale)
    (property : PropertyId) (amount : Int) (sold : Property) : Contribution where
  amountPaid := amount
  desiredDivisible := s.registry.isDivisible property
  tokensPerUnit := sale.tokensPerUnit
  earlyBonus := sale.earlyBonus
  issuerPercent := sale.issuerPercent
  deadline := sale.deadline
  blockTime := tx.blockTime
  bonusPeriod := rules.config.bonusPeriod
  totalTokens := sold.totalTokens

/-- Create tokens if there are any to create. -/
def mintIfAny (recipient : Address) (id : PropertyId) (amount : Int) : Action Unit :=
  if 0 < amount then Registry.mint recipient id amount else return ()

/-- Create what a contribution is worth and account for it. -/
def creditPurchase (tx : TxContext) (sale : Crowdsale) (amount : Int) (quote : Quote) :
    Action TxDetails := do
  mintIfAny tx.sender sale.propertyId quote.participantTokens
  mintIfAny sale.issuer sale.propertyId quote.issuerTokens
  CrowdsaleBook.recordPurchase sale.propertyId quote {
    txid := tx.txid
    block := tx.block
    participant := tx.sender
    amountPaid := amount
    participantTokens := quote.participantTokens
    issuerTokens := quote.issuerTokens }
  return { TxDetails.none with
    purchase := some ⟨sale.propertyId, quote.participantTokens, quote.issuerTokens⟩ }

/-- A payment to the issuer of a sale buys tokens.  One that is worth nothing leaves the sale
alone, unless the supply ceiling is reached: then it still closes the sale. -/
def contribute (rules : Rules) (tx : TxContext) (sale : Crowdsale) (property : PropertyId)
    (amount : Int) : Action TxDetails := do
  let sold ← Registry.lookup sale.propertyId
  let quote := (contributionOf rules tx (← Action.state) sale property amount sold).quote
  if !quote.reachedCap && quote.participantTokens = 0 && quote.issuerTokens = 0 then
    return TxDetails.none
  else creditPurchase tx sale amount quote

def simpleSend (rules : Rules) (tx : TxContext) (property : PropertyId) (raw : UInt64) :
    Action TxDetails := do
  let amount ← amountOf raw
  let _ ← Registry.lookup property
  let recipient ← referenceOf tx
  Ledger.debit tx.sender property amount
  Ledger.credit recipient property amount
  match ((← Action.state).crowdsales.target? recipient property).filter
      fun sale => sale.issuer ≠ tx.sender with
  | some sale => contribute rules tx sale property amount
  | none => return TxDetails.none

/-- Credit every recipient of a distribution. -/
def creditAll (property : PropertyId) (recipients : List Recipient) : Action Unit :=
  recipients.forM fun recipient => Ledger.credit recipient.address property recipient.amount

/-- Destroy the fee, if there is one. -/
def burnFee (holder : Address) (id : PropertyId) (fee : Int) : Action Unit :=
  if 0 < fee then Registry.burn holder id fee else return ()

def sendToOwners (rules : Rules) (tx : TxContext) (property : PropertyId) (raw : UInt64)
    (distribution : Option PropertyId) : Action TxDetails := do
  Action.guard
    (distribution = none ∨ (← Action.state).features.isActive FeatureId.crossPropertySend = true)
    (.featureNotActivated FeatureId.crossPropertySend)
  let amount ← amountOf raw
  let sent ← Registry.lookup property
  let owned := distribution.getD property
  let _ ← Registry.lookup owned
  let ledger := (← Action.state).ledger
  Action.guard (amount ≤ ledger.available tx.sender property) .insufficientBalance
  let recipients := Distribution.distribute
    (Distribution.eligibleOwners (ledger.holders owned) tx.sender) amount
  Action.guard (recipients ≠ []) .noRecipients
  let feeProperty := sent.ecosystem.protocolToken
  let fee := Distribution.fee rules.config.distributionFee recipients.length
  let needed := if feeProperty = property then amount + fee else fee
  Action.guard (needed ≤ ledger.available tx.sender feeProperty) .insufficientFee
  Ledger.debit tx.sender property amount
  creditAll property recipients
  burnFee tx.sender feeProperty fee
  Action.edit (.receipt {
    txid := tx.txid
    sender := tx.sender
    block := tx.block
    propertyId := property
    distributionProperty := owned
    amount
    feeProperty
    fee
    recipients })
  return { TxDetails.none with
    distributionRecipients := some recipients.length
    distributionFee := some fee }

/-- Move the listed amounts from one address to another. -/
def moveAll (source target : Address) (moves : List (PropertyId × Int)) : Action Unit :=
  moves.forM fun (property, amount) => do
    Ledger.debit source property amount
    Ledger.credit target property amount

def sendAll (tx : TxContext) (byte : UInt8) : Action TxDetails := do
  let ecosystem ← Action.require .invalidEcosystem (Ecosystem.ofByte byte)
  let recipient ← referenceOf tx
  let moves := (← Action.state).ledger.availableIn tx.sender ecosystem
  Action.guard (moves ≠ []) .nothingToSend
  moveAll tx.sender recipient moves
  return { TxDetails.none with subSends := moves.map fun entry => ⟨entry.1, entry.2⟩ }

end Execute
end TokenOverlay
