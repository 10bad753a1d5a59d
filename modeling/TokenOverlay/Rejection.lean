import TokenOverlay.Payload.Wire

namespace TokenOverlay

/-!
Why a transaction has no effect.  A rejection is recorded with the transaction
and never stops the processing of a block.
-/

inductive Rejection where
  | malformedPayload (text : String)
  | unknownType (type version : UInt16)
  | typeNotPermitted (type version : UInt16)
  | invalidAmount
  | insufficientBalance
  | insufficientFee
  | unknownProperty (id : PropertyId)
  | propertyNotTradeable (id : PropertyId)
  | invalidEcosystem
  | crossEcosystem
  | invalidPropertyType
  | unsupportedPreviousProperty
  | emptyName
  | missingReference
  | notIssuer
  | notManaged
  | notCrowdsale
  | crowdsaleNotActive
  | activeCrowdsaleExists
  | deadlineInPast
  | supplyOverflow
  | duplicateActiveOffer
  | noActiveOffer
  | offerAmountExceeded
  | selfAccept
  | nothingToSend
  | noRecipients
  | gracePeriodViolation (offset : Int) (least most : Nat)
  | unknownFeature (id : UInt16)
  | featureNotActivated (id : UInt16)
  | featureNotActive (id : UInt16)
  | unauthorizedSender
deriving DecidableEq, Repr

namespace Rejection

def message : Rejection → String
  | malformedPayload text => s!"Malformed payload: {text}"
  | unknownType type version =>
      s!"Unknown transaction type {type.toNat} version {version.toNat}"
  | typeNotPermitted .. => "Transaction type or version not permitted"
  | invalidAmount => "Value out of range or zero"
  | insufficientBalance => "Sender has insufficient balance"
  | insufficientFee => "Sender has insufficient balance to pay the fee"
  | unknownProperty id => s!"Property {id.toNat} does not exist"
  | propertyNotTradeable id =>
      s!"Property {id.toNat} is not tradeable on the distributed exchange"
  | invalidEcosystem => "Invalid ecosystem"
  | crossEcosystem => "Properties belong to different ecosystems"
  | invalidPropertyType => "Invalid property type"
  | unsupportedPreviousProperty => "Property appends or replaces are not supported"
  | emptyName => "Property name is empty"
  | missingReference => "Transaction has no reference address"
  | notIssuer => "Sender is not the issuer of the property"
  | notManaged => "Property is not a managed property"
  | notCrowdsale => "Property is not a crowdsale"
  | crowdsaleNotActive => "Crowdsale is not active"
  | activeCrowdsaleExists => "Sender has an active crowdsale"
  | deadlineInPast => "Crowdsale deadline is in the past"
  | supplyOverflow => "Amount would exceed the maximum number of tokens"
  | duplicateActiveOffer => "Sender has an active offer"
  | noActiveOffer => "No active offer exists"
  | offerAmountExceeded => "Amount exceeds the amount offered"
  | selfAccept => "Buyer and seller are the same address"
  | nothingToSend => "Sender has no tokens to send"
  | noRecipients => "No owners to distribute to"
  | gracePeriodViolation offset least most =>
      s!"Activation block is {offset} blocks ahead, outside the grace period [{least}, {most}]"
  | unknownFeature id => s!"Unknown feature {id.toNat}"
  | featureNotActivated id => s!"Feature {id.toNat} is not activated"
  | featureNotActive id => s!"Feature {id.toNat} is not active"
  | unauthorizedSender => "Sender is not authorized"

/-- A payload that cannot be read is rejected for the reason it cannot be read. -/
def ofDecodeError : DecodeError → Rejection
  | .unknownType type version => unknownType type version
  | reason => malformedPayload reason.message

end Rejection
end TokenOverlay
