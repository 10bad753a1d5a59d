import TokenOverlay.Offer
import TokenOverlay.Property

namespace TokenOverlay

/-!
The messages of the protocol.  A message is carried in a host transaction as a
payload: a version, a type, and the fields of its kind.
-/

/-- The parts common to all messages that issue a property. -/
structure Issuance where
  ecosystem : UInt8
  propertyType : UInt16
  previousProperty : PropertyId
  description : Description
deriving DecidableEq, Repr

inductive Payload where
  | simpleSend (property : PropertyId) (amount : UInt64)
  | sendToOwners (property : PropertyId) (amount : UInt64) (distribution : Option PropertyId)
  | sendAll (ecosystem : UInt8)
  | sellOffer (property : PropertyId) (amount desired : UInt64) (timeLimit : UInt8)
      (minFee : UInt64) (action : OfferAction)
  | acceptOffer (property : PropertyId) (amount : UInt64)
  | issueFixed (issuance : Issuance) (amount : UInt64)
  | issueCrowdsale (issuance : Issuance) (desiredProperty : PropertyId)
      (tokensPerUnit deadline : UInt64) (earlyBonus issuerPercent : UInt8)
  | closeCrowdsale (property : PropertyId)
  | issueManaged (issuance : Issuance)
  | grant (property : PropertyId) (amount : UInt64) (memo : String)
  | revoke (property : PropertyId) (amount : UInt64) (memo : String)
  | deactivate (feature : UInt16)
  | activate (feature : UInt16) (block clientVersion : UInt32)
deriving DecidableEq, Repr

/-- The version that feature messages carry. -/
def controlVersion : UInt16 := 65535

/-- The name under which a message type is shown. -/
def messageTypeName (type : UInt16) : String :=
  match type.toNat with
  | 0 => "Simple Send"
  | 3 => "Send To Owners"
  | 4 => "Send All"
  | 20 => "DEx Sell Offer"
  | 22 => "DEx Accept Offer"
  | 50 => "Create Property - Fixed"
  | 51 => "Create Property - Variable"
  | 53 => "Close Crowdsale"
  | 54 => "Create Property - Manual"
  | 55 => "Grant Property Tokens"
  | 56 => "Revoke Property Tokens"
  | 65533 => "Feature Deactivation"
  | 65534 => "Feature Activation"
  | _ => "Unknown"

namespace Payload

/-- The message type in the header. -/
def messageType : Payload → UInt16
  | simpleSend .. => 0
  | sendToOwners .. => 3
  | sendAll .. => 4
  | sellOffer .. => 20
  | acceptOffer .. => 22
  | issueFixed .. => 50
  | issueCrowdsale .. => 51
  | closeCrowdsale .. => 53
  | issueManaged .. => 54
  | grant .. => 55
  | revoke .. => 56
  | deactivate .. => 65533
  | activate .. => 65534

/-- The property a message acts on.  Messages without one stand for the protocol token of the
ecosystem they name, and feature messages for the host coin. -/
def primaryProperty : Payload → PropertyId
  | simpleSend property _ => property
  | sendToOwners property _ _ => property
  | sendAll ecosystem => ecosystem.toUInt32
  | sellOffer property .. => property
  | acceptOffer property _ => property
  | issueFixed issuance _ => issuance.ecosystem.toUInt32
  | issueCrowdsale issuance .. => issuance.ecosystem.toUInt32
  | closeCrowdsale property => property
  | issueManaged issuance => issuance.ecosystem.toUInt32
  | grant property .. => property
  | revoke property .. => property
  | deactivate .. => 0
  | activate .. => 0

/-- The amount a message names. -/
def amount? : Payload → Option UInt64
  | simpleSend _ amount => some amount
  | sendToOwners _ amount _ => some amount
  | sellOffer _ amount .. => some amount
  | acceptOffer _ amount => some amount
  | issueFixed _ amount => some amount
  | grant _ amount _ => some amount
  | revoke _ amount _ => some amount
  | _ => none

/-- The version a message is sent with unless another one is asked for. -/
def defaultVersion : Payload → UInt16
  | sendToOwners _ _ (some _) => 1
  | sellOffer .. => 1
  | deactivate .. => controlVersion
  | activate .. => controlVersion
  | _ => 0

end Payload

/-- A payload with the version it is sent with. -/
structure Message where
  version : UInt16
  payload : Payload
deriving DecidableEq, Repr

end TokenOverlay
