import TokenOverlay.Action.Registry
import TokenOverlay.Action.Crowdsale
import TokenOverlay.Action.Orders
import TokenOverlay.Action.Features
import TokenOverlay.Consensus
import TokenOverlay.EngineConfig

namespace TokenOverlay

/-!
What one message does to the state.  Each kind of message checks its
conditions in a fixed order, and the first that fails is the reason of its
rejection.
-/

/-- The rules that hold for every transaction of a run. -/
structure Rules where
  params : ConsensusParams
  config : EngineConfig
deriving DecidableEq, Repr

/-- By whom and where a transaction was confirmed. -/
structure TxContext where
  txid : String
  sender : Address
  reference : Option Address
  block : Nat
  blockTime : Int
deriving DecidableEq, Repr

/-- What a crowdsale created for a contribution. -/
structure Purchase where
  propertyId : PropertyId
  tokens : Int
  issuerTokens : Int
deriving DecidableEq, Repr

/-- One of the sends that a send-all is made of. -/
structure SubSend where
  propertyId : PropertyId
  amount : Int
deriving DecidableEq, Repr

/-- What a valid transaction did beyond what its payload says. -/
structure TxDetails where
  createdProperty : Option PropertyId
  purchase : Option Purchase
  subSends : List SubSend
  distributionRecipients : Option Nat
  distributionFee : Option Int
deriving DecidableEq, Repr

namespace TxDetails

def none : TxDetails := ⟨.none, .none, [], .none, .none⟩

def created (id : PropertyId) : TxDetails := { none with createdProperty := some id }

end TxDetails

namespace Execute

/-- An amount of a message, which has to be positive and within the supply ceiling. -/
def amountOf (raw : UInt64) : Action Int := do
  Action.guard (0 < raw.toNat ∧ (raw.toNat : Int) ≤ maxTokens) .invalidAmount
  return raw.toNat

def referenceOf (tx : TxContext) : Action Address := Action.require .missingReference tx.reference

/-- Only authorized senders may switch features. -/
def checkAuthority (rules : Rules) (tx : TxContext) : Action Unit :=
  Action.guard (rules.config.authorizes tx.sender = true) .unauthorizedSender

/-- Property type 1 counts whole tokens, type 2 has eight places. -/
def divisibilityOf? (propertyType : UInt16) : Option Bool :=
  match propertyType.toNat with
  | 1 => some false
  | 2 => some true
  | _ => none

/-- The ecosystem and the divisibility that an issuance asks for. -/
def checkIssuance (issuance : Issuance) : Action (Ecosystem × Bool) := do
  let ecosystem ← Action.require .invalidEcosystem (Ecosystem.ofByte issuance.ecosystem)
  let divisible ← Action.require .invalidPropertyType (divisibilityOf? issuance.propertyType)
  Action.guard (issuance.previousProperty = 0) .unsupportedPreviousProperty
  Action.guard (issuance.description.name ≠ "") .emptyName
  return (ecosystem, divisible)

/-- The request to issue a property for the sender of a transaction. -/
def issueRequest (tx : TxContext) (kind : PropertyKind) (issuance : Issuance)
    (ecosystem : Ecosystem) (divisible : Bool) (amount : Int) : IssueRequest where
  kind := kind
  ecosystem := ecosystem
  divisible := divisible
  issuer := tx.sender
  initialAmount := amount
  description := issuance.description
  txid := tx.txid
  block := tx.block

end Execute
end TokenOverlay
