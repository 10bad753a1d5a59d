import TokenOverlay.Ecosystem

namespace TokenOverlay

/-!
Crowdsales: an issuer sells tokens of a new property for tokens of another one
until a deadline, until it closes the sale, or until the supply ceiling is hit.
-/

structure Crowdsale where
  propertyId : PropertyId
  issuer : String
  desiredProperty : PropertyId
  tokensPerUnit : Int
  deadline : Int
  earlyBonus : UInt8
  issuerPercent : UInt8
  tokensIssued : Int
  issuerTokens : Int
  active : Bool
  closedEarly : Bool
  maxTokens : Bool
  creationTxid : String
  closeTxid : Option String
  closeBlock : Option Nat
deriving DecidableEq, Repr, Inhabited

namespace Crowdsale

def toJson (s : Crowdsale) : Json := .object [
  ("property_id", .ofNat s.propertyId.toNat),
  ("issuer", .text s.issuer),
  ("desired_property", .ofNat s.desiredProperty.toNat),
  ("tokens_per_unit", .integer s.tokensPerUnit),
  ("deadline", .integer s.deadline),
  ("early_bonus", .ofNat s.earlyBonus.toNat),
  ("issuer_percent", .ofNat s.issuerPercent.toNat),
  ("tokens_issued", .integer s.tokensIssued),
  ("issuer_tokens", .integer s.issuerTokens),
  ("active", .bool s.active),
  ("closed_early", .bool s.closedEarly),
  ("max_tokens", .bool s.maxTokens),
  ("creation_txid", .text s.creationTxid),
  ("close_txid", Json.ofOption .text s.closeTxid),
  ("close_block", Json.ofOption .ofNat s.closeBlock)]

def ofJson (j : Json) : Option Crowdsale := do
  let [id, issuer, desired, rate, deadline, bonus, percent, issued, issuerTokens, active,
      closedEarly, maxTokens, creationTxid, closeTxid, closeBlock] ←
    j.fields? ["property_id", "issuer", "desired_property", "tokens_per_unit", "deadline",
      "early_bonus", "issuer_percent", "tokens_issued", "issuer_tokens", "active", "closed_early",
      "max_tokens", "creation_txid", "close_txid", "close_block"] | none
  return {
    propertyId := ← Json.required? Json.uint32? id
    issuer := ← Json.required? Json.text? issuer
    desiredProperty := ← Json.required? Json.uint32? desired
    tokensPerUnit := ← Json.required? Json.int64? rate
    deadline := ← Json.required? Json.int64? deadline
    earlyBonus := ← Json.required? Json.uint8? bonus
    issuerPercent := ← Json.required? Json.uint8? percent
    tokensIssued := ← Json.required? Json.int64? issued
    issuerTokens := ← Json.required? Json.int64? issuerTokens
    active := ← Json.required? Json.bool? active
    closedEarly := ← Json.required? Json.bool? closedEarly
    maxTokens := ← Json.required? Json.bool? maxTokens
    creationTxid := ← Json.required? Json.text? creationTxid
    closeTxid := ← Json.optional? Json.text? closeTxid
    closeBlock := ← Json.optional? Json.height? closeBlock }

end Crowdsale

/-- One contribution to a sale and the tokens it was worth. -/
structure Participation where
  txid : String
  block : Nat
  participant : String
  amountPaid : Int
  participantTokens : Int
  issuerTokens : Int
deriving DecidableEq, Repr, Inhabited

namespace Participation

def toJson (p : Participation) : Json := .object [
  ("txid", .text p.txid),
  ("block", .ofNat p.block),
  ("participant", .text p.participant),
  ("amount_paid", .integer p.amountPaid),
  ("participant_tokens", .integer p.participantTokens),
  ("issuer_tokens", .integer p.issuerTokens)]

def ofJson (j : Json) : Option Participation := do
  let [txid, block, participant, paid, participantTokens, issuerTokens] ←
    j.fields? ["txid", "block", "participant", "amount_paid", "participant_tokens",
      "issuer_tokens"] | none
  return {
    txid := ← Json.required? Json.text? txid
    block := ← Json.required? Json.height? block
    participant := ← Json.required? Json.text? participant
    amountPaid := ← Json.required? Json.int64? paid
    participantTokens := ← Json.required? Json.int64? participantTokens
    issuerTokens := ← Json.required? Json.int64? issuerTokens }

end Participation
end TokenOverlay
