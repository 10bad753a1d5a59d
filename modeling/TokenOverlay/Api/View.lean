import TokenOverlay.Engine.Json
import TokenOverlay.Engine.Query

namespace TokenOverlay
namespace View

/-!
How answers show what the engine knows.  Amounts are shown as text, with eight
places for divisible properties and for the host coin.
-/

def amount (raw : Int) (divisible : Bool) : Json := .text (Amount.format raw divisible)

def balance (address : Address) (property : Property) (b : Balance) : Json := .object [
  ("address", .text address),
  ("property_id", .ofNat property.id.toNat),
  ("name", .text property.description.name),
  ("divisible", .bool property.divisible),
  ("balance", amount b.available property.divisible),
  ("reserved", amount b.reserved property.divisible)]

def property (p : Property) : Json := .object [
  ("property_id", .ofNat p.id.toNat),
  ("ecosystem", p.ecosystem.toJson),
  ("name", .text p.description.name),
  ("category", .text p.description.category),
  ("subcategory", .text p.description.subcategory),
  ("url", .text p.description.url),
  ("data", .text p.description.data),
  ("divisible", .bool p.divisible),
  ("issuer", .text p.issuer),
  ("creation_txid", .text p.creationTxid),
  ("creation_block", .ofNat p.creationBlock),
  ("kind", p.kind.toJson),
  ("fixed_issuance", .bool (p.kind = .fixed)),
  ("managed_issuance", .bool p.isManaged),
  ("total_tokens", amount p.totalTokens p.divisible)]

def participation (sold desired : Property) (p : Participation) : Json := .object [
  ("txid", .text p.txid),
  ("block", .ofNat p.block),
  ("participant", .text p.participant),
  ("amount_paid", amount p.amountPaid desired.divisible),
  ("participant_tokens", amount p.participantTokens sold.divisible),
  ("issuer_tokens", amount p.issuerTokens sold.divisible)]

/-- A sale; the contributions are listed on request. -/
def crowdsale (listing : Engine.CrowdsaleListing) (verbose : Bool) : Json :=
  let sale := listing.view.sale
  let divisible := listing.property.divisible
  .object ([
    ("property_id", .ofNat sale.propertyId.toNat),
    ("name", .text listing.property.description.name),
    ("active", .bool sale.active),
    ("issuer", .text sale.issuer),
    ("desired_property", .ofNat sale.desiredProperty.toNat),
    ("tokens_per_unit", amount sale.tokensPerUnit divisible),
    ("deadline", .integer sale.deadline),
    ("early_bonus", .ofNat sale.earlyBonus.toNat),
    ("issuer_percent", .ofNat sale.issuerPercent.toNat),
    ("tokens_issued", amount sale.tokensIssued divisible),
    ("issuer_tokens", amount sale.issuerTokens divisible),
    ("closed_early", .bool sale.closedEarly),
    ("max_tokens", .bool sale.maxTokens),
    ("creation_txid", .text sale.creationTxid)] ++
    TxDetails.memberOf "close_txid" .text sale.closeTxid ++
    (if verbose then
      [("participant_transactions",
        Json.ofList (participation listing.property listing.desired) listing.view.participations)]
    else []))

def offer (o : Offer) (divisible : Bool) : Json := .object [
  ("seller", .text o.seller),
  ("property_id", .ofNat o.propertyId.toNat),
  ("amount_offered", amount o.amountOffered divisible),
  ("amount_available", amount o.amountRemaining divisible),
  ("desired_amount", amount o.desiredOffered true),
  ("desired_remaining", amount o.desiredRemaining true),
  ("time_limit", .ofNat o.timeLimit.toNat),
  ("min_fee", amount o.minFee true),
  ("txid", .text o.txid),
  ("block", .ofNat o.block)]

/-- The amount that a payload names, if it is one that fits. -/
def payloadAmount? (payload : Payload) : Option Int :=
  payload.amount?.bind fun raw => if (raw.toNat : Int) ≤ maxTokens then some raw.toNat else none

/-- A record; the amount of its payload is added if its divisibility is known. -/
def transaction (record : TxRecord) (divisible : Option Bool) : Json :=
  let shown := do
    let payload ← record.payload
    let divisible ← divisible
    let raw ← payloadAmount? payload
    return amount raw divisible
  .object (record.members ++ TxDetails.memberOf "amount" id shown)

def distribution (r : DistributionReceipt) (divisible : Bool) : Json := .object [
  ("txid", .text r.txid),
  ("sender", .text r.sender),
  ("block", .ofNat r.block),
  ("property_id", .ofNat r.propertyId.toNat),
  ("distribution_property", .ofNat r.distributionProperty.toNat),
  ("amount", amount r.amount divisible),
  ("fee_property", .ofNat r.feeProperty.toNat),
  ("total_fee", amount r.fee true),
  ("recipient_count", .ofNat r.recipients.length),
  ("recipients", Json.ofList
    (fun recipient => .object [
      ("address", .text recipient.address),
      ("amount", amount recipient.amount divisible)]) r.recipients)]

def activations (all : List Feature) : Json := .object [
  ("pending", Json.ofList Feature.toJson (all.filter fun feature => !feature.completed)),
  ("completed", Json.ofList Feature.toJson (all.filter Feature.completed))]

def status (s : Engine.Status) (source network : String) : Json := .object [
  ("source", .text source),
  ("network", .text network),
  ("tip_height", Json.ofOption (fun tip => .ofNat tip.height) s.tip),
  ("tip_hash", Json.ofOption (fun tip => .text tip.hash) s.tip),
  ("property_count", .ofNat s.propertyCount),
  ("active_offers", .ofNat s.activeOffers),
  ("active_crowdsales", .ofNat s.activeCrowdsales),
  ("pending_activations", .ofNat s.pendingActivations),
  ("transaction_count", .ofNat s.transactionCount)]

end View
end TokenOverlay
