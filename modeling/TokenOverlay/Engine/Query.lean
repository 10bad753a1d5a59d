import TokenOverlay.Engine.Basic

namespace TokenOverlay
namespace Engine

/-!
Questions about an engine that do not change it.
-/

/-- A crowdsale with its contributions. -/
structure CrowdsaleView where
  sale : Crowdsale
  participations : List Participation
deriving DecidableEq

/-- A crowdsale with the property it sells and the one it takes. -/
structure CrowdsaleListing where
  view : CrowdsaleView
  property : Property
  desired : Property
deriving DecidableEq

structure Status where
  tip : Option Tip
  propertyCount : Nat
  activeOffers : Nat
  activeCrowdsales : Nat
  pendingActivations : Nat
  transactionCount : Nat
deriving DecidableEq

def balanceOf (e : Engine) (address : Address) (property : PropertyId) : Balance :=
  e.state.ledger.balance address property

/-- All balances of an address, with their properties. -/
def balancesFor (e : Engine) (address : Address) : List (Property × Balance) :=
  (e.state.ledger.balancesOf address).filterMap fun (id, balance) =>
    (e.state.registry.get? id).map fun property => (property, balance)

def propertyInfo? (e : Engine) (id : PropertyId) : Option Property := e.state.registry.get? id

def listProperties (e : Engine) : List Property := e.state.registry.list

def crowdsaleInfo? (e : Engine) (id : PropertyId) : Option CrowdsaleView :=
  (e.state.crowdsales.get? id).map fun sale => ⟨sale, e.state.crowdsales.participationsOf id⟩

def activeCrowdsales (e : Engine) : List Crowdsale := e.state.crowdsales.active

def activeOffers (e : Engine) : List Offer := e.state.orders.all

def distributionInfo? (e : Engine) (txid : String) : Option DistributionReceipt :=
  e.state.receipts.get? txid

def activations (e : Engine) : List Feature := e.state.features.all

/-- A balance with its property, if that is registered. -/
def propertyBalance? (e : Engine) (address : Address) (id : PropertyId) :
    Option (Property × Balance) :=
  (e.state.registry.get? id).map fun property => (property, e.state.ledger.balance address id)

/-- A sale with the properties it connects and the contributions kept under a number. -/
def listingOf? (e : Engine) (id : PropertyId) (sale : Crowdsale) : Option CrowdsaleListing := do
  let property ← e.state.registry.get? sale.propertyId
  let desired ← e.state.registry.get? sale.desiredProperty
  return ⟨⟨sale, e.state.crowdsales.participationsOf id⟩, property, desired⟩

def crowdsaleListing? (e : Engine) (id : PropertyId) : Option CrowdsaleListing :=
  (e.state.crowdsales.get? id).bind (e.listingOf? id)

def activeCrowdsaleListings (e : Engine) : List CrowdsaleListing :=
  e.state.crowdsales.active.filterMap fun sale => e.listingOf? sale.propertyId sale

/-- The open offers, each with the divisibility of what it offers. -/
def offersWithDivisibility (e : Engine) : List (Offer × Bool) :=
  e.state.orders.all.map fun offer => (offer, e.state.registry.isDivisible offer.propertyId)

/-- The property that the amount of a transaction counts: the one it created, or else the one
its payload acts on. -/
def amountProperty? (record : TxRecord) : Option PropertyId :=
  record.details.createdProperty.or (record.payload.map Payload.primaryProperty)

/-- A record with the divisibility of its amount, as far as that is known. -/
def transactionWithDivisibility? (e : Engine) (txid : String) :
    Option (TxRecord × Option Bool) :=
  (e.record? txid).map fun record =>
    (record, ((amountProperty? record).bind e.state.registry.get?).map Property.divisible)

def distributionWithDivisibility? (e : Engine) (txid : String) :
    Option (DistributionReceipt × Bool) := do
  let receipt ← e.state.receipts.get? txid
  let property ← e.state.registry.get? receipt.propertyId
  return (receipt, property.divisible)

def status (e : Engine) : Status where
  tip := e.tip
  propertyCount := e.state.registry.list.length
  activeOffers := e.state.orders.all.length
  activeCrowdsales := e.state.crowdsales.active.length
  pendingActivations := e.state.features.pending.length
  transactionCount := e.records.size

end Engine
end TokenOverlay
