import TokenOverlay.Action.Ledger

namespace TokenOverlay
namespace OrderBook

/-!
The order book.  Opening an offer reserves the seller's tokens, and every way
out of the offer releases exactly what is still reserved for it.
-/

/-- Open an offer; a seller has one for each property. -/
def create (seller : Address) (property : PropertyId) (terms : OfferTerms) : Action Unit := do
  Action.guard (((← Action.state).orders.get? seller property).isNone = true)
    .duplicateActiveOffer
  Ledger.reserve seller property terms.amount
  Action.edit (.offer seller property (some (Offer.ofTerms seller property terms)))

def existing (seller : Address) (property : PropertyId) : Action Offer := do
  Action.require .noActiveOffer ((← Action.state).orders.get? seller property)

/-- Replace the terms of an offer. -/
def update (seller : Address) (property : PropertyId) (terms : OfferTerms) : Action Unit := do
  let offer ← existing seller property
  Ledger.unreserve seller property offer.amountRemaining
  Ledger.reserve seller property terms.amount
  Action.edit (.offer offer.seller offer.propertyId
    (some (Offer.ofTerms offer.seller offer.propertyId terms)))

/-- Withdraw an offer. -/
def cancel (seller : Address) (property : PropertyId) : Action Unit := do
  let offer ← existing seller property
  Ledger.unreserve seller property offer.amountRemaining
  Action.edit (.offer seller property none)

/-- What is left of an offer after an accept. -/
def afterAccept (offer : Offer) (amount : Int) : Offer :=
  { offer with
    amountRemaining := offer.amountRemaining - amount
    desiredRemaining := offer.desiredRemaining - offer.price amount }

/-- Take part of an offer, or all that is left; answers what the buyer owes in host coin. -/
def accept (buyer seller : Address) (property : PropertyId) (amount : Int) : Action Int := do
  Action.guard (buyer ≠ seller) .selfAccept
  let offer ← existing seller property
  Action.guard (amount ≤ offer.amountRemaining) .offerAmountExceeded
  Ledger.transferReserved seller buyer property amount
  if offer.amountRemaining - amount = 0 then Action.edit (.offer seller property none)
  else
    Action.edit (.offer offer.seller offer.propertyId (some (afterAccept offer amount)))
  return offer.price amount

end OrderBook
end TokenOverlay
