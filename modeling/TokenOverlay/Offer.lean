import TokenOverlay.Amount
import TokenOverlay.Ecosystem

namespace TokenOverlay

/-!
Sell offers of a property against the host coin.  The amount that is still
open is reserved on the seller's balance.
-/

inductive OfferAction where
  | new
  | update
  | cancel
deriving DecidableEq, Repr, Inhabited

namespace OfferAction

def ofByte : UInt8 → Option OfferAction
  | 1 => some new
  | 2 => some update
  | 3 => some cancel
  | _ => none

def toByte : OfferAction → UInt8
  | new => 1
  | update => 2
  | cancel => 3

def name : OfferAction → String
  | new => "new"
  | update => "update"
  | cancel => "cancel"

def toJson (action : OfferAction) : Json := .text action.name

def ofName? : String → Option OfferAction
  | "new" => some new
  | "update" => some update
  | "cancel" => some cancel
  | _ => none

/-- An action only occurs in payloads, which are held when they are read. -/
def ofJson (j : Json) : Option OfferAction := j.heldVariant?.bind ofName?

theorem ofByte_toByte (action : OfferAction) : ofByte action.toByte = some action := by
  cases action <;> rfl

theorem ofJson_toJson (action : OfferAction) : ofJson action.toJson = some action := by
  cases action <;> rfl

end OfferAction

/-- What a seller asks for: `amount` of the property for `desired` of the host coin. -/
structure OfferTerms where
  amount : Int
  desired : Int
  timeLimit : UInt8
  minFee : Int
  txid : String
  block : Nat
deriving DecidableEq, Repr

structure Offer where
  seller : String
  propertyId : PropertyId
  amountOffered : Int
  amountRemaining : Int
  desiredOffered : Int
  desiredRemaining : Int
  timeLimit : UInt8
  minFee : Int
  txid : String
  block : Nat
deriving DecidableEq, Repr, Inhabited

namespace Offer

/-- An offer with all of its terms still open. -/
def ofTerms (seller : String) (property : PropertyId) (terms : OfferTerms) : Offer where
  seller := seller
  propertyId := property
  amountOffered := terms.amount
  amountRemaining := terms.amount
  desiredOffered := terms.desired
  desiredRemaining := terms.desired
  timeLimit := terms.timeLimit
  minFee := terms.minFee
  txid := terms.txid
  block := terms.block

/-- The host coin charged for part of what is open, in proportion and rounded toward zero. -/
def price (offer : Offer) (amount : Int) : Int :=
  Amount.wrap ((offer.desiredRemaining * amount).tdiv offer.amountRemaining)

def toJson (o : Offer) : Json := .object [
  ("seller", .text o.seller),
  ("property_id", .ofNat o.propertyId.toNat),
  ("amount_offered", .integer o.amountOffered),
  ("amount_remaining", .integer o.amountRemaining),
  ("desired_offered", .integer o.desiredOffered),
  ("desired_remaining", .integer o.desiredRemaining),
  ("time_limit", .ofNat o.timeLimit.toNat),
  ("min_fee", .integer o.minFee),
  ("txid", .text o.txid),
  ("block", .ofNat o.block)]

def ofJson (j : Json) : Option Offer := do
  let [seller, id, amountOffered, amountRemaining, desiredOffered, desiredRemaining,
      timeLimit, minFee, txid, block] ←
    j.fields? ["seller", "property_id", "amount_offered", "amount_remaining", "desired_offered",
      "desired_remaining", "time_limit", "min_fee", "txid", "block"] | none
  return {
    seller := ← Json.required? Json.text? seller
    propertyId := ← Json.required? Json.uint32? id
    amountOffered := ← Json.required? Json.int64? amountOffered
    amountRemaining := ← Json.required? Json.int64? amountRemaining
    desiredOffered := ← Json.required? Json.int64? desiredOffered
    desiredRemaining := ← Json.required? Json.int64? desiredRemaining
    timeLimit := ← Json.required? Json.uint8? timeLimit
    minFee := ← Json.required? Json.int64? minFee
    txid := ← Json.required? Json.text? txid
    block := ← Json.required? Json.height? block }

end Offer
end TokenOverlay
