import TokenOverlay.Amount
import TokenOverlay.Ecosystem

namespace TokenOverlay

/-!
Sending an amount to all owners of a property in proportion to what they hold.
-/

structure Recipient where
  address : String
  amount : Int
deriving DecidableEq, Repr, Inhabited

namespace Recipient

def toJson (r : Recipient) : Json := .object [
  ("address", .text r.address),
  ("amount", .integer r.amount)]

def ofJson (j : Json) : Option Recipient := do
  let [address, amount] ← j.fields? ["address", "amount"] | none
  return {
    address := ← Json.required? Json.text? address
    amount := ← Json.required? Json.int64? amount }

end Recipient

/-- What a distribution did, kept under its transaction. -/
structure DistributionReceipt where
  txid : String
  sender : String
  block : Nat
  propertyId : PropertyId
  distributionProperty : PropertyId
  amount : Int
  feeProperty : PropertyId
  fee : Int
  recipients : List Recipient
deriving DecidableEq, Repr, Inhabited

namespace DistributionReceipt

def toJson (r : DistributionReceipt) : Json := .object [
  ("txid", .text r.txid),
  ("sender", .text r.sender),
  ("block", .ofNat r.block),
  ("property_id", .ofNat r.propertyId.toNat),
  ("distribution_property", .ofNat r.distributionProperty.toNat),
  ("amount", .integer r.amount),
  ("fee_property", .ofNat r.feeProperty.toNat),
  ("fee", .integer r.fee),
  ("recipients", Json.ofList Recipient.toJson r.recipients)]

def ofJson (j : Json) : Option DistributionReceipt := do
  let [txid, sender, block, id, distribution, amount, feeProperty, fee, recipients] ←
    j.fields? ["txid", "sender", "block", "property_id", "distribution_property", "amount",
      "fee_property", "fee", "recipients"] | none
  return {
    txid := ← Json.required? Json.text? txid
    sender := ← Json.required? Json.text? sender
    block := ← Json.required? Json.height? block
    propertyId := ← Json.required? Json.uint32? id
    distributionProperty := ← Json.required? Json.uint32? distribution
    amount := ← Json.required? Json.int64? amount
    feeProperty := ← Json.required? Json.uint32? feeProperty
    fee := ← Json.required? Json.int64? fee
    recipients := ← Json.required? (Json.list? Recipient.ofJson) recipients }

end DistributionReceipt

namespace Distribution

/-- An owner and its balance. -/
abbrev Owner := String × Int

/-- Larger balances first, and of equal balances the smaller address. -/
def ahead (a b : Owner) : Bool :=
  b.2 < a.2 || (a.2 = b.2 && (compare a.1 b.1).isLE)

/-- The owners that take part, in the order in which they are served. -/
def eligibleOwners (holders : List Owner) (sender : String) : List Owner :=
  (holders.filter fun owner => owner.1 ≠ sender && 0 < owner.2).mergeSort ahead

def totalBalance (owners : List Owner) : Int := Amount.total (owners.map Prod.snd)

/-- Hand out what rounding left over, one unit to each share in turn. -/
def spread : Int → List Int → List Int
  | _, [] => []
  | left, share :: shares =>
      if left = 0 then share :: shares else (share + 1) :: spread (left - 1) shares

/-- Every owner's share, rounded toward zero. -/
def floors (owners : List Owner) (amount : Int) : List Int :=
  owners.map fun owner => Amount.wrap ((amount * owner.2).tdiv (totalBalance owners))

/-- Split an amount over owners; owners whose share is nothing are left out. -/
def distribute (owners : List Owner) (amount : Int) : List Recipient :=
  if totalBalance owners ≤ 0 ∨ amount ≤ 0 then []
  else
    let shares := floors owners amount
    ((owners.zip (spread (amount - Amount.total shares) shares)).filter fun pair => 0 < pair.2).map
      fun pair => ⟨pair.1.1, pair.2⟩

/-- The fee of a distribution, in the protocol token of its ecosystem. -/
def fee (feePerRecipient : Int) (recipients : Nat) : Int :=
  Amount.saturate (feePerRecipient * Amount.wrap recipients)

end Distribution
end TokenOverlay
