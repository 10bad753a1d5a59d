import TokenOverlay.State.Edit

namespace TokenOverlay

/-!
The state and its undo entries in JSON.  Tables are objects; numbers that
serve as keys are written as canonical numerals.
-/

def Registry.toJson (r : Registry) : Json := .object [
  ("properties", Json.ofTable Json.uint32Key Property.toJson r.properties),
  ("next_main_id", .ofNat r.nextMainId.toNat),
  ("next_test_id", .ofNat r.nextTestId.toNat)]

def Registry.ofJson (j : Json) : Option Registry := do
  let [properties, nextMain, nextTest] ←
    j.fields? ["properties", "next_main_id", "next_test_id"] | none
  return {
    properties := ← Json.required? (Json.numberTable? Json.uint32Key? Property.ofJson) properties
    nextMainId := ← Json.required? Json.uint32? nextMain
    nextTestId := ← Json.required? Json.uint32? nextTest }

def Ledger.toJson (l : Ledger) : Json := .object [
  ("balances", Json.ofTable id (Json.ofTable Json.uint32Key Balance.toJson) l.balances)]

def Ledger.ofJson (j : Json) : Option Ledger := do
  let [balances] ← j.fields? ["balances"] | none
  return {
    balances := ← Json.required?
      (Json.table? (Json.numberTable? Json.uint32Key? Balance.ofJson)) balances }

def CrowdsaleBook.toJson (book : CrowdsaleBook) : Json := .object [
  ("sales", Json.ofTable Json.uint32Key Crowdsale.toJson book.sales),
  ("participations",
    Json.ofTable Json.uint32Key (Json.ofList Participation.toJson) book.participations)]

def CrowdsaleBook.ofJson (j : Json) : Option CrowdsaleBook := do
  let [sales, participations] ← j.fields? ["sales", "participations"] | none
  return {
    sales := ← Json.required? (Json.numberTable? Json.uint32Key? Crowdsale.ofJson) sales
    participations := ← Json.required?
      (Json.numberTable? Json.uint32Key? (Json.list? Participation.ofJson)) participations }

def OrderBook.toJson (book : OrderBook) : Json := .object [
  ("offers", Json.ofTable id (Json.ofTable Json.uint32Key Offer.toJson) book.offers)]

def OrderBook.ofJson (j : Json) : Option OrderBook := do
  let [offers] ← j.fields? ["offers"] | none
  return {
    offers := ← Json.required?
      (Json.table? (Json.numberTable? Json.uint32Key? Offer.ofJson)) offers }

def FeatureTable.toJson (table : FeatureTable) : Json := .object [
  ("features", Json.ofTable Json.uint16Key Feature.toJson table.features)]

def FeatureTable.ofJson (j : Json) : Option FeatureTable := do
  let [features] ← j.fields? ["features"] | none
  return { features := ← Json.required? (Json.numberTable? Json.uint16Key? Feature.ofJson) features }

namespace State

/-- The parts of a state by name. -/
def parts (s : State) : List (String × Json) := [
  ("registry", s.registry.toJson),
  ("ledger", s.ledger.toJson),
  ("crowdsales", s.crowdsales.toJson),
  ("dex", s.orders.toJson),
  ("activations", s.features.toJson),
  ("sto_receipts", Json.ofTable id DistributionReceipt.toJson s.receipts)]

def toJson (s : State) : Json := .object s.parts

def ofJson (j : Json) : Option State := do
  let [registry, ledger, crowdsales, orders, features, receipts] ←
    j.fields? ["registry", "ledger", "crowdsales", "dex", "activations", "sto_receipts"] | none
  return {
    registry := ← Json.required? Registry.ofJson registry
    ledger := ← Json.required? Ledger.ofJson ledger
    crowdsales := ← Json.required? CrowdsaleBook.ofJson crowdsales
    orders := ← Json.required? OrderBook.ofJson orders
    features := ← Json.required? FeatureTable.ofJson features
    receipts := ← Json.required? (Json.table? DistributionReceipt.ofJson) receipts }

end State

namespace UndoEntry

def kind : UndoEntry → String
  | balance .. => "balance"
  | supply .. => "supply"
  | propertyCreated .. => "property_created"
  | crowdsale .. => "crowdsale"
  | participation .. => "participation"
  | offer .. => "offer"
  | feature .. => "activation"
  | receipt .. => "sto_receipt"

def members : UndoEntry → List (String × Json)
  | balance address property previous => [
      ("address", .text address),
      ("property", .ofNat property.toNat),
      ("previous", previous.toJson)]
  | supply property previous => [
      ("property", .ofNat property.toNat),
      ("previous", .integer previous)]
  | propertyCreated property ecosystem previousNextId => [
      ("property", .ofNat property.toNat),
      ("ecosystem", ecosystem.toJson),
      ("previous_next_id", .ofNat previousNextId.toNat)]
  | crowdsale property previous => [
      ("property", .ofNat property.toNat),
      ("previous", Json.ofOption Crowdsale.toJson previous)]
  | participation property => [("property", .ofNat property.toNat)]
  | offer seller property previous => [
      ("seller", .text seller),
      ("property", .ofNat property.toNat),
      ("previous", Json.ofOption Offer.toJson previous)]
  | feature id previous => [
      ("feature_id", .ofNat id.toNat),
      ("previous", Json.ofOption Feature.toJson previous)]
  | receipt txid => [("txid", .text txid)]

def toJson (entry : UndoEntry) : Json := .object (("op", .text entry.kind) :: entry.members)

def readKind (kind : String) (j : Json) : Option UndoEntry :=
  match kind with
  | "balance" => do
      let [address, property, previous] ← j.fields? ["address", "property", "previous"] | none
      return .balance (← Json.required? Json.text? address)
        (← Json.required? Json.uint32? property) (← Json.required? Balance.ofJson previous)
  | "supply" => do
      let [property, previous] ← j.fields? ["property", "previous"] | none
      return .supply (← Json.required? Json.uint32? property)
        (← Json.required? Json.int64? previous)
  | "property_created" => do
      let [property, ecosystem, previousNextId] ←
        j.fields? ["property", "ecosystem", "previous_next_id"] | none
      return .propertyCreated (← Json.required? Json.uint32? property)
        (← Json.required? Ecosystem.ofHeldJson ecosystem)
        (← Json.required? Json.uint32? previousNextId)
  | "crowdsale" => do
      let [property, previous] ← j.fields? ["property", "previous"] | none
      return .crowdsale (← Json.required? Json.uint32? property)
        (← Json.optional? Crowdsale.ofJson previous)
  | "participation" => do
      let [property] ← j.fields? ["property"] | none
      return .participation (← Json.required? Json.uint32? property)
  | "offer" => do
      let [seller, property, previous] ← j.fields? ["seller", "property", "previous"] | none
      return .offer (← Json.required? Json.text? seller) (← Json.required? Json.uint32? property)
        (← Json.optional? Offer.ofJson previous)
  | "activation" => do
      let [id, previous] ← j.fields? ["feature_id", "previous"] | none
      return .feature (← Json.required? Json.uint16? id) (← Json.optional? Feature.ofJson previous)
  | "sto_receipt" => do
      let [txid] ← j.fields? ["txid"] | none
      return .receipt (← Json.required? Json.text? txid)
  | _ => none

def ofJson (j : Json) : Option UndoEntry :=
  (j.variant? "op").bind fun (kind, fields) => readKind kind fields

end UndoEntry
end TokenOverlay
