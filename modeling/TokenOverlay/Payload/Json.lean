import TokenOverlay.Payload.Basic

namespace TokenOverlay
namespace Payload

/-!
Payloads in JSON: an object that names its kind, with the fields of that kind
beside it.
-/

/-- The members of an issuance. -/
def issuanceMembers (i : Issuance) : List (String × Json) := [
  ("ecosystem", .ofNat i.ecosystem.toNat),
  ("property_type", .ofNat i.propertyType.toNat),
  ("previous_property", .ofNat i.previousProperty.toNat),
  ("metadata", i.description.toJson)]

def transferMembers (property : PropertyId) (amount : UInt64) : List (String × Json) := [
  ("property", .ofNat property.toNat),
  ("amount", .ofNat amount.toNat)]

def kind : Payload → String
  | simpleSend .. => "simple_send"
  | sendToOwners .. => "send_to_owners"
  | sendAll .. => "send_all"
  | sellOffer .. => "dex_sell_offer"
  | acceptOffer .. => "dex_accept_offer"
  | issueFixed .. => "create_property_fixed"
  | issueCrowdsale .. => "create_property_variable"
  | closeCrowdsale .. => "close_crowdsale"
  | issueManaged .. => "create_property_manual"
  | grant .. => "grant_tokens"
  | revoke .. => "revoke_tokens"
  | deactivate .. => "deactivation"
  | activate .. => "activation"

def members : Payload → List (String × Json)
  | simpleSend property amount => transferMembers property amount
  | sendToOwners property amount distribution =>
      transferMembers property amount ++
        [("distribution_property", Json.ofOption (fun id => .ofNat id.toNat) distribution)]
  | sendAll ecosystem => [("ecosystem", .ofNat ecosystem.toNat)]
  | sellOffer property amount desired timeLimit minFee action =>
      transferMembers property amount ++ [
        ("desired", .ofNat desired.toNat),
        ("time_limit", .ofNat timeLimit.toNat),
        ("min_fee", .ofNat minFee.toNat),
        ("action", action.toJson)]
  | acceptOffer property amount => transferMembers property amount
  | issueFixed issuance amount => issuanceMembers issuance ++ [("amount", .ofNat amount.toNat)]
  | issueCrowdsale issuance desired tokensPerUnit deadline earlyBonus issuerPercent =>
      issuanceMembers issuance ++ [
        ("desired_property", .ofNat desired.toNat),
        ("tokens_per_unit", .ofNat tokensPerUnit.toNat),
        ("deadline", .ofNat deadline.toNat),
        ("early_bonus", .ofNat earlyBonus.toNat),
        ("issuer_percent", .ofNat issuerPercent.toNat)]
  | closeCrowdsale property => [("property", .ofNat property.toNat)]
  | issueManaged issuance => issuanceMembers issuance
  | grant property amount memo => transferMembers property amount ++ [("memo", .text memo)]
  | revoke property amount memo => transferMembers property amount ++ [("memo", .text memo)]
  | deactivate feature => [("feature_id", .ofNat feature.toNat)]
  | activate feature block clientVersion => [
      ("feature_id", .ofNat feature.toNat),
      ("activation_block", .ofNat block.toNat),
      ("min_client_version", .ofNat clientVersion.toNat)]

def toJson (payload : Payload) : Json := .object (("kind", .text payload.kind) :: payload.members)

/-- An issuance from its four fields. -/
def readIssuance (ecosystem propertyType previous description : Option Json) :
    Option Issuance := do
  return {
    ecosystem := ← Json.required? Json.uint8? ecosystem
    propertyType := ← Json.required? Json.uint16? propertyType
    previousProperty := ← Json.required? Json.uint32? previous
    description := ← Json.required? Description.ofJson description }

/-- The payload of a kind, from its fields. -/
def readKind (kind : String) (j : Json) : Option Payload :=
  match kind with
  | "simple_send" => do
      let [property, amount] ← j.fields? ["property", "amount"] | none
      return .simpleSend (← Json.required? Json.uint32? property)
        (← Json.required? Json.uint64? amount)
  | "send_to_owners" => do
      let [property, amount, distribution] ←
        j.fields? ["property", "amount", "distribution_property"] | none
      return .sendToOwners (← Json.required? Json.uint32? property)
        (← Json.required? Json.uint64? amount) (← Json.optional? Json.uint32? distribution)
  | "send_all" => do
      let [ecosystem] ← j.fields? ["ecosystem"] | none
      return .sendAll (← Json.required? Json.uint8? ecosystem)
  | "dex_sell_offer" => do
      let [property, amount, desired, timeLimit, minFee, action] ←
        j.fields? ["property", "amount", "desired", "time_limit", "min_fee", "action"] | none
      return .sellOffer (← Json.required? Json.uint32? property)
        (← Json.required? Json.uint64? amount) (← Json.required? Json.uint64? desired)
        (← Json.required? Json.uint8? timeLimit) (← Json.required? Json.uint64? minFee)
        (← Json.required? OfferAction.ofJson action)
  | "dex_accept_offer" => do
      let [property, amount] ← j.fields? ["property", "amount"] | none
      return .acceptOffer (← Json.required? Json.uint32? property)
        (← Json.required? Json.uint64? amount)
  | "create_property_fixed" => do
      let [ecosystem, propertyType, previous, description, amount] ←
        j.fields? ["ecosystem", "property_type", "previous_property", "metadata", "amount"] | none
      return .issueFixed (← readIssuance ecosystem propertyType previous description)
        (← Json.required? Json.uint64? amount)
  | "create_property_variable" => do
      let [ecosystem, propertyType, previous, description, desired, tokensPerUnit, deadline,
          earlyBonus, issuerPercent] ←
        j.fields? ["ecosystem", "property_type", "previous_property", "metadata",
          "desired_property", "tokens_per_unit", "deadline", "early_bonus", "issuer_percent"] | none
      return .issueCrowdsale (← readIssuance ecosystem propertyType previous description)
        (← Json.required? Json.uint32? desired) (← Json.required? Json.uint64? tokensPerUnit)
        (← Json.required? Json.uint64? deadline) (← Json.required? Json.uint8? earlyBonus)
        (← Json.required? Json.uint8? issuerPercent)
  | "close_crowdsale" => do
      let [property] ← j.fields? ["property"] | none
      return .closeCrowdsale (← Json.required? Json.uint32? property)
  | "create_property_manual" => do
      let [ecosystem, propertyType, previous, description] ←
        j.fields? ["ecosystem", "property_type", "previous_property", "metadata"] | none
      return .issueManaged (← readIssuance ecosystem propertyType previous description)
  | "grant_tokens" => do
      let [property, amount, memo] ← j.fields? ["property", "amount", "memo"] | none
      return .grant (← Json.required? Json.uint32? property) (← Json.required? Json.uint64? amount)
        (← Json.required? Json.text? memo)
  | "revoke_tokens" => do
      let [property, amount, memo] ← j.fields? ["property", "amount", "memo"] | none
      return .revoke (← Json.required? Json.uint32? property) (← Json.required? Json.uint64? amount)
        (← Json.required? Json.text? memo)
  | "deactivation" => do
      let [feature] ← j.fields? ["feature_id"] | none
      return .deactivate (← Json.required? Json.uint16? feature)
  | "activation" => do
      let [feature, block, clientVersion] ←
        j.fields? ["feature_id", "activation_block", "min_client_version"] | none
      return .activate (← Json.required? Json.uint16? feature)
        (← Json.required? Json.uint32? block) (← Json.required? Json.uint32? clientVersion)
  | _ => none

def ofJson (j : Json) : Option Payload :=
  (j.variant? "kind").bind fun (kind, fields) => readKind kind fields

end Payload

namespace Message

def toJson (m : Message) : Json := .object [
  ("version", .ofNat m.version.toNat),
  ("payload", m.payload.toJson)]

end Message
end TokenOverlay
