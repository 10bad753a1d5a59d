import TokenOverlay.Ecosystem

namespace TokenOverlay

/-!
Properties: the tokens that exist, who issued them and how their supply may change.
-/

/-- What governs the supply of a property. -/
inductive PropertyKind where
  | protocol
  | fixed
  | managed
  | crowdsale
deriving DecidableEq, Repr, Inhabited

namespace PropertyKind

def name : PropertyKind → String
  | protocol => "protocol"
  | fixed => "fixed"
  | managed => "managed"
  | crowdsale => "crowdsale"

def toJson (kind : PropertyKind) : Json := .text kind.name

def ofName? : String → Option PropertyKind
  | "protocol" => some protocol
  | "fixed" => some fixed
  | "managed" => some managed
  | "crowdsale" => some crowdsale
  | _ => none

def ofJson (j : Json) : Option PropertyKind := j.plainVariant?.bind ofName?

theorem ofJson_toJson (kind : PropertyKind) : ofJson kind.toJson = some kind := by
  cases kind <;> rfl

end PropertyKind

/-- How an issuer describes a property. -/
structure Description where
  category : String
  subcategory : String
  name : String
  url : String
  data : String
deriving DecidableEq, Repr, Inhabited

namespace Description

def toJson (d : Description) : Json := .object [
  ("category", .text d.category),
  ("subcategory", .text d.subcategory),
  ("name", .text d.name),
  ("url", .text d.url),
  ("data", .text d.data)]

def ofJson (j : Json) : Option Description := do
  let [category, subcategory, name, url, data] ←
    j.fields? ["category", "subcategory", "name", "url", "data"] | none
  return {
    category := ← Json.required? Json.text? category
    subcategory := ← Json.required? Json.text? subcategory
    name := ← Json.required? Json.text? name
    url := ← Json.required? Json.text? url
    data := ← Json.required? Json.text? data }

theorem ofJson_toJson (d : Description) : ofJson d.toJson = some d := rfl

end Description

structure Property where
  id : PropertyId
  ecosystem : Ecosystem
  divisible : Bool
  issuer : String
  creationTxid : String
  creationBlock : Nat
  totalTokens : Int
  kind : PropertyKind
  description : Description
deriving DecidableEq, Repr, Inhabited

namespace Property

def isManaged (p : Property) : Bool := p.kind = .managed

def isCrowdsale (p : Property) : Bool := p.kind = .crowdsale

/-- The token that an ecosystem has from the start. -/
def protocolToken (ecosystem : Ecosystem) (name : String) : Property where
  id := ecosystem.protocolToken
  ecosystem := ecosystem
  divisible := true
  issuer := ""
  creationTxid := ""
  creationBlock := 0
  totalTokens := 0
  kind := .protocol
  description := {
    category := "N/A"
    subcategory := "N/A"
    name := name
    url := ""
    data := "Protocol token" }

def toJson (p : Property) : Json := .object [
  ("id", .ofNat p.id.toNat),
  ("ecosystem", p.ecosystem.toJson),
  ("divisible", .bool p.divisible),
  ("issuer", .text p.issuer),
  ("creation_txid", .text p.creationTxid),
  ("creation_block", .ofNat p.creationBlock),
  ("total_tokens", .integer p.totalTokens),
  ("kind", p.kind.toJson),
  ("metadata", p.description.toJson)]

def ofJson (j : Json) : Option Property := do
  let [id, ecosystem, divisible, issuer, txid, block, total, kind, description] ←
    j.fields? ["id", "ecosystem", "divisible", "issuer", "creation_txid", "creation_block",
      "total_tokens", "kind", "metadata"] | none
  return {
    id := ← Json.required? Json.uint32? id
    ecosystem := ← Json.required? Ecosystem.ofJson ecosystem
    divisible := ← Json.required? Json.bool? divisible
    issuer := ← Json.required? Json.text? issuer
    creationTxid := ← Json.required? Json.text? txid
    creationBlock := ← Json.required? Json.height? block
    totalTokens := ← Json.required? Json.int64? total
    kind := ← Json.required? PropertyKind.ofJson kind
    description := ← Json.required? Description.ofJson description }

end Property
end TokenOverlay
