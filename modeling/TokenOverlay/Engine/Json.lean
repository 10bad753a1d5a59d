import TokenOverlay.Engine.Basic
import TokenOverlay.State.Json
import TokenOverlay.Payload.Json

namespace TokenOverlay

/-!
Records and snapshots in JSON.  The details of a transaction list only what
applies to it; the undo entries of a block are listed in the order in which
they were noted.
-/

namespace Purchase

def toJson (p : Purchase) : Json := .object [
  ("property_id", .ofNat p.propertyId.toNat),
  ("tokens", .integer p.tokens),
  ("issuer_tokens", .integer p.issuerTokens)]

def ofJson (j : Json) : Option Purchase := do
  let [id, tokens, issuerTokens] ← j.fields? ["property_id", "tokens", "issuer_tokens"] | none
  return {
    propertyId := ← Json.required? Json.uint32? id
    tokens := ← Json.required? Json.int64? tokens
    issuerTokens := ← Json.required? Json.int64? issuerTokens }

end Purchase

namespace SubSend

def toJson (s : SubSend) : Json := .object [
  ("property_id", .ofNat s.propertyId.toNat),
  ("amount", .integer s.amount)]

def ofJson (j : Json) : Option SubSend := do
  let [id, amount] ← j.fields? ["property_id", "amount"] | none
  return {
    propertyId := ← Json.required? Json.uint32? id
    amount := ← Json.required? Json.int64? amount }

end SubSend

namespace TxDetails

/-- A member that is left out when there is nothing to say. -/
def memberOf (name : String) (write : α → Json) : Option α → List (String × Json)
  | some value => [(name, write value)]
  | .none => []

def toJson (d : TxDetails) : Json := .object (
  memberOf "created_property" (fun id => .ofNat id.toNat) d.createdProperty ++
  memberOf "purchase" Purchase.toJson d.purchase ++
  (if d.subSends.isEmpty then [] else [("sub_sends", Json.ofList SubSend.toJson d.subSends)]) ++
  memberOf "sto_recipients" .ofNat d.distributionRecipients ++
  memberOf "sto_fee" .integer d.distributionFee)

/-- A list that may be left out when it is empty. -/
def readSubSends : Option Json → Option (List SubSend)
  | .none => some []
  | some j => j.list? SubSend.ofJson

def ofJson (j : Json) : Option TxDetails := do
  let [created, purchase, subSends, recipients, fee] ←
    j.fields? ["created_property", "purchase", "sub_sends", "sto_recipients", "sto_fee"] | .none
  return {
    createdProperty := ← Json.optional? Json.uint32? created
    purchase := ← Json.optional? Purchase.ofJson purchase
    subSends := ← readSubSends subSends
    distributionRecipients := ← Json.optional? Json.count? recipients
    distributionFee := ← Json.optional? Json.int64? fee }

end TxDetails

namespace TxRecord

def members (r : TxRecord) : List (String × Json) := [
  ("txid", .text r.txid),
  ("sender", .text r.sender),
  ("reference", Json.ofOption .text r.reference),
  ("block_height", .ofNat r.blockHeight),
  ("block_hash", .text r.blockHash),
  ("block_time", .integer r.blockTime),
  ("position", .ofNat r.position),
  ("tx_type", Json.ofOption (fun n => .ofNat n.toNat) r.messageType),
  ("version", Json.ofOption (fun n => .ofNat n.toNat) r.version),
  ("type_name", .text r.typeName),
  ("valid", .bool r.valid),
  ("invalid_reason", Json.ofOption .text r.invalidReason),
  ("payload", Json.ofOption Payload.toJson r.payload),
  ("details", r.details.toJson)]

def toJson (r : TxRecord) : Json := .object r.members

def ofJson (j : Json) : Option TxRecord := do
  let [txid, sender, reference, blockHeight, blockHash, blockTime, position, messageType, version,
      typeName, valid, invalidReason, payload, details] ←
    j.fields? ["txid", "sender", "reference", "block_height", "block_hash", "block_time",
      "position", "tx_type", "version", "type_name", "valid", "invalid_reason", "payload",
      "details"] | none
  return {
    txid := ← Json.required? Json.text? txid
    sender := ← Json.required? Json.text? sender
    reference := ← Json.optional? Json.text? reference
    blockHeight := ← Json.required? Json.height? blockHeight
    blockHash := ← Json.required? Json.text? blockHash
    blockTime := ← Json.required? Json.int64? blockTime
    position := ← Json.required? Json.height? position
    messageType := ← Json.optional? Json.uint16? messageType
    version := ← Json.optional? Json.uint16? version
    typeName := ← Json.required? Json.text? typeName
    valid := ← Json.required? Json.bool? valid
    invalidReason := ← Json.optional? Json.text? invalidReason
    payload := ← Json.optional? Payload.ofJson payload
    details := ← Json.required? TxDetails.ofJson details }

end TxRecord

namespace BlockUndo

/-- Undo entries, oldest first. -/
def logToJson (entries : List UndoEntry) : Json := .object [
  ("ops", Json.ofList UndoEntry.toJson entries.reverse)]

def logOfJson (j : Json) : Option (List UndoEntry) := do
  let [ops] ← j.fields? ["ops"] | none
  return (← Json.required? (Json.list? UndoEntry.ofJson) ops).reverse

def toJson (u : BlockUndo) : Json := .object [
  ("height", .ofNat u.height),
  ("hash", .text u.hash),
  ("parent_hash", .text u.parentHash),
  ("log", logToJson u.entries),
  ("txids", Json.ofList .text u.txids)]

def ofJson (j : Json) : Option BlockUndo := do
  let [height, hash, parentHash, log, txids] ←
    j.fields? ["height", "hash", "parent_hash", "log", "txids"] | none
  return {
    height := ← Json.required? Json.height? height
    hash := ← Json.required? Json.text? hash
    parentHash := ← Json.required? Json.text? parentHash
    entries := ← Json.required? logOfJson log
    txids := ← Json.required? (Json.list? Json.text?) txids }

end BlockUndo

namespace Tip

def toJson (t : Tip) : Json := .object [("height", .ofNat t.height), ("hash", .text t.hash)]

def ofJson (j : Json) : Option Tip := do
  let [height, hash] ← j.fields? ["height", "hash"] | none
  return {
    height := ← Json.required? Json.height? height
    hash := ← Json.required? Json.text? hash }

end Tip

namespace Snapshot

def toJson (s : Snapshot) : Json := .object [
  ("state", s.state.toJson),
  ("undo_chain", Json.ofTable Text.natText BlockUndo.toJson s.undoChain),
  ("records", Json.ofTable id TxRecord.toJson s.records),
  ("tip", Json.ofOption Tip.toJson s.tip)]

def ofJson (j : Json) : Option Snapshot := do
  let [state, undoChain, records, tip] ←
    j.fields? ["state", "undo_chain", "records", "tip"] | none
  return {
    state := ← Json.required? State.ofJson state
    undoChain := ← Json.required?
      (Json.numberTable? (Json.natKey? UInt32.size) BlockUndo.ofJson) undoChain
    records := ← Json.required? (Json.table? TxRecord.ofJson) records
    tip := ← Json.optional? Tip.ofJson tip }

end Snapshot
end TokenOverlay
