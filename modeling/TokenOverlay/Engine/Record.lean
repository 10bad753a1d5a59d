import TokenOverlay.Block
import TokenOverlay.Execute.Message

namespace TokenOverlay

/-!
What is kept about every transaction, valid or not.
-/

structure TxRecord where
  txid : String
  sender : Address
  reference : Option Address
  blockHeight : Nat
  blockHash : String
  blockTime : Int
  /-- Place of the transaction in its block. -/
  position : Nat
  messageType : Option UInt16
  version : Option UInt16
  typeName : String
  valid : Bool
  invalidReason : Option String
  payload : Option Payload
  details : TxDetails
deriving DecidableEq, Repr

namespace TxRecord

/-- The reason given to the transactions of a block that left the chain. -/
def reorganized : String := "Block was reorganized"

/-- The name that belongs to a payload's header, whether or not the rest can be read. -/
def typeNameOf (header : Option (UInt16 × UInt16)) : String :=
  match header with
  | some (_, type) => messageTypeName type
  | none => "Unknown"

/-- The record of a transaction before anything is known about its effect. -/
def opening (block : Block) (position : Nat) (tx : Tx) : TxRecord :=
  let header := Message.header? tx.payload
  { txid := tx.txid
    sender := tx.sender
    reference := tx.reference
    blockHeight := block.height
    blockHash := block.hash
    blockTime := block.time
    position
    messageType := header.map Prod.snd
    version := header.map Prod.fst
    typeName := typeNameOf header
    valid := false
    invalidReason := none
    payload := none
    details := TxDetails.none }

def rejected (record : TxRecord) (reason : Rejection) : TxRecord :=
  { record with invalidReason := some reason.message }

def accepted (record : TxRecord) (details : TxDetails) : TxRecord :=
  { record with valid := true, details }

/-- The record of a transaction whose block left the chain. -/
def disconnected (record : TxRecord) : TxRecord :=
  { record with valid := false, invalidReason := some reorganized }

end TxRecord
end TokenOverlay
