import TokenOverlay.Bytes.Hex
import TokenOverlay.Json.Basic

namespace TokenOverlay

/-!
Blocks of the host chain, as far as the protocol looks into them.
-/

/-- A host transaction that carries a payload. -/
structure Tx where
  txid : String
  sender : String
  reference : Option String
  payload : Bytes
deriving DecidableEq, Repr, Inhabited

namespace Tx

def toJson (tx : Tx) : Json := .object [
  ("txid", .text tx.txid),
  ("sender", .text tx.sender),
  ("reference", Json.ofOption .text tx.reference),
  ("payload", Json.ofList (fun byte => .ofNat byte.toNat) tx.payload)]

end Tx

structure Block where
  height : Nat
  hash : String
  parentHash : String
  time : Int
  transactions : List Tx
deriving DecidableEq, Repr, Inhabited

namespace Block

def toJson (b : Block) : Json := .object [
  ("height", .ofNat b.height),
  ("hash", .text b.hash),
  ("parent_hash", .text b.parentHash),
  ("time", .integer b.time),
  ("transactions", Json.ofList Tx.toJson b.transactions)]

end Block

/-- The block that was applied last. -/
structure Tip where
  height : Nat
  hash : String
deriving DecidableEq, Repr, Inhabited

end TokenOverlay
