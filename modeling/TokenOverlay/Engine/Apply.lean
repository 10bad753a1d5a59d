import TokenOverlay.Engine.Basic

namespace TokenOverlay
namespace Engine

/-!
Applying a block: features that are due are switched on and sales that are
overdue are closed, then the transactions are processed in order.  Whatever a
rejected transaction did is taken back before the next one is looked at.
-/

/-- What a block is known to have done. -/
structure BlockSummary where
  height : Nat
  hash : String
  transactions : Nat
  valid : Nat
  invalid : Nat
deriving DecidableEq, Repr

def contextOf (block : Block) (tx : Tx) : TxContext where
  txid := tx.txid
  sender := tx.sender
  reference := tx.reference
  block := block.height
  blockTime := block.time

/-- Run an action; when it is rejected its edits are taken back. -/
def settle (action : Action α) (journal : Journal) : Except Rejection α × Journal :=
  match action (.start journal.state) with
  | (.ok value, after) => (.ok value, ⟨after.state, after.entries ++ journal.entries⟩)
  | (.error reason, after) =>
      (.error reason, ⟨after.state.revertAll after.entries, journal.entries⟩)

/-- Process one transaction of a block. -/
def processTransaction (rules : Rules) (block : Block) (position : Nat) (tx : Tx)
    (journal : Journal) : TxRecord × Journal :=
  let record := TxRecord.opening block position tx
  match Message.decode tx.payload with
  | .error reason => (record.rejected (.ofDecodeError reason), journal)
  | .ok m =>
      let record := { record with payload := some m.payload }
      match settle (Execute.message rules (contextOf block tx) m) journal with
      | (.ok details, after) => (record.accepted details, after)
      | (.error reason, after) => (record.rejected reason, after)

/-- Process the transactions from a position on. -/
def processFrom (rules : Rules) (block : Block) (position : Nat) (journal : Journal) :
    List Tx → List TxRecord × Journal
  | [] => ([], journal)
  | tx :: rest =>
      let (record, journal) := processTransaction rules block position tx journal
      let (records, journal) := processFrom rules block (position + 1) journal rest
      (record :: records, journal)

/-- What happens at the start of a block, before any transaction. -/
def prelude (block : Block) : Action Unit := do
  let _ ← FeatureTable.completePending block.height
  let _ ← CrowdsaleBook.expire block.time block.height
  return ()

/-- The records and the journal of a whole block. -/
def processBlock (rules : Rules) (state : State) (block : Block) : List TxRecord × Journal :=
  processFrom rules block 0 (prelude block (.start state)).2 block.transactions

def keepRecords (records : SortedMap String TxRecord) (news : List TxRecord) :
    SortedMap String TxRecord :=
  news.foldl (fun records record => records.insert record.txid record) records

/-- How many blocks are kept undoable; at least one. -/
def depth (rules : Rules) : Nat := max 1 rules.config.maxReorgDepth

/-- Forget the undo entries of blocks that are too deep below a height. -/
def pruneUndo (rules : Rules) (height : Nat) (chain : SortedMap Nat BlockUndo) :
    SortedMap Nat BlockUndo :=
  if height < depth rules then chain
  else chain.filterKeys fun h => height - depth rules + 1 ≤ h

/-- The engine after a block that fits. -/
def extend (e : Engine) (block : Block) : Engine × BlockSummary :=
  let (records, journal) := processBlock e.rules e.state block
  let undo : BlockUndo := {
    height := block.height
    hash := block.hash
    parentHash := block.parentHash
    entries := journal.entries
    txids := records.map TxRecord.txid }
  let valid := (records.filter TxRecord.valid).length
  (⟨e.rules, {
      state := journal.state
      undoChain := pruneUndo e.rules block.height (e.undoChain.insert block.height undo)
      records := keepRecords e.records records
      tip := some ⟨block.height, block.hash⟩ }⟩,
    { height := block.height
      hash := block.hash
      transactions := block.transactions.length
      valid
      invalid := block.transactions.length - valid })

/-- Why a block does not fit on the tip. -/
def misfit? (e : Engine) (block : Block) : Option EngineError :=
  if block.height ≠ e.nextHeight then some (.outOfOrderBlock e.nextHeight block.height)
  else
    match e.tip with
    | some tip =>
        if tip.hash ≠ block.parentHash then
          some (.parentMismatch block.height tip.hash block.parentHash)
        else none
    | none => none

/-- Apply the next block. -/
def applyBlock (e : Engine) (block : Block) : Except EngineError (Engine × BlockSummary) :=
  match e.misfit? block with
  | some reason => .error reason
  | none => .ok (e.extend block)

end Engine
end TokenOverlay
