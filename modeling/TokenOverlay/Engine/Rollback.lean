import TokenOverlay.Engine.Basic

namespace TokenOverlay
namespace Engine

/-!
Going back to an earlier block: the blocks above it are taken back newest
first, and their transactions are marked as reorganized.
-/

def disconnectRecord (records : SortedMap String TxRecord) (txid : String) :
    SortedMap String TxRecord :=
  match records.get? txid with
  | some record => records.insert txid record.disconnected
  | none => records

/-- Take the tip block back, whose undo entries are given. -/
def disconnect (e : Engine) (height : Nat) (undo : BlockUndo) : Engine :=
  ⟨e.rules, {
    state := e.state.revertAll undo.entries
    undoChain := e.undoChain.erase height
    records := undo.txids.reverse.foldl disconnectRecord e.records
    tip := if e.rules.params.genesisBlock < height then some ⟨height - 1, undo.parentHash⟩
      else none }⟩

/-- Take back the given number of blocks above a height, with the transactions they held,
newest first. -/
def disconnectAbove (e : Engine) (height : Nat) : Nat → Engine × List String
  | 0 => (e, [])
  | count + 1 =>
      let h := height + count + 1
      match e.undoChain.get? h with
      | none => (e, [])
      | some undo =>
          let (after, txids) := disconnectAbove (e.disconnect h undo) height count
          (after, undo.txids.reverse ++ txids)

/-- The lowest of a number of blocks above a height that cannot be taken back. -/
def missingUndo? (e : Engine) (height count : Nat) : Option Nat :=
  ((List.range count).map fun i => height + 1 + i).find? fun h => !e.undoChain.contains h

/-- Make an earlier block the tip again.  The transactions that lost their block are listed,
newest first.  The outcome comes with the engine it leaves behind: when the supply does not add
up afterwards, the blocks are gone all the same. -/
def rollbackTo (e : Engine) (height : Nat) : Except EngineError (List String) × Engine :=
  match e.tip with
  | none => (.ok [], e)
  | some tip =>
      if tip.height ≤ height then (.ok [], e)
      else
        match e.missingUndo? height (tip.height - height) with
        | some missing =>
            (.error (.reorgInconsistency
              s!"no undo log for block {missing} while rolling back to {height}"), e)
        | none =>
            let (after, txids) := e.disconnectAbove height (tip.height - height)
            match after.verifySupply with
            | .ok _ => (.ok txids, after)
            | .error reason => (.error reason, after)

end Engine
end TokenOverlay
