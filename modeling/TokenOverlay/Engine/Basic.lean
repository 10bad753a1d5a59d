import TokenOverlay.Engine.Record

namespace TokenOverlay

/-!
The engine: the state after the blocks applied so far, the undo entries of the
latest of them, and a record of every transaction seen.
-/

/-- What takes one block back, and which transactions it held. -/
structure BlockUndo where
  height : Nat
  hash : String
  parentHash : String
  /-- Newest first. -/
  entries : List UndoEntry
  txids : List String
deriving DecidableEq, Repr

/-- All that an engine has to keep to go on where it stopped. -/
structure Snapshot where
  state : State
  undoChain : SortedMap Nat BlockUndo
  records : SortedMap String TxRecord
  tip : Option Tip
deriving DecidableEq

structure Engine where
  rules : Rules
  snapshot : Snapshot
deriving DecidableEq

/-- Why the engine cannot go on. -/
inductive EngineError where
  | reorgInconsistency (text : String)
  | outOfOrderBlock (expected got : Nat)
  | parentMismatch (height : Nat) (expected got : String)
deriving DecidableEq, Repr

namespace EngineError

def message : EngineError → String
  | reorgInconsistency text => s!"Reorg inconsistency: {text}"
  | outOfOrderBlock expected got =>
      s!"Out of order block: expected height {expected}, got {got}"
  | parentMismatch height expected got =>
      s!"Block {height} does not extend the tip: expected parent {expected}, got {got}"

end EngineError

namespace Engine

def state (e : Engine) : State := e.snapshot.state
def undoChain (e : Engine) : SortedMap Nat BlockUndo := e.snapshot.undoChain
def records (e : Engine) : SortedMap String TxRecord := e.snapshot.records
def tip (e : Engine) : Option Tip := e.snapshot.tip

/-- Go on from a snapshot. -/
def resume (rules : Rules) (snapshot : Snapshot) : Engine := ⟨rules, snapshot⟩

/-- Credit one allocation; one that is rejected is skipped. -/
def allocate (s : State) (allocation : Allocation) : State :=
  (Registry.mint allocation.address allocation.property allocation.amount (.start s)).2.state

/-- The state before the first block. -/
def genesisState (config : EngineConfig) : State := config.allocations.foldl allocate .initial

/-- An engine that has not seen a block. -/
def fresh (rules : Rules) : Engine :=
  ⟨rules, ⟨genesisState rules.config, .empty, .empty, none⟩⟩

/-- The height of the block that the engine takes next.  Heights are numbers of 32 bits, and
counting on is exact as long as no block has the last of them. -/
def nextHeight (e : Engine) : Nat :=
  match e.tip with
  | some tip => tip.height + 1
  | none => e.rules.params.genesisBlock

/-- The hash of an applied block, as far back as it is remembered. -/
def blockHashAt? (e : Engine) (height : Nat) : Option String :=
  match e.tip with
  | some tip =>
      if tip.height = height then some tip.hash
      else (e.undoChain.get? height).map BlockUndo.hash
  | none => (e.undoChain.get? height).map BlockUndo.hash

/-- The lowest height that can be gone back to. -/
def earliestRollbackHeight? (e : Engine) : Option Nat :=
  e.undoChain.keys.head?.map (· - 1)

def record? (e : Engine) (txid : String) : Option TxRecord := e.records.get? txid

/-- The supply of every property has to be the sum of its balances. -/
def verifySupply (e : Engine) : Except EngineError Unit :=
  match e.state.supplyMismatches with
  | [] => .ok ()
  | mismatches => .error (.reorgInconsistency ("; ".intercalate mismatches))

end Engine
end TokenOverlay
