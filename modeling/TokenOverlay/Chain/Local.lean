import TokenOverlay.Amount
import TokenOverlay.Bytes.Sha256
import TokenOverlay.Text.LowerCase
import TokenOverlay.Text.Decimal
import TokenOverlay.Chain.Source

namespace TokenOverlay

/-!
A chain inside the process.  Submitted transactions wait in a pool until a
block is mined; when the tip block is invalidated its transactions go back to
the front of the pool, as on a host node.
-/

/-- The blocks are kept newest first above the genesis block, so there always is a tip. -/
structure LocalChain where
  genesis : Block
  above : List Block
  pool : List Tx
  /-- Counts submissions and mined blocks, so that no two are alike. -/
  sequence : Nat
deriving DecidableEq, Repr

namespace LocalChain

/-- Seconds from one block to the next, unless a time is given. -/
def spacing : Int := 600

def nullHash : String := String.ofList (List.replicate 64 '0')

/-- The text that names the genesis block. -/
def genesisText (time : Int) : String := s!"genesis|{Text.intText time}"

def genesisBlock (time : Int) : Block where
  height := 0
  hash := Sha256.identifier (genesisText time)
  parentHash := nullHash
  time := time
  transactions := []

def new (genesisTime : Int) : LocalChain := ⟨genesisBlock genesisTime, [], [], 0⟩

def tip (chain : LocalChain) : Block := chain.above.headD chain.genesis

/-- The blocks in chain order. -/
def blocks (chain : LocalChain) : List Block := chain.genesis :: chain.above.reverse

/-- The text that names a submission. -/
def submissionText (sender payload : String) (reference : Option String) (sequence : Nat) :
    String :=
  "|".intercalate [sender, payload, reference.getD "", Text.natText sequence]

/-- Queue a transaction whose payload is given in hexadecimal. -/
def submitRaw (chain : LocalChain) (sender payload : String) (reference : Option String) :
    Except SourceError String × LocalChain :=
  if sender = "" then (.error (.parseError "sender is empty"), chain)
  else
    match Hex.decode payload with
    | .error reason => (.error (.parseError s!"payload is not hex: {reason.message}"), chain)
    | .ok bytes =>
        let sequence := chain.sequence + 1
        let txid := Sha256.identifier
          (submissionText sender (Text.lowerCase (Text.trim payload)) reference sequence)
        (.ok txid, { chain with
          pool := chain.pool ++ [⟨txid, sender, reference, bytes⟩]
          sequence })

/-- Queue a transaction that has its name already. -/
def submit (chain : LocalChain) (tx : Tx) : LocalChain := { chain with pool := chain.pool ++ [tx] }

/-- Drop the pool, and answer what was in it. -/
def clearPool (chain : LocalChain) : List Tx × LocalChain := (chain.pool, { chain with pool := [] })

/-- The text that names a block. -/
def headerText (height : Nat) (parentHash : String) (time : Int) (sequence : Nat)
    (txids : List String) : String :=
  "|".intercalate
    ([Text.natText height, parentHash, Text.intText time, Text.natText sequence] ++ txids)

/-- Mine the pool into a block of the given time. -/
def mineAt (chain : LocalChain) (time : Int) : Block × LocalChain :=
  let sequence := chain.sequence + 1
  let parent := chain.tip
  let block : Block := {
    height := parent.height + 1
    hash := Sha256.identifier (headerText (parent.height + 1) parent.hash time sequence
      (chain.pool.map Tx.txid))
    parentHash := parent.hash
    time
    transactions := chain.pool }
  (block, { chain with above := block :: chain.above, pool := [], sequence })

/-- The time at the usual distance from the tip; times are numbers of 64 signed bits. -/
def nextTime (chain : LocalChain) : Int := Amount.wrap (chain.tip.time + spacing)

/-- Mine the pool into a block at the usual distance from the tip. -/
def mine (chain : LocalChain) : Block × LocalChain := chain.mineAt chain.nextTime

/-- Mine several blocks, and answer the last one. -/
def mineMany (chain : LocalChain) : Nat → Option Block × LocalChain
  | 0 => (none, chain)
  | count + 1 =>
      let (block, after) := chain.mine
      match mineMany after count with
      | (none, last) => (some block, last)
      | result => result

/-- Disconnect the tip block. -/
def invalidateTip (chain : LocalChain) : Except SourceError Block × LocalChain :=
  match chain.above with
  | [] => (.error (.unsupported "cannot invalidate the genesis block"), chain)
  | block :: rest =>
      (.ok block, { chain with above := rest, pool := block.transactions ++ chain.pool })

/-- Disconnect every block above a height; `fuel` bounds their number. -/
def reorgWithin (height : Nat) : Nat → LocalChain → Except SourceError (List Block) × LocalChain
  | 0, chain => (.ok [], chain)
  | fuel + 1, chain =>
      if chain.tip.height ≤ height then (.ok [], chain)
      else
        match chain.invalidateTip with
        | (.error reason, after) => (.error reason, after)
        | (.ok block, after) =>
            match reorgWithin height fuel after with
            | (.ok blocks, last) => (.ok (block :: blocks), last)
            | (.error reason, last) => (.error reason, last)

/-- Disconnect every block above a height, newest first. -/
def reorgTo (chain : LocalChain) (height : Nat) : Except SourceError (List Block) × LocalChain :=
  reorgWithin height (chain.above.length + 1) chain

def block? (chain : LocalChain) (height : Nat) : Except SourceError Block :=
  match chain.blocks[height]? with
  | some block => .ok block
  | none => .error (.blockNotFound height)

/-- The chain as a source of blocks. -/
def source : Source LocalChain where
  blockCount := fun chain => (.ok chain.tip.height, chain)
  blockHash := fun height chain => ((chain.block? height).map Block.hash, chain)
  block := fun height chain => (chain.block? height, chain)

end LocalChain
end TokenOverlay
