import TokenOverlay.Feature
import TokenOverlay.Payload.Basic
import TokenOverlay.Text.LowerCase

namespace TokenOverlay

/-!
The host chain networks and the rules that all followers of a network share:
where the protocol starts, how much notice a feature needs, and from which
block on a message type and version counts.
-/

inductive Network where
  | mainnet
  | testnet
  | regtest
deriving DecidableEq, Repr, Inhabited

namespace Network

def name : Network → String
  | mainnet => "mainnet"
  | testnet => "testnet"
  | regtest => "regtest"

/-- The network of a name in any case; a text that names none is given back in lower case. -/
def ofText (text : String) : Except String Network :=
  match Text.lowerCase text with
  | "mainnet" | "main" | "bitcoin" => .ok mainnet
  | "testnet" | "test" => .ok testnet
  | "regtest" => .ok regtest
  | other => .error other

/-- What is said about a text that names no network. -/
def unknownMessage (lowered : String) : String := s!"unknown network: {lowered}"

end Network

/-- The block from which on a message type and version counts. -/
structure Restriction where
  type : UInt16
  version : UInt16
  block : Nat
deriving DecidableEq, Repr

structure ConsensusParams where
  genesisBlock : Nat
  minActivationBlocks : Nat
  maxActivationBlocks : Nat
  restrictions : List Restriction
deriving DecidableEq, Repr

/-- The blocks from which on groups of message types count. -/
structure EnableBlocks where
  send : Nat
  exchange : Nat
  property : Nat
  managedProperty : Nat
  distribution : Nat
  crossDistribution : Nat
  sendAll : Nat
  control : Nat
deriving DecidableEq, Repr

namespace EnableBlocks

def allAt (block : Nat) : EnableBlocks :=
  ⟨block, block, block, block, block, block, block, block⟩

def restrictions (b : EnableBlocks) : List Restriction := [
  ⟨0, 0, b.send⟩,
  ⟨3, 0, b.distribution⟩,
  ⟨3, 1, b.crossDistribution⟩,
  ⟨4, 0, b.sendAll⟩,
  ⟨20, 0, b.exchange⟩,
  ⟨20, 1, b.exchange⟩,
  ⟨22, 0, b.exchange⟩,
  ⟨50, 0, b.property⟩,
  ⟨51, 0, b.property⟩,
  ⟨53, 0, b.property⟩,
  ⟨54, 0, b.managedProperty⟩,
  ⟨55, 0, b.managedProperty⟩,
  ⟨56, 0, b.managedProperty⟩,
  ⟨65533, controlVersion, b.control⟩,
  ⟨65534, controlVersion, b.control⟩]

end EnableBlocks

namespace ConsensusParams

def ofNetwork : Network → ConsensusParams
  | .mainnet => {
      genesisBlock := 249498
      minActivationBlocks := 2048
      maxActivationBlocks := 12288
      restrictions := EnableBlocks.restrictions {
        send := 249498
        exchange := 290630
        property := 297110
        managedProperty := 323230
        distribution := 342650
        crossDistribution := 999999
        sendAll := 395000
        control := 0 } }
  | .testnet => ⟨0, 5, 99999, (EnableBlocks.allAt 0).restrictions⟩
  | .regtest => ⟨0, 5, 10, (EnableBlocks.allAt 0).restrictions⟩

/-- Whether a message counts in a block.  Messages on properties of the test ecosystem count
from the start. -/
def permits (params : ConsensusParams) (block : Nat) (property : PropertyId)
    (type version : UInt16) : Bool :=
  params.restrictions.any fun entry =>
    entry.type = type && entry.version = version &&
      (Ecosystem.of property = some .test || entry.block ≤ block)

theorem permits_iff {params : ConsensusParams} {height : Nat} {property : PropertyId}
    {type version : UInt16} :
    params.permits height property type version = true ↔
      ∃ entry ∈ params.restrictions, entry.type = type ∧ entry.version = version ∧
        (Ecosystem.of property = some .test ∨ entry.block ≤ height) := by
  simp only [permits, List.any_eq_true, Bool.and_eq_true, Bool.or_eq_true, decide_eq_true_eq,
    and_assoc]

/-- Move the block of a message type, in all its versions. -/
def withEnableBlock (params : ConsensusParams) (type : UInt16) (block : Nat) : ConsensusParams :=
  { params with
    restrictions := params.restrictions.map fun entry =>
      if entry.type = type then { entry with block } else entry }

def graceWindow (params : ConsensusParams) : GraceWindow :=
  ⟨params.minActivationBlocks, params.maxActivationBlocks⟩

end ConsensusParams
end TokenOverlay
