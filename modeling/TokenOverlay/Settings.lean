import TokenOverlay.Consensus
import TokenOverlay.EngineConfig

namespace TokenOverlay

/-!
The settings of a node, read from environment variables.  A variable that is
not set, or that cannot be read, leaves its setting at the default.
-/

/-- Where blocks come from: the chain inside the process, or a host node. -/
inductive SourceKind where
  | localChain
  | hostNode
deriving DecidableEq, Repr

structure ChainSettings where
  source : SourceKind
  network : Network
  host : String
  port : String
  username : String
  password : String
  /-- What marks a host transaction as carrying a payload. -/
  marker : String
  blockIntervalMs : Nat
deriving DecidableEq, Repr

structure Settings where
  chain : ChainSettings
  engine : EngineConfig
  consensus : ConsensusParams
  processIntervalMs : Nat
  stateFile : String
  apiPort : Nat
deriving DecidableEq, Repr

namespace Settings

/-- Environment variables by name. -/
abbrev Environment := String → Option String

def entryText (chars : List Char) : String := String.ofList chars

/-- The entries of a comma-separated list. -/
def listOf (text : String) : List String := (Text.listEntries text).map entryText

/-- One allocation: an address, a property and a positive amount between colons.  What follows
a third colon is not looked at. -/
def readAllocation (entry : List Char) : Option Allocation :=
  match Text.splitAt ':' entry with
  | address :: property :: amount :: _ => do
      let id ← Text.readNat UInt32.size property
      let amount ← Text.readInt Amount.least maxTokens amount
      if address.isEmpty ∨ amount ≤ 0 then none
      else some ⟨String.ofList address, UInt32.ofNat id, amount⟩
  | _ => none

/-- The allocations of a list; entries of another form are skipped. -/
def readAllocations (text : String) : List Allocation :=
  (Text.listEntries text).filterMap readAllocation

def textOr (env : Environment) (name default : String) : String := (env name).getD default

/-- An unsigned number of some width. -/
def natOr (env : Environment) (name : String) (bound default : Nat) : Nat :=
  ((env name).bind fun text => Text.readNat bound text.toList).getD default

/-- A signed number of 64 bits. -/
def intOr (env : Environment) (name : String) (default : Int) : Int :=
  ((env name).bind fun text => Text.readInt Amount.least maxTokens text.toList).getD default

def networkOf (env : Environment) : Network :=
  match Network.ofText (textOr env "CHAIN_NETWORK" "regtest") with
  | .ok network => network
  | .error _ => .regtest

def sourceOf (env : Environment) : SourceKind :=
  if Text.lowerCase (textOr env "CHAIN_SOURCE" "local") = "node" then .hostNode else .localChain

def consensusOf (env : Environment) (network : Network) : ConsensusParams :=
  let params := ConsensusParams.ofNetwork network
  { params with
    genesisBlock := natOr env "GENESIS_BLOCK_HEIGHT" UInt32.size params.genesisBlock
    minActivationBlocks :=
      natOr env "ACTIVATION_MIN_BLOCKS" UInt32.size params.minActivationBlocks
    maxActivationBlocks :=
      natOr env "ACTIVATION_MAX_BLOCKS" UInt32.size params.maxActivationBlocks }

def engineOf (env : Environment) : EngineConfig where
  allowedSenders := listOf (textOr env "ACTIVATION_ALLOW_SENDERS" "")
  ignoredSenders := listOf (textOr env "ACTIVATION_IGNORE_SENDERS" "")
  distributionFee := intOr env "STO_FEE_PER_RECIPIENT" 1
  bonusPeriod := intOr env "CROWDSALE_BONUS_PERIOD_SECS" 604800
  allocations := readAllocations (textOr env "GENESIS_ALLOCATIONS" "")
  maxReorgDepth := natOr env "MAX_REORG_DEPTH" UInt32.size 288

def ofEnvironment (env : Environment) : Settings :=
  let network := networkOf env
  { chain := {
      source := sourceOf env
      network
      host := textOr env "BITCOIN_RPC_HOST" "localhost"
      port := textOr env "BITCOIN_RPC_PORT" "18443"
      username := textOr env "BITCOIN_RPC_USER" "hello"
      password := textOr env "BITCOIN_RPC_PASSWORD" "world"
      marker := textOr env "PAYLOAD_MARKER" "omni"
      blockIntervalMs := natOr env "LOCAL_BLOCK_INTERVAL_MS" UInt64.size 10000 }
    engine := engineOf env
    consensus := consensusOf env network
    processIntervalMs := natOr env "PROCESS_BLOCK_INTERVAL_MS" UInt64.size 1000
    stateFile := textOr env "STATE_FILE" "./metalayer-state.json"
    apiPort := natOr env "API_PORT" UInt16.size 3001 }

end Settings
end TokenOverlay
