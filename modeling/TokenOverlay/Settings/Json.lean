import TokenOverlay.Settings
import TokenOverlay.Json.Basic

namespace TokenOverlay

/-!
The settings in JSON, as they are reported to an operator.
-/

namespace Restriction

/-- Type, version and block. -/
def toJson (r : Restriction) : Json :=
  .list [.ofNat r.type.toNat, .ofNat r.version.toNat, .ofNat r.block]

end Restriction

namespace ConsensusParams

def toJson (params : ConsensusParams) : Json := .object [
  ("genesis_block", .ofNat params.genesisBlock),
  ("min_activation_blocks", .ofNat params.minActivationBlocks),
  ("max_activation_blocks", .ofNat params.maxActivationBlocks),
  ("restrictions", Json.ofList Restriction.toJson params.restrictions)]

end ConsensusParams

namespace Allocation

/-- Address, property and amount. -/
def toJson (a : Allocation) : Json :=
  .list [.text a.address, .ofNat a.property.toNat, .integer a.amount]

end Allocation

namespace EngineConfig

def toJson (config : EngineConfig) : Json := .object [
  ("allow", Json.ofList .text config.allowedSenders),
  ("ignore", Json.ofList .text config.ignoredSenders),
  ("sto_fee", .integer config.distributionFee),
  ("bonus_period", .integer config.bonusPeriod),
  ("alloc", Json.ofList Allocation.toJson config.allocations),
  ("max_reorg_depth", .ofNat config.maxReorgDepth)]

end EngineConfig

namespace SourceKind

def name : SourceKind → String
  | localChain => "local"
  | hostNode => "node"

end SourceKind

namespace ChainSettings

def toJson (s : ChainSettings) : Json := .object [
  ("source", .text s.source.name),
  ("network", .text s.network.name),
  ("host", .text s.host),
  ("port", .text s.port),
  ("username", .text s.username),
  ("password", .text s.password),
  ("marker", .text s.marker),
  ("local_block_interval_ms", .ofNat s.blockIntervalMs)]

end ChainSettings

namespace Settings

def toJson (s : Settings) : Json := .object [
  ("chain", s.chain.toJson),
  ("engine", s.engine.toJson),
  ("consensus", s.consensus.toJson),
  ("indexer", .object [
    ("process_interval_ms", .ofNat s.processIntervalMs),
    ("state_file", .text s.stateFile)]),
  ("api_port", .ofNat s.apiPort)]

end Settings
end TokenOverlay
