import TokenOverlay.Json.Basic

namespace TokenOverlay

/-!
Features that can be switched on while the chain runs: their names, and the
record of an activation that is pending or has taken effect.
-/

abbrev FeatureId := UInt16

namespace FeatureId

/-- Sending to the owners of another property. -/
def crossPropertySend : FeatureId := 10

/-- Offers of any property, not of the protocol tokens alone. -/
def freeExchange : FeatureId := 15

/-- The names of the features there are. -/
def featureName? (id : FeatureId) : Option String :=
  match id.toNat with
  | 1 => some "Class C transaction encoding"
  | 2 => some "Distributed Meta Token Exchange"
  | 3 => some "Bet transactions"
  | 4 => some "Remove grant side effects"
  | 5 => some "DEx integer math update"
  | 6 => some "Send All transactions"
  | 7 => some "Disable crowdsale ecosystem crossovers"
  | 8 => some "Allow trading all pairs on the Distributed Exchange"
  | 9 => some "Fee system (inc 0.05% fee from trades of non-Omni pairs)"
  | 10 => some "Cross-property Send To Owners"
  | 14 => some "Activate the waiting period for enabling freezing"
  | 15 => some "Activate trading of any token on the distributed exchange"
  | _ => none

end FeatureId

/-- A feature that is scheduled, or switched on when `completed`. -/
structure Feature where
  featureId : FeatureId
  name : String
  activationBlock : Nat
  minClientVersion : UInt32
  completed : Bool
  txid : String
deriving DecidableEq, Repr, Inhabited

namespace Feature

def toJson (f : Feature) : Json := .object [
  ("feature_id", .ofNat f.featureId.toNat),
  ("name", .text f.name),
  ("activation_block", .ofNat f.activationBlock),
  ("min_client_version", .ofNat f.minClientVersion.toNat),
  ("completed", .bool f.completed),
  ("txid", .text f.txid)]

def ofJson (j : Json) : Option Feature := do
  let [id, name, block, version, completed, txid] ←
    j.fields? ["feature_id", "name", "activation_block", "min_client_version", "completed",
      "txid"] | none
  return {
    featureId := ← Json.required? Json.uint16? id
    name := ← Json.required? Json.text? name
    activationBlock := ← Json.required? Json.height? block
    minClientVersion := ← Json.required? Json.uint32? version
    completed := ← Json.required? Json.bool? completed
    txid := ← Json.required? Json.text? txid }

end Feature

/-- How far ahead of its own block an activation may aim. -/
structure GraceWindow where
  least : Nat
  most : Nat
deriving DecidableEq, Repr

namespace GraceWindow

/-- Blocks from a transaction to the block it aims at. -/
def offset (height target : Nat) : Int := (target : Int) - height

def admits (window : GraceWindow) (height target : Nat) : Bool :=
  (window.least : Int) ≤ offset height target && offset height target ≤ window.most

theorem admits_iff {window : GraceWindow} {height target : Nat} :
    window.admits height target = true ↔
      height + window.least ≤ target ∧ target ≤ height + window.most := by
  rw [admits, Bool.and_eq_true, decide_eq_true_eq, decide_eq_true_eq]
  unfold offset
  omega

end GraceWindow
end TokenOverlay
