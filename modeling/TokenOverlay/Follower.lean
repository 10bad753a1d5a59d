import TokenOverlay.Chain.Source
import TokenOverlay.Engine.Apply
import TokenOverlay.Engine.Rollback
import TokenOverlay.Retry
import TokenOverlay.Store.Snapshot

namespace TokenOverlay

/-!
Following a chain.  In each round the follower asks its source how long the
chain is, goes back to the last block both have in common, applies what is
missing and saves the outcome if anything changed.  Time passes only in the
waits between tries and between rounds, and a follower may be stopped at a
moment of that time.
-/

/-- Why a round failed. -/
inductive SyncError where
  | source (error : SourceError)
  | engine (error : EngineError)
  | store (error : StoreError)
  | processing (text : String)
deriving DecidableEq, Repr

namespace SyncError

def message : SyncError → String
  | source error => s!"Chain source error: {error.message}"
  | engine error => s!"Engine error: {error.message}"
  | store error => s!"State store error: {error.message}"
  | processing text => s!"Processing error: {text}"

/-- The text of an error and then of each cause behind it. -/
def texts (e : SyncError) : List String :=
  e.message ::
    match e with
    | source error => [error.message]
    | engine error => [error.message]
    | store error => error.message :: error.cause?.toList
    | processing _ => []

end SyncError

/-- Why a round ended before it was done. -/
inductive Halt where
  | failed (error : SyncError)
  /-- The follower was stopped. -/
  | stopped
deriving DecidableEq, Repr

/-- What a round did to the chain of blocks. -/
structure SyncOutcome where
  rolledBack : Nat
  applied : Nat
deriving DecidableEq, Repr

namespace SyncOutcome

def changed (o : SyncOutcome) : Bool := 0 < o.rolledBack || 0 < o.applied

end SyncOutcome

/-- What stays the same while a chain is followed. -/
structure FollowerConfig (σ : Type) where
  source : Source σ
  retry : Retry
  network : String
  /-- The wait from one round to the next. -/
  intervalMs : Nat
  /-- Whether snapshots are kept, and the time they are stamped with. -/
  saves : Option String

/-- What changes while a chain is followed. -/
structure Follower (σ : Type) where
  engine : Engine
  file : StoredFile
  sourceState : σ
  clockMs : Nat
  /-- The moment at which the follower is stopped, if there is one. -/
  stopMs : Option Nat

/-- A step of a round. -/
abbrev Sync (σ : Type) := Attempt (Follower σ) Halt

namespace Sync

variable {σ : Type}

def fail (error : SyncError) : Sync σ α := Attempt.fail (.failed error)

def engine : Sync σ Engine := fun f => (.ok f.engine, f)

def setEngine (engine : Engine) : Sync σ Unit := Attempt.modify fun f => { f with engine }

/-- Let time pass; a follower whose moment has passed stops. -/
def pause (ms : Nat) : Sync σ Unit := fun f =>
  let now := f.clockMs + ms
  match f.stopMs with
  | some stop =>
      if stop < now then (.error .stopped, { f with clockMs := stop })
      else (.ok (), { f with clockMs := now })
  | none => (.ok (), { f with clockMs := now })

/-- Put one question to the source. -/
def askOnce (question : Attempt σ SourceError α) : Sync σ α := fun f =>
  match question f.sourceState with
  | (.ok value, after) => (.ok value, { f with sourceState := after })
  | (.error error, after) => (.error (.failed (.source error)), { f with sourceState := after })

def describeHalt : Halt → String
  | .failed (.source error) => error.message
  | .failed error => error.message
  | .stopped => ""

def surroundings : Retry.Surroundings (Follower σ) Halt where
  describe := describeHalt
  pause := pause
  report := fun _ => pure ()

/-- Put a question to the source until it is answered or the tries are used up. -/
def ask (config : FollowerConfig σ) (name : String) (question : Attempt σ SourceError α) :
    Sync σ α :=
  config.retry.run ⟨config.network, name⟩ surroundings (askOnce question)

def sourceHeight (config : FollowerConfig σ) : Sync σ Nat :=
  ask config "Get block count" config.source.blockCount

def sourceHash (config : FollowerConfig σ) (height : Nat) : Sync σ String :=
  ask config s!"Get block hash {height}" (config.source.blockHash height)

def sourceBlock (config : FollowerConfig σ) (height : Nat) : Sync σ Block :=
  ask config s!"Get block {height}" (config.source.block height)

def tooDeep (height : Nat) : SyncError :=
  .engine (.reorgInconsistency
    s!"fork below block {height} is deeper than the retained undo history")

def genesisDiffers (height : Nat) : SyncError :=
  .engine (.reorgInconsistency s!"genesis block {height} is not part of the source chain")

/-- Whether the source has the block that the engine applied at a height. -/
def agreesAt (config : FollowerConfig σ) (height : Nat) : Sync σ Bool := do
  match (← engine).blockHashAt? height with
  | none => fail (tooDeep height)
  | some hash => return (← sourceHash config height) = hash

/-- The highest block from a height down that engine and source have in common. -/
def ancestorFrom (config : FollowerConfig σ) : Nat → Sync σ Nat
  | 0 => do
      if ← agreesAt config 0 then return 0
      fail (genesisDiffers 0)
  | below + 1 => do
      if ← agreesAt config (below + 1) then return below + 1
      if below + 1 ≤ (← engine).rules.params.genesisBlock then fail (genesisDiffers (below + 1))
      else ancestorFrom config below

/-- Undo the blocks above a height. -/
def rollback (height : Nat) : Sync σ Unit := do
  match (← engine).rollbackTo height with
  | (.ok _, after) => setEngine after
  | (.error error, after) => do
      setEngine after
      fail (.engine error)

/-- Leave any branch that the source left; answers how many blocks were undone. -/
def reconcile (config : FollowerConfig σ) (sourceHeight : Nat) : Sync σ Nat := do
  match (← engine).tip with
  | none => return 0
  | some tip => do
      let ancestor ← ancestorFrom config (min tip.height sourceHeight)
      if ancestor = tip.height then return 0
      rollback ancestor
      return tip.height - ancestor

/-- Save the engine's snapshot, if snapshots are kept. -/
def persist (config : FollowerConfig σ) : Sync σ Unit := fun f =>
  match config.saves with
  | none => (.ok (), f)
  | some savedAt =>
      match f.file.save config.network savedAt f.engine.snapshot with
      | .ok file => (.ok (), { f with file })
      | .error error => (.error (.failed (.store error)), f)

def persistIfChanged (config : FollowerConfig σ) (outcome : SyncOutcome) : Sync σ Unit :=
  if outcome.changed then persist config else return ()

/-- Fetch a block and apply it.  A block that does not fit on the tip is no failure: the source
has moved, and the next round will go back first. -/
def applyNext (config : FollowerConfig σ) (height : Nat) : Sync σ Bool := do
  let block ← sourceBlock config height
  match (← engine).applyBlock block with
  | .ok (after, _) => do
      setEngine after
      return true
  | .error (.parentMismatch ..) => return false
  | .error error => fail (.engine error)

/-- Apply a number of blocks from a height on; what was applied is saved before a failure is
passed on. -/
def applyFrom (config : FollowerConfig σ) (outcome : SyncOutcome) (height : Nat) :
    Nat → Sync σ SyncOutcome
  | 0 => return outcome
  | count + 1 => fun f =>
      match applyNext config height f with
      | (.ok true, after) =>
          applyFrom config { outcome with applied := outcome.applied + 1 } (height + 1) count after
      | (.ok false, after) => (.ok outcome, after)
      | (.error .stopped, after) => (.error .stopped, after)
      | (.error (.failed error), after) =>
          (do
            persistIfChanged config outcome
            fail error) after

/-- One round. -/
def once (config : FollowerConfig σ) : Sync σ SyncOutcome := do
  let sourceHeight ← sourceHeight config
  let rolledBack ← reconcile config sourceHeight
  let next := (← engine).nextHeight
  let outcome ← applyFrom config ⟨rolledBack, 0⟩ next (sourceHeight + 1 - next)
  persistIfChanged config outcome
  return outcome

/-- Round after round, at most as many as the last argument says.  Only a state that can no
longer follow the chain ends this with a failure. -/
def rounds (config : FollowerConfig σ) : Nat → Sync σ Unit
  | 0 => return ()
  | count + 1 => fun f =>
      match once config f with
      | (.error .stopped, after) => (.error .stopped, after)
      | (.error (.failed (.engine (.reorgInconsistency text))), after) =>
          (.error (.failed (.engine (.reorgInconsistency text))), after)
      | (_, after) =>
          (do
            pause config.intervalMs
            rounds config count) after

end Sync

namespace Follower

variable {σ : Type}

/-- Follow for some time; answers the failure that ended it early, if there was one.  Rounds are
at least a millisecond apart. -/
def followFor (config : FollowerConfig σ) (ms : Nat) (f : Follower σ) :
    Option SyncError × Follower σ :=
  match Sync.rounds config (ms + 1) { f with clockMs := 0, stopMs := some ms } with
  | (.error (.failed error), after) => (some error, { after with stopMs := none })
  | (_, after) => (none, { after with stopMs := none })

end Follower
end TokenOverlay
