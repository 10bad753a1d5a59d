import Mathlib.Data.List.Flatten
import TokenOverlay.Proofs.Following
import TokenOverlay.Proofs.Replay

namespace TokenOverlay

/-!
A round leads to the chain of the source.  The search for the common block
finds the highest one, because above it the hashes differ and down to it the
engine still knows its own; the rollback leaves the part that both chains share,
and the blocks that follow complete the other chain.
-/

open Block (Linked confirmed since)

namespace Block

/-- Two chains have blocks with the same hash at a height. -/
def CommonAt (mine theirs : List Block) (height : Nat) : Prop :=
  ∃ own ∈ mine, ∃ other ∈ theirs,
    own.height = height ∧ other.height = height ∧ own.hash = other.hash

def HighestCommon (mine theirs : List Block) (height : Nat) : Prop :=
  CommonAt mine theirs height ∧ ∀ higher, CommonAt mine theirs higher → higher ≤ height

/-- Chains that have parted do not meet again: where they have a hash in common, they have the
same blocks from the first height up to there. -/
def PartForGood (first : Nat) (mine theirs : List Block) : Prop :=
  ∀ height, CommonAt mine theirs height →
    (mine.filter fun block => block.height ≤ height) =
      (since first theirs).filter fun block => block.height ≤ height

variable {first start height : Nat} {mine theirs : List Block}

/-- Above the highest common height the hashes differ, as far as both chains reach. -/
theorem HighestCommon.differ (highest : HighestCommon mine theirs height)
    (linkedMine : Linked first mine) (linkedTheirs : Linked start theirs) {h : Nat}
    (above : height < h) (inMine : h < first + mine.length)
    (inTheirs : h < start + theirs.length) :
    ∃ own ∈ mine, ∃ other ∈ theirs, own.height = h ∧ other.height = h ∧
      other.hash ≠ own.hash := by
  rcases highest with ⟨⟨own, memberOwn, other, memberOther, atOwn, atOther, _⟩, highest⟩
  have low := linkedMine.le_height memberOwn
  have lowOther := linkedTheirs.le_height memberOther
  have atLeft : ∃ left ∈ mine, left.height = h := linkedMine.exists_height (by omega) inMine
  have atRight : ∃ right ∈ theirs, right.height = h :=
    linkedTheirs.exists_height (by omega) inTheirs
  rcases atLeft with ⟨left, memberLeft, here⟩
  rcases atRight with ⟨right, memberRight, there⟩
  refine ⟨left, memberLeft, right, memberRight, here, there, ?_⟩
  intro equal
  have bound := highest h ⟨left, memberLeft, right, memberRight, here, there, equal.symm⟩
  exact absurd above (Nat.not_lt.mpr bound)

namespace PartForGood

/-- A chain that has a block in common with another one begins no later than that. -/
theorem first_le (part : PartForGood first mine theirs) (common : CommonAt mine theirs height)
    (linkedMine : Linked first mine) (linkedTheirs : Linked start theirs) : start ≤ first := by
  have shared := part height common
  rcases common with ⟨own, memberOwn, _, _, rfl, _, _⟩
  have low := linkedMine.le_height memberOwn
  have oldest : ∃ block ∈ mine, block.height = first := linkedMine.exists_height (Nat.le_refl _)
    (Nat.lt_of_le_of_lt low (linkedMine.height_lt memberOwn))
  rcases oldest with ⟨block, member, rfl⟩
  have listed : block ∈ mine.filter fun block => block.height ≤ own.height :=
    List.mem_filter.mpr ⟨member, decide_eq_true low⟩
  rw [shared] at listed
  exact linkedTheirs.le_height (List.mem_of_mem_filter (List.mem_of_mem_filter listed))

/-- The blocks above a common height complete the common part. -/
theorem completed (part : PartForGood first mine theirs) (common : CommonAt mine theirs height)
    (linkedMine : Linked first mine) (linkedTheirs : Linked start theirs) :
    (since (height + 1) (since first theirs) ++
      mine.filter fun block => block.height ≤ height) = since first theirs := by
  rw [part height common]
  exact (linkedTheirs.linked_since
    (part.first_le common linkedMine linkedTheirs)).since_append_filter height

/-- Chains part for good if among their blocks a hash names its block: a common block then names
the common one below it, and so on down. -/
theorem of_named (linkedMine : Linked first mine) (linkedTheirs : Linked start theirs)
    (early : start ≤ first)
    (named : ∀ own ∈ mine, ∀ other ∈ theirs, own.hash = other.hash → own = other) :
    PartForGood first mine theirs := by
  rintro height ⟨own, memberOwn, other, memberOther, rfl, _, hash⟩
  have same := named own memberOwn other memberOther hash
  subst same
  have listed : own ∈ since first theirs :=
    List.mem_filter.mpr ⟨memberOther, decide_eq_true (linkedMine.le_height memberOwn)⟩
  have linkedSince := linkedTheirs.linked_since early
  have within : since first theirs ⊆ theirs := List.filter_sublist.subset
  rcases List.append_of_mem memberOwn with ⟨newer, older, rfl⟩
  rcases List.append_of_mem listed with ⟨others, rest, split⟩
  rw [split] at linkedSince within ⊢
  rw [linkedMine.filter_append, linkedSince.filter_append]
  refine congrArg (own :: ·) (linkedMine.of_append.eq_of_named linkedSince.of_append ?_)
  intro own member other below
  exact named own (by simp [member]) other (within (by simp [below]))

end PartForGood
end Block

open Block (CommonAt HighestCommon PartForGood)

namespace Sync

open Source (Answers)
open Follower (Ready On)

variable {σ : Type} {config : FollowerConfig σ} {steady : σ → Prop} {file : StoredFile}
  {f : Follower σ} {rules : Rules} {invariant : Engine.Invariant rules} {mine : List Block}

/-! ## The round without the save -/

/-- The round goes back to the highest common block, if the engine still can. -/
theorem reconcile_gives {first floor common : Nat} {tip : Tip} {newest : Block}
    {older : List Block} (on : f.On steady file invariant mine)
    (retains : f.engine.Retains mine floor)
    (serves : config.source.Serves (newest :: older) steady)
    (linked : Linked first (newest :: older)) (atTip : f.engine.tip = some tip)
    (highest : HighestCommon mine (newest :: older) common)
    (kept : common = tip.height ∨ floor ≤ common) :
    (reconcile config newest.height).Gives (tip.height - common)
      (On steady file invariant (mine.filter fun block => block.height ≤ common)) f := by
  have follows := on.follows
  rcases highest.1 with ⟨own, memberOwn, other, memberOther, rfl, atOther, hash⟩
  have next := Engine.nextHeight_of_some atTip
  have top : rules.params.genesisBlock + mine.length = tip.height + 1 :=
    follows.nextHeight_eq.symm.trans next
  have sourceTop : first + (newest :: older).length = newest.height + 1 := by
    rw [linked.1, List.length_cons]
    rfl
  -- From the common height up the engine knows the hashes of its blocks: either that is the tip
  -- already, or no height from there on is below the floor.
  have ownLow := follows.linked.height_lt memberOwn
  have otherLow := linked.height_lt memberOther
  have known := retains.blockHashAt?_eq follows memberOwn (by omega)
  have shared : Answers steady (config.source.blockHash own.height) own.hash := by
    rw [← atOther, hash]
    exact serves.blockHash other memberOther
  have differs : ∀ h, own.height < h → h ≤ min tip.height newest.height → ∃ mine theirs,
      f.engine.blockHashAt? h = some mine ∧
        Answers steady (config.source.blockHash h) theirs ∧ theirs ≠ mine := by
    intro h above below
    rcases highest.differ follows.linked linked above (by omega) (by omega) with
      ⟨left, memberLeft, right, memberRight, rfl, there, differ⟩
    refine ⟨left.hash, right.hash, retains.blockHashAt?_eq follows memberLeft (by omega), ?_,
      differ⟩
    rw [← there]
    exact serves.blockHash right memberRight
  unfold reconcile
  refine (engine_gives on.ready).bind ?_
  intro g ready
  rw [atTip]
  refine (ancestorFrom_gives (by
    rw [follows.sameRules]
    exact follows.linked.le_height memberOwn) known shared (by omega) differs ready).bind ?_
  intro g ready
  by_cases here : own.height = tip.height
  · rw [if_pos here, here, Nat.sub_self, follows.linked.filter_eq_self (Nat.le_of_eq top)]
    exact Attempt.gives_pure (ready.on follows)
  · rw [if_neg here]
    have same := ready.engine
    rw [← same] at retains
    refine (rollback_gives (ready.on follows) retains (by omega)).bind ?_
    intro g on
    exact Attempt.gives_pure on

/-- Without a tip there is nothing to go back from. -/
theorem reconcile_gives_of_empty (height : Nat) (on : f.On steady file invariant []) :
    (reconcile config height).Gives 0 (On steady file invariant []) f := by
  have noTip : f.engine.tip = none := on.follows.tip
  unfold reconcile
  refine (engine_gives on.ready).bind ?_
  intro g ready
  rw [noTip]
  exact Attempt.gives_pure (ready.on on.follows)

/-- The round up to the save: what is shared is left, and what follows is applied. -/
theorem once_eq {engine : Engine} {top rolledBack : Nat} {shared newer : List Block}
    (count : Answers steady config.source.blockCount top) (ready : f.Ready steady file engine)
    (reconciled : ∀ g, g.Ready steady file engine →
      (reconcile config top).Gives rolledBack (On steady file invariant shared) g)
    (linked : Linked rules.params.genesisBlock (newer ++ shared))
    (length : newer.length = top + 1 - (rules.params.genesisBlock + shared.length))
    (answers : ∀ block ∈ newer, Answers steady (config.source.block block.height) block)
    (allowed : ∀ chain, chain <:+ newer ++ shared → invariant.allowed chain) :
    ∃ after, after.On steady file invariant (newer ++ shared) ∧
      once config f = (do
        persistIfChanged config ⟨rolledBack, newer.length⟩
        return ⟨rolledBack, newer.length⟩ : Sync σ SyncOutcome) after := by
  have counting : (sourceHeight config).Gives top (Ready steady file engine) f :=
    ask_gives _ count ready
  rcases counting with ⟨g, counted, ready⟩
  rcases reconciled g ready with ⟨back, wentBack, on⟩
  have applied : (applyFrom config ⟨rolledBack, 0⟩ back.engine.nextHeight newer.length).Gives
      ⟨rolledBack, 0 + newer.length⟩ (On steady file invariant (newer ++ shared)) back :=
    applyFrom_gives on linked answers allowed
  rcases applied with ⟨after, wentOn, onAfter⟩
  have missing : top + 1 - back.engine.nextHeight = newer.length := by
    rw [length, on.follows.nextHeight_eq]
  refine ⟨after, onAfter, ?_⟩
  rw [Nat.zero_add] at wentOn
  simp only [once, Attempt.bind_run, counted, wentBack, Sync.engine, missing, wentOn]

/-! ## The save -/

/-- Only a directory in the place of the file keeps a snapshot from being saved. -/
theorem persistIfChanged_cases (config : FollowerConfig σ) (outcome : SyncOutcome)
    (f : Follower σ) :
    (∃ file, persistIfChanged config outcome f = (.ok (), { f with file })) ∨
    config.saves ≠ none ∧ f.file = .directory ∧
      ∃ error, persistIfChanged config outcome f = (.error (.failed (.store error)), f) := by
  unfold persistIfChanged
  split
  · unfold persist
    cases saves : config.saves with
    | none => exact Or.inl ⟨f.file, rfl⟩
    | some savedAt =>
        cases saved : f.file.save config.network savedAt f.engine.snapshot with
        | ok file => exact Or.inl ⟨file, by simp only [saved]⟩
        | error error =>
            refine Or.inr ⟨Option.some_ne_none savedAt, ?_, error, by simp only [saved]⟩
            cases place : f.file with
            | directory => rfl
            | absent => rw [place] at saved; cases saved
            | text content => rw [place] at saved; cases saved
  · exact Or.inl ⟨f.file, rfl⟩

end Sync

/-! ## The whole round -/

/-- The next round ends on a chain, given newest first.  It answers its outcome unless the
snapshot cannot be saved, and in either case the engine has the state and the tip of a fresh
engine that applied the chain. -/
structure Follower.Converges {σ : Type} (config : FollowerConfig σ) (f : Follower σ)
    (rules : Rules) (chain : List Block) (outcome : SyncOutcome) : Prop where
  answer : config.saves = none ∨ f.file ≠ .directory → (Sync.once config f).1 = .ok outcome
  unsaved : (Sync.once config f).1 = .ok outcome ∨
    ∃ error, (Sync.once config f).1 = .error (.failed (.store error))
  engine : ∃ again, Engine.replay rules chain.reverse = .ok again ∧
    (Sync.once config f).2.engine.state = again.state ∧
    (Sync.once config f).2.engine.tip = again.tip

namespace Sync

open Source (Answers)
open Follower (On)

variable {σ : Type} {config : FollowerConfig σ} {steady : σ → Prop} {f after : Follower σ}
  {rules : Rules} {chain : List Block} {outcome : SyncOutcome}

/-- The save at the end changes neither the outcome nor the engine. -/
theorem converges_of_on (on : after.On steady f.file (Engine.replayInvariant rules) chain)
    (run : once config f = (do
      persistIfChanged config outcome
      return outcome : Sync σ SyncOutcome) after) : f.Converges config rules chain outcome := by
  have replayed := on.follows.replayed
  have place := on.ready.file
  rw [Attempt.bind_run] at run
  rcases persistIfChanged_cases config outcome after with
    ⟨file, saved⟩ | ⟨saves, directory, error, refused⟩
  · rw [saved] at run
    constructor
    · intro _
      rw [run]
      rfl
    · rw [run]
      exact Or.inl rfl
    · rw [run]
      exact replayed
  · rw [refused] at run
    constructor
    · rintro (never | other)
      · exact absurd never saves
      · exact absurd (place.symm.trans directory) other
    · rw [run]
      exact Or.inr ⟨error, rfl⟩
    · rw [run]
      exact replayed

section

variable {first : Nat} {newest : Block} {older mine : List Block}

/-- Once the engine is back on the chain of the source, the round completes that chain. -/
theorem converges_of_reconciled {rolledBack : Nat} {shared newer : List Block}
    (ready : steady f.sourceState) (serves : config.source.Serves (newest :: older) steady)
    (linked : Linked first (newest :: older)) (early : first ≤ rules.params.genesisBlock)
    (different : (confirmed (newest :: older)).Nodup)
    (reconciled : ∀ g, g.Ready steady f.file f.engine → (reconcile config newest.height).Gives
      rolledBack (On steady f.file (Engine.replayInvariant rules) shared) g)
    (split : newer ++ shared = since rules.params.genesisBlock (newest :: older)) :
    f.Converges config rules (since rules.params.genesisBlock (newest :: older))
      ⟨rolledBack, newest.height + 1 - (rules.params.genesisBlock + shared.length)⟩ := by
  have whole : (since rules.params.genesisBlock (newest :: older)).Sublist (newest :: older) :=
    List.filter_sublist
  have length : newer.length =
      newest.height + 1 - (rules.params.genesisBlock + shared.length) := by
    have total := linked.length_since early
    rw [← split, List.length_append, List.length_cons] at total
    have top := linked.1
    omega
  have target := linked.linked_since early
  rw [← split] at target
  have answers : ∀ block ∈ newer,
      Answers steady (config.source.block block.height) block := by
    intro block member
    have listed : block ∈ newer ++ shared := List.mem_append_left shared member
    rw [split] at listed
    exact serves.block block (whole.subset listed)
  have allowed : ∀ chain, chain <:+ newer ++ shared → (confirmed chain).Nodup := by
    intro chain suffix
    rw [split] at suffix
    exact different.sublist ((suffix.sublist.trans whole).flatMap _)
  rcases once_eq (serves.blockCount newest rfl) ⟨ready, rfl, rfl⟩ reconciled target length answers
    allowed with ⟨after, on, run⟩
  rw [← split, ← length]
  exact converges_of_on on run

/-- A round beside a source whose chain has a block in common that the engine can go back to. -/
theorem converges_of_common {floor common : Nat} {tip : Tip}
    (on : f.On steady f.file (Engine.replayInvariant rules) mine)
    (retains : f.engine.Retains mine floor)
    (serves : config.source.Serves (newest :: older) steady)
    (linked : Linked first (newest :: older))
    (different : (confirmed (newest :: older)).Nodup)
    (part : PartForGood rules.params.genesisBlock mine (newest :: older))
    (atTip : f.engine.tip = some tip) (highest : HighestCommon mine (newest :: older) common)
    (kept : common = tip.height ∨ floor ≤ common) :
    f.Converges config rules (since rules.params.genesisBlock (newest :: older))
      ⟨tip.height - common, newest.height - common⟩ := by
  have early := part.first_le highest.1 on.follows.linked linked
  have split := part.completed highest.1 on.follows.linked linked
  have count : newest.height + 1 - (rules.params.genesisBlock +
      (mine.filter fun block => block.height ≤ common).length) = newest.height - common := by
    rcases highest.1 with ⟨own, memberOwn, other, memberOther, rfl, same, _⟩
    have low := on.follows.linked.le_height memberOwn
    have high := linked.height_lt memberOther
    have top := linked.1
    rw [part own.height highest.1, (linked.linked_since early).length_filter,
      linked.length_since early, List.length_cons]
    rw [List.length_cons] at high
    omega
  rw [← count]
  refine converges_of_reconciled on.ready.steady serves linked early different ?_ split
  intro g ready
  have onG := ready.on on.follows
  have same := ready.engine
  rw [← same] at retains atTip
  exact reconcile_gives onG retains serves linked atTip highest kept

/-- A round that starts without a tip. -/
theorem converges_of_empty (on : f.On steady f.file (Engine.replayInvariant rules) [])
    (serves : config.source.Serves (newest :: older) steady)
    (linked : Linked first (newest :: older)) (early : first ≤ rules.params.genesisBlock)
    (different : (confirmed (newest :: older)).Nodup) :
    f.Converges config rules (since rules.params.genesisBlock (newest :: older))
      ⟨0, newest.height + 1 - rules.params.genesisBlock⟩ :=
  converges_of_reconciled on.ready.steady serves linked early different
    (fun _ ready => reconcile_gives_of_empty newest.height (ready.on on.follows))
    (List.append_nil _)

end

end Sync

namespace Session

variable {σ : Type} {config : FollowerConfig σ} {steady : σ → Prop} {f : Follower σ}

section

variable {rules : Rules} {calls : List Call} {first : Nat} {newest : Block} {older : List Block}

/-- A follower whose engine has seen some calls is on the chain that they lead to. -/
theorem on_of_run (once : ConfirmedOnce rules calls) (engine : f.engine = (run rules calls).engine)
    (ready : steady f.sourceState) :
    f.On steady f.file (Engine.replayInvariant rules) (run rules calls).active := by
  have follows := run_follows (Engine.replayInvariant rules) calls once
  rw [← engine] at follows
  exact ⟨⟨ready, rfl, rfl⟩, follows⟩

theorem converges_of_tip (once : ConfirmedOnce rules calls)
    (engine : f.engine = (run rules calls).engine)
    (serves : config.source.Serves (newest :: older) steady) (ready : steady f.sourceState)
    (linked : Linked first (newest :: older)) (different : (confirmed (newest :: older)).Nodup)
    (part : PartForGood rules.params.genesisBlock (run rules calls).active (newest :: older))
    {tip : Tip} {common : Nat} (atTip : f.engine.tip = some tip)
    (highest : HighestCommon (run rules calls).active (newest :: older) common)
    (known : common = tip.height ∨ (f.engine.undoChain.get? common).isSome) :
    f.Converges config rules (since rules.params.genesisBlock (newest :: older))
      ⟨tip.height - common, newest.height - common⟩ := by
  have on := on_of_run once engine ready
  rcases run_retains rules calls with ⟨floor, retains⟩
  rw [← engine] at retains
  have kept : common = tip.height ∨ floor ≤ common :=
    known.imp id fun present => ((retains.kept common).mp present).1
  exact Sync.converges_of_common on retains serves linked different part atTip highest kept

theorem converges_of_no_tip (once : ConfirmedOnce rules calls)
    (engine : f.engine = (run rules calls).engine)
    (serves : config.source.Serves (newest :: older) steady) (ready : steady f.sourceState)
    (linked : Linked first (newest :: older)) (different : (confirmed (newest :: older)).Nodup)
    (noTip : f.engine.tip = none) (early : first ≤ rules.params.genesisBlock) :
    f.Converges config rules (since rules.params.genesisBlock (newest :: older))
      ⟨0, newest.height + 1 - rules.params.genesisBlock⟩ := by
  have on := on_of_run once engine ready
  have empty : (run rules calls).active = [] := by
    rw [on.follows.tip] at noTip
    exact List.head?_eq_none_iff.mp (Option.map_eq_none_iff.mp noTip)
  rw [empty] at on
  exact Sync.converges_of_empty on serves linked early different

end

/-- A follower whose engine has seen any blocks and rollbacks asks a steady source that has
another chain.  Unless the chains parted at a block that the engine can no longer go back to, one
round takes back the blocks above the highest common one and applies those that follow it on the
chain of the source; without a tip it applies them all, from the genesis block on. -/
theorem once_converges (rules : Rules) (calls : List Call) (once : ConfirmedOnce rules calls)
    {first : Nat} {newest : Block} {older : List Block}
    (engine : f.engine = (run rules calls).engine)
    (serves : config.source.Serves (newest :: older) steady) (ready : steady f.sourceState)
    (linked : Linked first (newest :: older)) (different : (confirmed (newest :: older)).Nodup)
    (part : PartForGood rules.params.genesisBlock (run rules calls).active (newest :: older)) :
    (∀ tip common, f.engine.tip = some tip →
      HighestCommon (run rules calls).active (newest :: older) common →
      common = tip.height ∨ (f.engine.undoChain.get? common).isSome →
      f.Converges config rules (since rules.params.genesisBlock (newest :: older))
        ⟨tip.height - common, newest.height - common⟩) ∧
    (f.engine.tip = none → first ≤ rules.params.genesisBlock →
      f.Converges config rules (since rules.params.genesisBlock (newest :: older))
        ⟨0, newest.height + 1 - rules.params.genesisBlock⟩) :=
  ⟨fun _ _ => converges_of_tip once engine serves ready linked different part,
    converges_of_no_tip once engine serves ready linked different⟩

/-- The chain that overtakes the one of `reorganization` above their first block. -/
def overtaking : LocalChain where
  genesis := ⟨0, "x", "", 0, []⟩
  above := [
    ⟨2, "v", "w", 3, [⟨"t", "a", none, Message.encode (Payload.sendToOwners 1 4 none).toMessage⟩]⟩,
    ⟨1, "w", "x", 2, []⟩]
  pool := []
  sequence := 0

def overtaken : FollowerConfig LocalChain where
  source := LocalChain.source
  retry := .standard
  network := "regtest"
  intervalMs := 1000
  saves := some "2024-01-01T00:00:00Z"

/-- A follower after some calls, beside the chain that overtakes. -/
def behind (calls : List Call) : Follower LocalChain where
  engine := (run twoOwners calls).engine
  file := .absent
  sourceState := overtaking
  clockMs := 0
  stopMs := none

theorem once_converges_overtaken :
    ConfirmedOnce twoOwners reorganization ∧
    (behind reorganization).Converges overtaken twoOwners (since 0 overtaking.descending)
      ⟨1, 2⟩ ∧
    (behind []).Converges overtaken twoOwners (since 0 overtaking.descending) ⟨0, 3⟩ := by
  have once : ConfirmedOnce twoOwners reorganization := by decide +kernel
  have never : ConfirmedOnce twoOwners [] := by decide +kernel
  have serves : overtaken.source.Serves overtaking.descending fun state => state = overtaking :=
    LocalChain.source_serves (by decide +kernel)
  have linked : Linked 0 overtaking.descending := by
    refine ⟨rfl, ?_, rfl, ?_, rfl, ?_, trivial⟩
    · intro parent next
      cases next
      rfl
    · intro parent next
      cases next
      rfl
    · intro parent missing
      cases missing
  have different : (confirmed overtaking.descending).Nodup := by decide +kernel
  have meets : ∀ own ∈ (run twoOwners reorganization).active, ∀ other ∈ overtaking.descending,
      own.height = other.height → own.hash = other.hash → own.height = 0 := by decide +kernel
  have lowest : ∀ height, CommonAt (run twoOwners reorganization).active overtaking.descending
      height → height = 0 := by
    rintro height ⟨own, memberOwn, other, memberOther, rfl, same, hash⟩
    exact meets own memberOwn other memberOther same.symm hash
  have below : ((run twoOwners reorganization).active.filter fun block => block.height ≤ 0) =
      (since twoOwners.params.genesisBlock overtaking.descending).filter
        fun block => block.height ≤ 0 := by decide +kernel
  have part : PartForGood twoOwners.params.genesisBlock (run twoOwners reorganization).active
      overtaking.descending := by
    intro height common
    rw [lowest height common]
    exact below
  have shared : CommonAt (run twoOwners reorganization).active overtaking.descending 0 :=
    ⟨overtaking.genesis, by decide +kernel, overtaking.genesis, by decide +kernel, rfl, rfl, rfl⟩
  have tip : (behind reorganization).engine.tip = some ⟨1, "z"⟩ := by decide +kernel
  have retained : ((behind reorganization).engine.undoChain.get? 0).isSome := by decide +kernel
  refine ⟨once, ?_, ?_⟩
  · exact (once_converges twoOwners reorganization once rfl serves rfl linked different part).1
      ⟨1, "z"⟩ 0 tip ⟨shared, fun higher common => Nat.le_of_eq (lowest higher common)⟩
      (Or.inr retained)
  · have apart : PartForGood twoOwners.params.genesisBlock (run twoOwners []).active
        overtaking.descending := by
      rintro height ⟨own, member, _⟩
      cases member
    exact (once_converges twoOwners [] never rfl serves rfl linked different apart).2 rfl
      (Nat.le_refl 0)

end Session
end TokenOverlay
