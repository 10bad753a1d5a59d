import TokenOverlay.Chain.Local
import TokenOverlay.Follower
import TokenOverlay.Proofs.Attempt
import TokenOverlay.Proofs.Retention

namespace TokenOverlay

/-!
One round beside a source that keeps to one chain.  Every step of the round is
described by what it answers and by the engine it leaves behind; the saved file
is not touched before the round is over, and the source stays steady.
-/

open Block (Linked since)

namespace Source

variable {σ α : Type}

/-- While the source is steady it has one answer to the question. -/
def Answers (steady : σ → Prop) (question : Attempt σ SourceError α) (value : α) : Prop :=
  ∀ state, steady state → question.Gives value steady state

/-- While it is steady the source answers out of one chain, given newest first. -/
structure Serves (source : Source σ) (chain : List Block) (steady : σ → Prop) : Prop where
  blockCount : ∀ newest, chain.head? = some newest →
    Answers steady source.blockCount newest.height
  blockHash : ∀ block ∈ chain, Answers steady (source.blockHash block.height) block.hash
  block : ∀ block ∈ chain, Answers steady (source.block block.height) block

end Source

namespace LocalChain

/-- The blocks, newest first. -/
def descending (chain : LocalChain) : List Block := chain.above ++ [chain.genesis]

/-- A chain inside the process whose blocks are filed by height answers out of itself. -/
theorem source_serves {chain : LocalChain}
    (filed : ∀ block ∈ chain.descending, chain.block? block.height = .ok block) :
    source.Serves chain.descending fun state => state = chain where
  blockCount := by
    rintro newest first state rfl
    refine ⟨state, ?_, rfl⟩
    have tip : newest = state.tip := by
      unfold descending at first
      unfold LocalChain.tip
      cases above : state.above with
      | nil => rw [above] at first; cases first; rfl
      | cons block rest => rw [above] at first; cases first; rfl
    rw [tip]
    rfl
  blockHash := by
    rintro block member state rfl
    refine ⟨state, ?_, rfl⟩
    simp only [source, filed block member]
    rfl
  block := by
    rintro block member state rfl
    refine ⟨state, ?_, rfl⟩
    simp only [source, filed block member]

end LocalChain

namespace Follower

variable {σ : Type}

/-- The follower has this engine and this file, and its source is steady. -/
structure Ready (steady : σ → Prop) (file : StoredFile) (engine : Engine)
    (f : Follower σ) : Prop where
  steady : steady f.sourceState
  file : f.file = file
  engine : f.engine = engine

/-- The follower has this file, its source is steady, and its engine follows a chain. -/
structure On {rules : Rules} (steady : σ → Prop) (file : StoredFile)
    (invariant : Engine.Invariant rules) (chain : List Block) (f : Follower σ) : Prop where
  ready : f.Ready steady file f.engine
  follows : Engine.Follows invariant f.engine chain

theorem Ready.on {rules : Rules} {steady : σ → Prop} {file : StoredFile} {engine : Engine}
    {invariant : Engine.Invariant rules} {chain : List Block} {f : Follower σ}
    (ready : f.Ready steady file engine) (follows : Engine.Follows invariant engine chain) :
    f.On steady file invariant chain := by
  rcases ready with ⟨steady, file, rfl⟩
  exact ⟨⟨steady, file, rfl⟩, follows⟩

end Follower

namespace Sync

open Source (Answers)
open Follower (Ready On)

variable {σ α : Type} {config : FollowerConfig σ} {steady : σ → Prop} {file : StoredFile}
  {engine : Engine} {f : Follower σ} {height : Nat}

/-! ## Questions -/

/-- A steady source answers at the first try. -/
theorem ask_gives {question : Attempt σ SourceError α} {value : α} (name : String)
    (answers : Answers steady question value) (ready : f.Ready steady file engine) :
    (ask config name question).Gives value (Ready steady file engine) f := by
  rcases answers f.sourceState ready.steady with ⟨state, answered, still⟩
  refine ⟨{ f with sourceState := state }, ?_, ⟨still, ready.file, ready.engine⟩⟩
  unfold ask Retry.run Retry.tryFrom
  simp only [askOnce, answered]
  rfl

theorem engine_gives (ready : f.Ready steady file engine) :
    Sync.engine.Gives engine (Ready steady file engine) f :=
  ⟨f, by rw [Sync.engine, ready.engine], ready⟩

theorem setEngine_gives (after : Engine) (ready : f.Ready steady file engine) :
    (setEngine after).Gives () (Ready steady file after) f :=
  ⟨{ f with engine := after }, rfl, ⟨ready.steady, ready.file, rfl⟩⟩

/-! ## Going back -/

theorem agreesAt_gives {own other : String} (known : engine.blockHashAt? height = some own)
    (answers : Answers steady (config.source.blockHash height) other)
    (ready : f.Ready steady file engine) :
    (agreesAt config height).Gives (decide (other = own)) (Ready steady file engine) f := by
  unfold agreesAt
  refine (engine_gives ready).bind ?_
  intro g ready
  rw [known]
  exact (ask_gives _ answers ready).bind fun _ ready => Attempt.gives_pure ready

/-- The search for the common block passes the heights at which the hashes differ. -/
theorem ancestorFrom_gives {common : Nat} (late : engine.rules.params.genesisBlock ≤ common)
    {hash : String} (known : engine.blockHashAt? common = some hash)
    (shared : Answers steady (config.source.blockHash common) hash) (le : common ≤ height)
    (differs : ∀ h, common < h → h ≤ height → ∃ own other,
      engine.blockHashAt? h = some own ∧ Answers steady (config.source.blockHash h) other ∧
        other ≠ own)
    (ready : f.Ready steady file engine) :
    (ancestorFrom config height).Gives common (Ready steady file engine) f := by
  induction height generalizing f with
  | zero =>
      have here : common = 0 := Nat.le_zero.mp le
      subst here
      unfold ancestorFrom
      refine (agreesAt_gives known shared ready).bind ?_
      intro g ready
      rw [decide_eq_true rfl]
      exact Attempt.gives_pure ready
  | succ below ih =>
      unfold ancestorFrom
      by_cases here : common = below + 1
      · subst here
        refine (agreesAt_gives known shared ready).bind ?_
        intro g ready
        rw [decide_eq_true rfl]
        exact Attempt.gives_pure ready
      · have above : common < below + 1 := Nat.lt_of_le_of_ne le here
        rcases differs (below + 1) above (Nat.le_refl _) with ⟨own, other, atOwn, atOther, differ⟩
        refine (agreesAt_gives atOwn atOther ready).bind ?_
        intro g ready
        rw [decide_eq_false differ]
        refine (engine_gives ready).bind ?_
        intro g ready
        rw [if_neg (by omega)]
        exact ih (Nat.le_of_lt_succ above)
          (fun h low high => differs h low (Nat.le_succ_of_le high)) ready

variable {rules : Rules} {invariant : Engine.Invariant rules} {mine : List Block} {floor : Nat}

/-- Down to just below the floor blocks can be taken back. -/
theorem rollback_gives (on : f.On steady file invariant mine)
    (retains : f.engine.Retains mine floor) (above : floor ≤ height + 1) :
    (rollback height).Gives ()
      (On steady file invariant (mine.filter fun block => block.height ≤ height)) f := by
  unfold rollback
  refine (engine_gives on.ready).bind ?_
  intro g ready
  rcases on.follows.rollbackTo height with
    ⟨txids, after, outcome, left⟩ | ⟨missing, low, high, gone, _⟩
  · rw [outcome]
    exact (setEngine_gives after ready).mono fun _ ready => ready.on left
  · have present := (retains.kept missing).mpr ⟨by omega, high⟩
    rw [gone] at present
    cases present

/-! ## Going on -/

theorem applyNext_gives {block : Block} (on : f.On steady file invariant mine)
    (linked : Linked rules.params.genesisBlock (block :: mine))
    (answers : Answers steady (config.source.block block.height) block)
    (allowed : invariant.allowed (block :: mine)) :
    (applyNext config block.height).Gives true (On steady file invariant (block :: mine)) f := by
  have fits := Engine.fits_of_linked on.follows.sameRules on.follows.tip linked
  unfold applyNext
  refine (ask_gives _ answers on.ready).bind ?_
  intro g ready
  refine (engine_gives ready).bind ?_
  intro g ready
  rw [Engine.applyBlock, fits]
  refine (setEngine_gives _ ready).bind ?_
  intro g ready
  exact Attempt.gives_pure (ready.on (on.follows.extend fits allowed))

/-- The blocks of a chain above the engine's are applied one after the other. -/
theorem applyFrom_gives {newer : List Block} {outcome : SyncOutcome}
    (on : f.On steady file invariant mine)
    (linked : Linked rules.params.genesisBlock (newer ++ mine))
    (answers : ∀ block ∈ newer, Answers steady (config.source.block block.height) block)
    (allowed : ∀ chain, chain <:+ newer ++ mine → invariant.allowed chain) :
    (applyFrom config outcome f.engine.nextHeight newer.length).Gives
      { outcome with applied := outcome.applied + newer.length }
      (On steady file invariant (newer ++ mine)) f := by
  -- The oldest of the blocks is applied first, so the list is taken apart from its end, and the
  -- chain that the engine follows grows by what is taken.
  induction newer using List.reverseRecOn generalizing mine outcome f with
  | nil => exact Attempt.gives_pure on
  | append_singleton newer block ih =>
      rw [List.append_assoc, List.singleton_append] at linked allowed ⊢
      have next := linked.of_append
      have here : f.engine.nextHeight = block.height :=
        on.follows.nextHeight_eq.trans next.1.symm
      rcases applyNext_gives on next (answers block (by simp))
        (allowed _ (List.suffix_append newer (block :: mine))) with ⟨g, applied, onNext⟩
      have height : g.engine.nextHeight = block.height + 1 := by
        rw [onNext.follows.nextHeight_eq, next.1]
        rfl
      have others : ∀ other ∈ newer, Answers steady (config.source.block other.height) other :=
        fun other member => answers other (List.mem_append_left _ member)
      have continued : (applyFrom config { outcome with applied := outcome.applied + 1 }
          g.engine.nextHeight newer.length).Gives
          { outcome with applied := outcome.applied + 1 + newer.length }
          (On steady file invariant (newer ++ block :: mine)) g :=
        ih onNext linked others allowed
      rcases continued with ⟨last, rest, onLast⟩
      have count : outcome.applied + 1 + newer.length =
          outcome.applied + (newer.length + 1) := by omega
      refine ⟨last, ?_, onLast⟩
      rw [List.length_append, List.length_singleton, ← count, here, applyFrom]
      rw [height] at rest
      simp only [applied]
      exact rest

end Sync
end TokenOverlay
