import Mathlib.Data.List.Infix
import TokenOverlay.Proofs.Session

namespace TokenOverlay

/-!
The state is a function of the active chain.  However blocks came and went, an
engine has the state and the tip of one that never saw any other block than
those that are on its chain now.

Receipts are kept by transaction, so this is about chains on which no
transaction is confirmed twice.
-/

open Block (Linked tipOf confirmed)

namespace Engine

/-- Apply blocks in order to a fresh engine. -/
def replay (rules : Rules) (blocks : List Block) : Except EngineError Engine :=
  blocks.foldlM (fun e block => Prod.fst <$> e.applyBlock block) (fresh rules)

/-- The state after the blocks of a chain, newest first. -/
def replayState (rules : Rules) : List Block → State
  | [] => genesisState rules.config
  | block :: older => (processBlock rules (replayState rules older) block).2.state

variable {rules : Rules}

/-- A linked chain is accepted block by block. -/
theorem replay_of_linked {chain : List Block}
    (linked : Linked rules.params.genesisBlock chain) :
    ∃ again, replay rules chain.reverse = .ok again ∧ again.rules = rules ∧
      again.state = replayState rules chain ∧ again.tip = tipOf chain := by
  induction chain with
  | nil => exact ⟨fresh rules, rfl, rfl, rfl, rfl⟩
  | cons block older ih =>
      rcases ih linked.2.2 with ⟨before, accepted, sameRules, state, tip⟩
      have fits := fits_of_linked sameRules tip linked
      refine ⟨(before.extend block).1, ?_, sameRules, ?_, rfl⟩
      · unfold replay at accepted ⊢
        rw [List.reverse_cons, List.foldlM_append, accepted]
        change Prod.fst <$> before.applyBlock block >>= pure = _
        rw [applyBlock, fits]
        rfl
      · change (processBlock before.rules before.state block).2.state = _
        rw [sameRules, state]
        rfl

/-! ## Receipts and the chain -/

theorem receipts_genesisState (config : EngineConfig) :
    (genesisState config).receipts = .empty :=
  genesisState_keeps (fun s => s.receipts = .empty) rfl (fun _ _ _ _ empty => empty)
    (fun _ _ _ empty => empty) config

/-- The state is that of the chain, and every receipt is of a transaction on it. -/
def replayInvariant (rules : Rules) : Invariant rules where
  allowed chain := (confirmed chain).Nodup
  holds chain s := s = replayState rules chain ∧
    ∀ txid, (s.receipts.get? txid).isSome → txid ∈ confirmed chain
  genesis := by
    refine ⟨rfl, ?_⟩
    intro txid found
    rw [receipts_genesisState] at found
    cases found
  block := by
    rintro block chain s _ sound ⟨same, receipts⟩
    refine ⟨by rw [same]; rfl, ?_⟩
    intro txid found
    rw [confirmed, List.flatMap_cons, List.mem_append]
    rcases (trails_processBlock rules block sound.canonical).receipts txid found with older | own
    · exact Or.inr (receipts txid older)
    · exact Or.inl own
  forget := by
    rintro block newer chain s gone once listed ⟨same, receipts⟩
    have unchanged : s.forget gone = s := by
      apply State.forget_eq_self
      intro txid forgotten
      by_contra present
      have older := receipts txid (Option.isSome_iff_ne_none.mpr present)
      rw [confirmed, List.flatMap_cons, List.nodup_append] at once
      refine once.2.2 txid (listed forgotten) txid ?_ rfl
      rw [List.flatMap_append]
      exact List.mem_append_right _ older
    rw [unchanged]
    exact ⟨same, receipts⟩

/-- An engine that follows a chain has the state and the tip of its replay. -/
theorem Follows.replayed {e : Engine} {chain : List Block}
    (follows : Follows (replayInvariant rules) e chain) :
    ∃ again, replay rules chain.reverse = .ok again ∧ e.state = again.state ∧
      e.tip = again.tip := by
  rcases replay_of_linked follows.linked with ⟨again, accepted, _, state, tip⟩
  exact ⟨again, accepted, follows.unwinds.holds.1.trans state.symm, follows.tip.trans tip.symm⟩

end Engine

namespace Session

/-- At no time in a run is a transaction confirmed twice on the active chain. -/
def ConfirmedOnce (rules : Rules) (calls : List Call) : Prop :=
  ∀ earlier, earlier <+: calls → (confirmed (run rules earlier).active).Nodup

instance (rules : Rules) (calls : List Call) : Decidable (ConfirmedOnce rules calls) :=
  decidable_of_iff (∀ earlier ∈ calls.inits, (confirmed (run rules earlier).active).Nodup) (by
    simp only [ConfirmedOnce, List.mem_inits])

/-- After any calls, accepted or refused, the engine is where applying its active chain to a
fresh engine leads; and taking back blocks whose entries are kept leads to where the chain
below them leads. -/
theorem run_eq_replay (rules : Rules) (calls : List Call) (once : ConfirmedOnce rules calls) :
    (∃ again, Engine.replay rules (run rules calls).active.reverse = .ok again ∧
      (run rules calls).engine.state = again.state ∧ (run rules calls).engine.tip = again.tip) ∧
    ∀ height, (∀ h, height < h → h < (run rules calls).engine.nextHeight →
        ((run rules calls).engine.undoChain.get? h).isSome) →
      ∃ txids after again, (run rules calls).engine.rollbackTo height = (.ok txids, after) ∧
        Engine.replay rules ((run rules calls).active.filter fun block =>
          block.height ≤ height).reverse = .ok again ∧
        after.state = again.state ∧ after.tip = again.tip := by
  have follows := run_follows (Engine.replayInvariant rules) calls once
  refine ⟨follows.replayed, ?_⟩
  intro height remembered
  rcases follows.rollbackTo height with
    ⟨txids, after, outcome, below⟩ | ⟨missing, above, inside, gone, _⟩
  · rcases below.replayed with ⟨again, accepted, state, tip⟩
    exact ⟨txids, after, again, outcome, accepted, state, tip⟩
  · have kept := remembered missing above inside
    rw [gone] at kept
    cases kept

/-- A block with a distribution is replaced by another one that confirms it again. -/
def reorganization : List Call :=
  let distribution : Tx :=
    ⟨"t", "a", none, Message.encode (Payload.sendToOwners 1 4 none).toMessage⟩
  [.apply ⟨0, "x", "", 0, []⟩, .apply ⟨1, "y", "x", 1, [distribution]⟩, .rollback 0,
    .apply ⟨1, "z", "x", 2, [distribution]⟩]

theorem run_eq_replay_reorganization :
    ConfirmedOnce twoOwners reorganization ∧
    (∃ again,
      Engine.replay twoOwners (run twoOwners reorganization).active.reverse = .ok again ∧
      (run twoOwners reorganization).engine.state = again.state ∧
      (run twoOwners reorganization).engine.tip = again.tip) ∧
    ∃ txids after again,
      (run twoOwners reorganization).engine.rollbackTo 0 = (.ok txids, after) ∧
      Engine.replay twoOwners ((run twoOwners reorganization).active.filter fun block =>
        block.height ≤ 0).reverse = .ok again ∧
      after.state = again.state ∧ after.tip = again.tip := by
  have once : ConfirmedOnce twoOwners reorganization := by decide +kernel
  have replayed := run_eq_replay twoOwners reorganization once
  refine ⟨once, replayed.1, replayed.2 0 ?_⟩
  intro h above below
  have next : (run twoOwners reorganization).engine.nextHeight = 2 := by decide +kernel
  have newest : h = 1 := by omega
  subst newest
  decide +kernel

end Session
end TokenOverlay
