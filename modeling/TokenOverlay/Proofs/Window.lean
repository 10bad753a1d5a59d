import TokenOverlay.Proofs.Retention

namespace TokenOverlay

/-!
How far back an engine can go.  It keeps the undo entries of a window of
blocks below the greatest height it ever reached, as far as those blocks are
still on its chain, so a rollback shortens the window and nothing fills it up
again but new blocks.  Every entry is that of the block it was made for.
-/

namespace Engine

/-! ## What an undo entry says about its block -/

theorem txid_processTransaction (rules : Rules) (block : Block) (position : Nat) (tx : Tx)
    (journal : Journal) :
    (processTransaction rules block position tx journal).1.txid = tx.txid := by
  unfold processTransaction
  cases Message.decode tx.payload with
  | error reason => rfl
  | ok m =>
      dsimp only
      rcases settle (Execute.message rules (contextOf block tx) m) journal with
        ⟨reason | details, after⟩ <;> rfl

/-- There is a record of every transaction, valid or not, in the order of the block. -/
theorem txids_processFrom (rules : Rules) (block : Block) (transactions : List Tx) (position : Nat)
    (journal : Journal) :
    (processFrom rules block position journal transactions).1.map TxRecord.txid =
      transactions.map Tx.txid := by
  induction transactions generalizing position journal with
  | nil => rfl
  | cons tx rest ih =>
      simp only [processFrom, List.map_cons, txid_processTransaction, ih]

/-- The entry was made for the block. -/
structure Undoes (undo : BlockUndo) (block : Block) : Prop where
  parentHash : undo.parentHash = block.parentHash
  txids : undo.txids = block.transactions.map Tx.txid

/-- The entries that are kept for the blocks of a chain were made for them. -/
def Remembers (e : Engine) (chain : List Block) : Prop :=
  ∀ block ∈ chain, ∀ undo, e.undoChain.get? block.height = some undo → Undoes undo block

namespace Remembers

variable {rules : Rules} {invariant : Invariant rules} {e after : Engine} {chain : List Block}

/-- Fewer entries and fewer blocks do not matter. -/
theorem mono {fewer : List Block} (remembers : Remembers e chain) (within : fewer ⊆ chain)
    (kept : ∀ block ∈ fewer, ∀ undo, after.undoChain.get? block.height = some undo →
      e.undoChain.get? block.height = some undo) : Remembers after fewer :=
  fun block member undo found => remembers block (within member) undo (kept block member undo found)

theorem extend (remembers : Remembers e chain) (follows : Follows invariant e chain) {block : Block}
    (fits : e.misfit? block = none) : Remembers (e.extend block).1 (block :: chain) := by
  have linked := follows.linked_of_fits fits
  intro other member undo found
  rw [get?_undoChain_extend] at found
  split at found
  · split at found
    · next same =>
        cases found
        rw [linked.eq_newest member same]
        exact ⟨rfl, txids_processFrom _ _ _ _ _⟩
    · next different =>
        rcases List.mem_cons.mp member with rfl | older
        · exact absurd rfl different
        · exact remembers other older undo found
  · cases found

theorem rollbackTo (remembers : Remembers e chain) (height : Nat) :
    Remembers (e.rollbackTo height).2 (chain.filter fun block => block.height ≤ height) := by
  apply remembers.mono List.filter_sublist.subset
  intro block member undo found
  have low : block.height ≤ height := of_decide_eq_true (List.mem_filter.mp member).2
  rwa [e.get?_undoChain_rollbackTo low] at found

end Remembers

namespace Follows

variable {rules : Rules} {invariant : Invariant rules} {e after : Engine} {chain : List Block}

/-- The transactions of the blocks above a height are listed newest first. -/
theorem txids_disconnectAbove (follows : Follows invariant e chain) (remembers : Remembers e chain)
    (height count : Nat) (top : e.nextHeight = height + count + 1)
    (remembered : ∀ h, height < h → h ≤ height + count → (e.undoChain.get? h).isSome) :
    (e.disconnectAbove height count).2 =
      (Block.since (height + 1) chain).flatMap fun block =>
        (block.transactions.map Tx.txid).reverse := by
  induction count generalizing e chain with
  | zero =>
      rw [follows.nextHeight_eq] at top
      have none : rules.params.genesisBlock + chain.length - (height + 1) = 0 := by omega
      rw [follows.linked.since_eq_take, none, List.take_zero]
      rfl
  | succ count ih =>
      have present := remembered (height + count + 1) (by omega) (by omega)
      rcases Option.isSome_iff_exists.mp present with ⟨undo, found⟩
      rw [follows.nextHeight_eq] at top
      cases chain with
      | nil =>
          have bounds := follows.within _ undo found
          exact absurd bounds.2 (Nat.not_lt.mpr bounds.1)
      | cons block older =>
          have here : block.height = height + count + 1 := by
            rw [follows.linked.1]
            rw [List.length_cons] at top
            omega
          have undoes := remembers block List.mem_cons_self undo (here ▸ found)
          have less := follows.disconnect (here ▸ found)
          rw [here] at less
          have erased : ∀ h, h ≠ height + count + 1 →
              (e.disconnect (height + count + 1) undo).undoChain.get? h = e.undoChain.get? h :=
            fun _ different => SortedMap.get?_erase_of_ne e.undoChain different
          have fewer : Remembers (e.disconnect (height + count + 1) undo) older := by
            apply remembers.mono (List.subset_cons_self block older)
            intro other member entry known
            have below := follows.linked.2.2.height_lt member
            rw [← follows.linked.1] at below
            rwa [erased other.height (by omega)] at known
          have inside : height + 1 ≤ block.height := by omega
          simp only [Engine.disconnectAbove, found, Block.since, List.filter_cons, inside,
            decide_true, if_true, List.flatMap_cons, undoes.txids]
          apply congrArg
          apply ih less fewer
          · rw [less.nextHeight_eq]
            rw [List.length_cons] at top
            omega
          · intro h low high
            rw [erased h (by omega)]
            exact remembered h low (by omega)

/-! ### What a rollback answers -/

/-- Going back is possible exactly if the entries of all blocks above the height are kept. -/
theorem rollbackTo_accepts_iff (follows : Follows invariant e chain) (height : Nat) :
    (∃ txids after, e.rollbackTo height = (.ok txids, after)) ↔
      ∀ tip, e.tip = some tip → height < tip.height →
        ∀ h, height < h → h ≤ tip.height → (e.undoChain.get? h).isSome := by
  constructor
  · rintro ⟨txids, after, run⟩ tip atTip above
    rcases e.rollbackTo_cases height with
      ⟨_, low⟩ | ⟨tip', atTip', _, ⟨_, _, _, _, outcome⟩ | ⟨complete, _⟩⟩
    · exact absurd (low tip atTip) (Nat.not_le.mpr above)
    · rw [outcome] at run
      cases run
    · cases atTip.symm.trans atTip'
      exact complete
  · intro complete
    rcases follows.rollbackTo height with
      ⟨txids, after, outcome, _⟩ | ⟨missing, high, low, gone, outcome⟩
    · exact ⟨txids, after, outcome⟩
    · rcases e.rollbackTo_cases height with ⟨accepted, _⟩ | ⟨tip, atTip, above, _⟩
      · exact ⟨[], e, accepted⟩
      · rw [nextHeight_of_some atTip] at low
        have kept := complete tip atTip above missing high (Nat.le_of_lt_succ low)
        rw [gone] at kept
        cases kept

/-- A refused rollback changes nothing. -/
theorem rollbackTo_error (follows : Follows invariant e chain) {height : Nat} {reason : EngineError}
    (run : e.rollbackTo height = (.error reason, after)) : after = e := by
  rcases follows.rollbackTo height with ⟨_, _, outcome, _⟩ | ⟨_, _, _, _, outcome⟩
  · rw [outcome] at run
    cases run
  · rw [outcome] at run
    cases run
    rfl

/-- The block at the height that was gone back to is the tip, and below the first there is none. -/
theorem tip_rollbackTo (follows : Follows invariant e chain) {height : Nat} {tip : Tip}
    {txids : List String} (atTip : e.tip = some tip) (above : height < tip.height)
    (run : e.rollbackTo height = (.ok txids, after)) :
    (height + 1 = rules.params.genesisBlock → after.tip = none) ∧
      (height + 1 ≠ rules.params.genesisBlock →
        ∃ block ∈ chain, block.height = height ∧ after.tip = some ⟨height, block.hash⟩) := by
  have left : Follows invariant after (chain.filter fun block => block.height ≤ height) := by
    rcases follows.rollbackTo height with ⟨_, _, outcome, left⟩ | ⟨_, _, _, _, outcome⟩
    · rw [run] at outcome
      cases outcome
      exact left
    · rw [run] at outcome
      cases outcome
  have top := nextHeight_of_some atTip
  have complete := (follows.rollbackTo_accepts_iff height).mp ⟨txids, after, run⟩ tip atTip above
  have present := complete (height + 1) (Nat.lt_succ_self height) above
  rcases Option.isSome_iff_exists.mp present with ⟨undo, found⟩
  have low := (follows.within (height + 1) undo found).1
  have next := follows.nextHeight_filter left low (by omega)
  have newest := left.tip
  have linked := left.linked
  cases remaining : chain.filter fun block => block.height ≤ height with
  | nil =>
      rw [remaining] at newest
      have none : after.nextHeight = rules.params.genesisBlock := by
        rw [left.nextHeight_eq, remaining, List.length_nil, Nat.add_zero]
      refine ⟨fun _ => newest, fun different => ?_⟩
      exact absurd (next.symm.trans none) different
  | cons block older =>
      rw [remaining] at newest linked
      have member : block ∈ chain := by
        apply List.filter_sublist.subset
        rw [remaining]
        exact List.mem_cons_self
      have here : block.height = height := by
        have after := nextHeight_of_some newest
        dsimp only at after
        omega
      have start := linked.1
      refine ⟨fun same => ?_, fun _ => ⟨block, member, here, ?_⟩⟩
      · omega
      · rw [← here]
        exact newest

/-- The transactions of all blocks above the height have lost their block. -/
theorem txids_rollbackTo (follows : Follows invariant e chain) (remembers : Remembers e chain)
    {height : Nat} {txids : List String} (run : e.rollbackTo height = (.ok txids, after)) :
    txids = (Block.since (height + 1) chain).flatMap fun block =>
      (block.transactions.map Tx.txid).reverse := by
  rcases e.rollbackTo_cases height with
    ⟨outcome, low⟩ | ⟨tip, atTip, above, ⟨_, _, _, _, outcome⟩ | ⟨complete, outcome⟩⟩
  · rw [run] at outcome
    cases outcome
    have split := follows.linked.since_append_filter height
    rw [follows.filter_eq_self low] at split
    rw [List.append_left_eq_self.mp split]
    rfl
  · rw [run] at outcome
    cases outcome
  · have top := nextHeight_of_some atTip
    have listed := follows.txids_disconnectAbove remembers height (tip.height - height) (by omega)
      fun h low high => complete h low (by omega)
    have less := follows.disconnectAbove height (tip.height - height) (by omega)
      fun h low high => complete h low (by omega)
    rw [run, less.verifySupply_eq_ok] at outcome
    cases outcome
    exact listed

end Follows

namespace Retains

variable {rules : Rules} {invariant : Invariant rules} {e after : Engine} {chain : List Block}
  {floor : Nat}

/-- Nothing is kept without a tip, and nothing above it. -/
theorem kept_iff (retains : Retains e chain floor) (follows : Follows invariant e chain)
    (start : rules.params.genesisBlock ≤ floor) (height : Nat) :
    (e.undoChain.get? height).isSome ↔
      ∃ tip, e.tip = some tip ∧ floor ≤ height ∧ height ≤ tip.height := by
  rw [retains.kept]
  cases atTip : e.tip with
  | none =>
      have next : e.nextHeight = rules.params.genesisBlock := by
        unfold nextHeight
        rw [atTip, follows.sameRules]
      constructor
      · rintro ⟨low, high⟩
        omega
      · rintro ⟨tip, impossible, _⟩
        cases impossible
  | some tip =>
      rw [nextHeight_of_some atTip, Nat.lt_succ_iff]
      constructor
      · rintro ⟨low, high⟩
        exact ⟨tip, rfl, low, high⟩
      · rintro ⟨other, same, low, high⟩
        cases same
        exact ⟨low, high⟩

/-- The entry of the newest block has the hash of the tip. -/
theorem hash_tip (retains : Retains e chain floor) (follows : Follows invariant e chain)
    {tip : Tip} {undo : BlockUndo} (atTip : e.tip = some tip)
    (found : e.undoChain.get? tip.height = some undo) : undo.hash = tip.hash := by
  have newest := follows.tip
  cases chain with
  | nil =>
      rw [newest] at atTip
      cases atTip
  | cons block older =>
      rw [newest] at atTip
      cases atTip
      exact retains.hash block List.mem_cons_self undo found

end Retains

/-- An entry above the first height names the block below its own. -/
theorem Remembers.exists_parent {rules : Rules} {invariant : Invariant rules} {e : Engine}
    {chain : List Block} (remembers : Remembers e chain) (follows : Follows invariant e chain)
    {height : Nat} {undo : BlockUndo} (found : e.undoChain.get? height = some undo)
    (above : rules.params.genesisBlock < height) :
    ∃ below ∈ chain, below.height + 1 = height ∧ undo.parentHash = below.hash := by
  have bounds := follows.within height undo found
  rcases follows.linked.exists_height bounds.1 bounds.2 with ⟨block, member, rfl⟩
  rcases follows.linked.exists_parent member above with ⟨below, listed, next, parent⟩
  exact ⟨below, listed, next, (remembers block member undo found).parentHash.trans parent⟩

end Engine

/-! ## Runs -/

namespace Session

theorem run_remembers (rules : Rules) (calls : List Call) :
    Engine.Remembers (run rules calls).engine (run rules calls).active := by
  induction calls using List.reverseRecOn with
  | nil =>
      intro block member
      cases member
  | append_singleton calls last remembers =>
      have follows := run_follows_books rules calls
      rw [run_concat]
      unfold call
      cases last with
      | apply block =>
          cases fits : (run rules calls).engine.misfit? block with
          | some reason => simpa only [Engine.applyBlock, fits] using remembers
          | none =>
              simp only [Engine.applyBlock, fits]
              exact remembers.extend follows fits
      | rollback height =>
          have back := remembers.rollbackTo height
          rcases follows.rollbackTo height with
            ⟨txids, after, outcome, below⟩ | ⟨_, _, _, _, outcome⟩
          · rw [outcome] at back
            simpa only [outcome] using back
          · simpa only [outcome] using remembers

/-- What an engine can take back, and what becomes of it then. -/
structure Windowed (rules : Rules) (session : Session) (start : Nat) : Prop where
  /-- The entries that are kept are those from the start of the window up to the tip. -/
  kept : ∀ height, (session.engine.undoChain.get? height).isSome ↔
    ∃ tip, session.engine.tip = some tip ∧ start ≤ height ∧ height ≤ tip.height
  parent : ∀ height undo, session.engine.undoChain.get? height = some undo →
    rules.params.genesisBlock < height →
      ∃ below ∈ session.active, below.height + 1 = height ∧ undo.parentHash = below.hash
  top : ∀ tip undo, session.engine.tip = some tip →
    session.engine.undoChain.get? tip.height = some undo → undo.hash = tip.hash
  /-- A rollback is accepted exactly if the entries of all blocks above its height are kept. -/
  accepted : ∀ height, (∃ txids after, session.engine.rollbackTo height = (.ok txids, after)) ↔
    ∀ tip, session.engine.tip = some tip → height < tip.height →
      ∀ h, height < h → h ≤ tip.height → (session.engine.undoChain.get? h).isSome
  /-- The block at the height is the tip again, if there is one. -/
  tip : ∀ height tip txids after, session.engine.tip = some tip → height < tip.height →
    session.engine.rollbackTo height = (.ok txids, after) →
      (height + 1 = rules.params.genesisBlock → after.tip = none) ∧
      (height + 1 ≠ rules.params.genesisBlock →
        ∃ block ∈ session.active, block.height = height ∧ after.tip = some ⟨height, block.hash⟩)
  /-- The transactions that lost their block are listed, newest first. -/
  removed : ∀ height txids after, session.engine.rollbackTo height = (.ok txids, after) →
    txids = (Block.since (height + 1) session.active).flatMap fun block =>
      (block.transactions.map Tx.txid).reverse
  refused : ∀ height reason after,
    session.engine.rollbackTo height = (.error reason, after) → after = session.engine

/-- In every run, the undo entries that are kept are those from the window below the greatest
height ever applied up to the tip; they name the blocks they lead back to, and a rollback goes
back to any height that they reach down to, and to no other. -/
theorem run_windowed (rules : Rules) (calls : List Call) :
    Windowed rules (run rules calls) (windowStart rules calls) := by
  have follows := run_follows_books rules calls
  have retains := run_retains_window rules calls
  have remembers := run_remembers rules calls
  exact {
    kept := retains.kept_iff follows (Nat.le_max_left _ _)
    parent := fun _ _ => remembers.exists_parent follows
    top := fun _ _ => retains.hash_tip follows
    accepted := follows.rollbackTo_accepts_iff
    tip := fun _ _ _ _ => follows.tip_rollbackTo
    removed := fun _ _ _ => follows.txids_rollbackTo remembers
    refused := fun _ _ _ => follows.rollbackTo_error }

end Session
end TokenOverlay
