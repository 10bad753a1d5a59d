import Mathlib.Data.List.Induction
import TokenOverlay.Proofs.Conservation
import TokenOverlay.Engine.Rollback

namespace TokenOverlay

/-!
Engines as they are used: fresh ones that are asked, in any order, to apply
blocks and to go back.  Beside the engine the blocks of its active chain are
kept, and what holds along the chain is proved here once for every such run.
-/

/-- What an engine is asked to do. -/
inductive Call where
  | apply (block : Block)
  | rollback (height : Nat)
deriving DecidableEq, Repr

/-- An engine and the blocks that are on its chain, newest first. -/
structure Session where
  engine : Engine
  active : List Block

namespace Session

def fresh (rules : Rules) : Session := ⟨.fresh rules, []⟩

/-- A block that is accepted joins the chain, and a rollback that is accepted removes the blocks
above its height.  What is refused leaves the chain as it was. -/
def call (session : Session) : Call → Session
  | .apply block =>
      match session.engine.applyBlock block with
      | .ok (engine, _) => ⟨engine, block :: session.active⟩
      | .error _ => session
  | .rollback height =>
      match session.engine.rollbackTo height with
      | (.ok _, engine) => ⟨engine, session.active.filter fun block => block.height ≤ height⟩
      | (.error _, engine) => ⟨engine, session.active⟩

/-- The session after some calls. -/
def run (rules : Rules) (calls : List Call) : Session := calls.foldl call (fresh rules)

/-- Two owners of the main token before the first block. -/
def twoOwners : Rules where
  params := .ofNetwork .regtest
  config := { EngineConfig.standard with allocations := [⟨"a", 1, 10⟩, ⟨"b", 1, 5⟩] }

end Session

namespace Block

/-- The transactions confirmed on a chain. -/
def confirmed (chain : List Block) : List String :=
  chain.flatMap fun block => block.transactions.map Tx.txid

/-- The newest block of a chain. -/
def tipOf (chain : List Block) : Option Tip :=
  chain.head?.map fun block => ⟨block.height, block.hash⟩

/-- The blocks of a chain, newest first, follow each other from the first height on. -/
def Linked (first : Nat) : List Block → Prop
  | [] => True
  | block :: older =>
      block.height = first + older.length ∧
        (∀ parent, older.head? = some parent → block.parentHash = parent.hash) ∧
        Linked first older

theorem Linked.height_lt {first : Nat} {chain : List Block} (linked : Linked first chain)
    {block : Block} (member : block ∈ chain) : block.height < first + chain.length := by
  induction chain with
  | nil => cases member
  | cons newest older ih =>
      rw [List.length_cons]
      rcases List.mem_cons.mp member with rfl | earlier
      · rw [linked.1]
        omega
      · have bound := ih linked.2.2 earlier
        omega

/-- No block of a chain lies above its newest one. -/
theorem Linked.filter_eq_self {first : Nat} {chain : List Block} (linked : Linked first chain)
    {height : Nat} (above : first + chain.length ≤ height + 1) :
    (chain.filter fun block => block.height ≤ height) = chain := by
  rw [List.filter_eq_self]
  intro block member
  have bound := linked.height_lt member
  exact decide_eq_true (by omega)

end Block

open Block (Linked tipOf confirmed)

/-! ## What holds along a chain -/

/-- A property of a state and the chain it came from that blocks establish, and that does not
mind when the receipts of a later block are forgotten. -/
structure Engine.Invariant (rules : Rules) where
  /-- The chains that are considered. -/
  allowed : List Block → Prop
  holds : List Block → State → Prop
  genesis : holds [] (Engine.genesisState rules.config)
  block : ∀ (block : Block) (chain : List Block) (s : State), allowed (block :: chain) →
    s.Sound → holds chain s → holds (block :: chain) (Engine.processBlock rules s block).2.state
  forget : ∀ (block : Block) (newer chain : List Block) (s : State) (gone : List String),
    allowed (block :: (newer ++ chain)) → gone ⊆ block.transactions.map Tx.txid →
      holds chain s → holds chain (s.forget gone)

namespace Engine

/-! ## Undo entries -/

/-- The entry of a block is kept while the newest block is less than the depth above it. -/
theorem get?_pruneUndo (rules : Rules) (height h : Nat) (undos : SortedMap Nat BlockUndo) :
    (pruneUndo rules height undos).get? h =
      if height < h + depth rules then undos.get? h else none := by
  unfold pruneUndo
  by_cases shallow : height < depth rules
  · rw [if_pos shallow, if_pos (by omega)]
  · rw [if_neg shallow, SortedMap.get?_filterKeys]
    have edge : height - depth rules + 1 ≤ h ↔ height < h + depth rules := by omega
    simp only [decide_eq_true_eq, edge]

theorem get?_undoChain_extend (e : Engine) (block : Block) (h : Nat) :
    (e.extend block).1.undoChain.get? h =
      if block.height < h + depth e.rules then
        if h = block.height then
          some {
            height := block.height
            hash := block.hash
            parentHash := block.parentHash
            entries := (processBlock e.rules e.state block).2.entries
            txids := (processBlock e.rules e.state block).1.map TxRecord.txid }
        else e.undoChain.get? h
      else none := by
  change (pruneUndo e.rules block.height (e.undoChain.insert block.height _)).get? h = _
  rw [get?_pruneUndo, SortedMap.get?_insert]
  rfl

/-- No entry is missing exactly if every block above the height has one. -/
theorem missingUndo?_eq_none_iff (e : Engine) (height count : Nat) :
    e.missingUndo? height count = none ↔
      ∀ h, height < h → h ≤ height + count → (e.undoChain.get? h).isSome := by
  unfold missingUndo?
  rw [List.find?_eq_none]
  constructor
  · intro complete h above below
    have listed : h ∈ (List.range count).map fun i => height + 1 + i :=
      List.mem_map.mpr ⟨h - height - 1, List.mem_range.mpr (by omega), by omega⟩
    simpa [SortedMap.contains, Option.isSome_iff_ne_none] using complete h listed
  · intro remembered h listed
    rcases List.mem_map.mp listed with ⟨i, inside, rfl⟩
    have bound := List.mem_range.mp inside
    simpa [SortedMap.contains, Option.isSome_iff_ne_none] using
      remembered (height + 1 + i) (by omega) (by omega)

theorem missingUndo?_eq_some {e : Engine} {height count missing : Nat}
    (found : e.missingUndo? height count = some missing) :
    height < missing ∧ missing ≤ height + count ∧ e.undoChain.get? missing = none := by
  have gone := List.find?_some found
  rcases List.mem_map.mp (List.mem_of_find?_eq_some found) with ⟨i, inside, rfl⟩
  have bound := List.mem_range.mp inside
  refine ⟨by omega, by omega, ?_⟩
  simpa [SortedMap.contains] using gone

/-- What a rollback comes down to: no block is above the height, the entry of one is missing, or
all of them are disconnected and the supply is checked. -/
theorem rollbackTo_cases (e : Engine) (height : Nat) :
    (e.rollbackTo height = (.ok [], e) ∧ ∀ tip, e.tip = some tip → tip.height ≤ height) ∨
    ∃ tip, e.tip = some tip ∧ height < tip.height ∧
      ((∃ missing, height < missing ∧ missing ≤ tip.height ∧ e.undoChain.get? missing = none ∧
          e.rollbackTo height = (.error (.reorgInconsistency
            s!"no undo log for block {missing} while rolling back to {height}"), e)) ∨
        (∀ h, height < h → h ≤ tip.height → (e.undoChain.get? h).isSome) ∧
          e.rollbackTo height =
            ((e.disconnectAbove height (tip.height - height)).1.verifySupply.map fun _ =>
                (e.disconnectAbove height (tip.height - height)).2,
              (e.disconnectAbove height (tip.height - height)).1)) := by
  unfold rollbackTo
  cases e.tip with
  | none =>
      refine Or.inl ⟨rfl, ?_⟩
      intro tip impossible
      cases impossible
  | some tip =>
      by_cases low : tip.height ≤ height
      · refine Or.inl ⟨if_pos low, ?_⟩
        intro other same
        cases same
        exact low
      · refine Or.inr ⟨tip, rfl, Nat.lt_of_not_le low, ?_⟩
        simp only [if_neg low]
        cases search : e.missingUndo? height (tip.height - height) with
        | some missing =>
            rcases missingUndo?_eq_some search with ⟨above, below, gone⟩
            exact Or.inl ⟨missing, above, by omega, gone, rfl⟩
        | none =>
            have complete := (e.missingUndo?_eq_none_iff _ _).mp search
            refine Or.inr ⟨fun h above below => complete h above (by omega), ?_⟩
            dsimp only
            cases (e.disconnectAbove height (tip.height - height)).1.verifySupply <;> rfl

/-! ## Following a chain -/

variable {rules : Rules} (invariant : Invariant rules)

/-- The invariant holds, and holds again after every block that can still be taken back is. -/
def Unwinds (undos : SortedMap Nat BlockUndo) : List Block → State → Prop
  | [], s => s.Sound ∧ invariant.holds [] s
  | block :: older, s => s.Sound ∧ invariant.holds (block :: older) s ∧
      ∀ undo, undos.get? block.height = some undo →
        undo.parentHash = block.parentHash ∧ Unwinds undos older (s.revertAll undo.entries)

variable {invariant} {undos others : SortedMap Nat BlockUndo} {chain : List Block} {s : State}

namespace Unwinds

theorem sound (unwinds : Unwinds invariant undos chain s) : s.Sound := by
  cases chain with
  | nil => exact unwinds.1
  | cons block older => exact unwinds.1

theorem holds (unwinds : Unwinds invariant undos chain s) : invariant.holds chain s := by
  cases chain with
  | nil => exact unwinds.2
  | cons block older => exact unwinds.2.1

/-- Undo entries that are of no block of the chain do not matter, nor do fewer of them. -/
theorem mono (unwinds : Unwinds invariant undos chain s)
    (fewer : ∀ block ∈ chain, ∀ undo, others.get? block.height = some undo →
      undos.get? block.height = some undo) : Unwinds invariant others chain s := by
  induction chain generalizing s with
  | nil => exact unwinds
  | cons block older ih =>
      refine ⟨unwinds.1, unwinds.2.1, ?_⟩
      intro undo found
      rcases unwinds.2.2 undo (fewer block List.mem_cons_self undo found) with ⟨parent, back⟩
      exact ⟨parent, ih back fun other member => fewer other (List.mem_cons_of_mem block member)⟩

theorem forget (newer : List Block) (unwinds : Unwinds invariant undos chain s) {block : Block}
    {gone : List String} (allowed : invariant.allowed (block :: (newer ++ chain)))
    (listed : gone ⊆ block.transactions.map Tx.txid) :
    Unwinds invariant undos chain (s.forget gone) := by
  induction chain generalizing s newer with
  | nil =>
      exact ⟨unwinds.1.forget gone, invariant.forget block newer [] s gone allowed listed unwinds.2⟩
  | cons next older ih =>
      refine ⟨unwinds.1.forget gone,
        invariant.forget block newer (next :: older) s gone allowed listed unwinds.2.1, ?_⟩
      intro undo found
      rcases unwinds.2.2 undo found with ⟨parent, back⟩
      rw [State.revertAll_forget]
      refine ⟨parent, ih (newer ++ [next]) back ?_⟩
      rw [List.append_assoc]
      exact allowed

end Unwinds

theorem nextHeight_of_some {e : Engine} {tip : Tip} (atTip : e.tip = some tip) :
    e.nextHeight = tip.height + 1 := by
  unfold nextHeight
  rw [atTip]

theorem nextHeight_of_tip {e : Engine} (sameRules : e.rules = rules) (tip : e.tip = tipOf chain)
    (linked : Linked rules.params.genesisBlock chain) :
    e.nextHeight = rules.params.genesisBlock + chain.length := by
  unfold nextHeight
  rw [tip, sameRules]
  cases chain with
  | nil => rfl
  | cons block older =>
      change block.height + 1 = _
      rw [linked.1]
      rfl

/-- On an engine whose tip is that of a chain, a block that is linked to the chain fits. -/
theorem fits_of_linked {e : Engine} {block : Block} {older : List Block}
    (sameRules : e.rules = rules) (tip : e.tip = tipOf older)
    (linked : Linked rules.params.genesisBlock (block :: older)) :
    e.misfit? block = none := by
  have next : e.nextHeight = block.height :=
    (nextHeight_of_tip sameRules tip linked.2.2).trans linked.1.symm
  unfold misfit?
  rw [if_neg (not_not_intro next.symm), tip]
  cases older with
  | nil => rfl
  | cons parent rest => exact if_neg (not_not_intro (linked.2.1 parent rfl).symm)

variable (invariant) in
/-- How an engine stands to the chain it follows. -/
structure Follows (e : Engine) (chain : List Block) : Prop where
  sameRules : e.rules = rules
  linked : Linked rules.params.genesisBlock chain
  tip : e.tip = tipOf chain
  within : ∀ height undo, e.undoChain.get? height = some undo →
    rules.params.genesisBlock ≤ height ∧ height < rules.params.genesisBlock + chain.length
  unwinds : Unwinds invariant e.undoChain chain e.state

namespace Follows

variable {e : Engine}

theorem fresh : Follows invariant (.fresh rules) [] where
  sameRules := rfl
  linked := trivial
  tip := rfl
  within := by
    intro height undo found
    cases found
  unwinds := ⟨genesisState_sound rules.config, invariant.genesis⟩

theorem nextHeight_eq (follows : Follows invariant e chain) :
    e.nextHeight = rules.params.genesisBlock + chain.length :=
  nextHeight_of_tip follows.sameRules follows.tip follows.linked

/-! ### Applying a block -/

/-- A block that fits is linked to the chain. -/
theorem linked_of_fits (follows : Follows invariant e chain) {block : Block}
    (fits : e.misfit? block = none) : Linked rules.params.genesisBlock (block :: chain) := by
  unfold misfit? at fits
  split at fits
  · cases fits
  · next inOrder =>
      have height : block.height = e.nextHeight := Decidable.not_not.mp inOrder
      refine ⟨height.trans follows.nextHeight_eq, ?_, follows.linked⟩
      intro parent newest
      rw [follows.tip, tipOf, newest] at fits
      dsimp only [Option.map_some] at fits
      split at fits
      · cases fits
      · next same => exact (Decidable.not_not.mp same).symm

theorem extend (follows : Follows invariant e chain) {block : Block}
    (fits : e.misfit? block = none) (allowed : invariant.allowed (block :: chain)) :
    Follows invariant (e.extend block).1 (block :: chain) := by
  have linked := follows.linked_of_fits fits
  have sound := follows.unwinds.sound
  have known : ∀ height undo, (e.extend block).1.undoChain.get? height = some undo →
      if height = block.height then
        undo.parentHash = block.parentHash ∧
          undo.entries = (processBlock rules e.state block).2.entries
      else e.undoChain.get? height = some undo := by
    intro height undo found
    rw [get?_undoChain_extend, follows.sameRules] at found
    split at found
    · split at found
      · next same =>
          cases found
          rw [if_pos same]
          exact ⟨rfl, rfl⟩
      · next other =>
          rw [if_neg other]
          exact found
    · cases found
  have state : (e.extend block).1.state = (processBlock rules e.state block).2.state := by
    rw [← follows.sameRules]
    rfl
  constructor
  · exact follows.sameRules
  · exact linked
  · rfl
  · intro height undo found
    have origin := known height undo found
    rw [List.length_cons]
    split at origin
    · next same =>
        rw [same, linked.1]
        omega
    · have bounds := follows.within height undo origin
      omega
  · rw [state]
    refine ⟨processBlock_sound rules block sound,
      invariant.block block chain e.state allowed sound follows.unwinds.holds, ?_⟩
    intro undo found
    have origin := known block.height undo found
    rw [if_pos rfl] at origin
    rcases (trails_processBlock rules block sound.canonical).undo with ⟨gone, listed, back⟩
    rw [origin.2, back]
    refine ⟨origin.1, ?_⟩
    refine (follows.unwinds.forget [] allowed listed).mono ?_
    intro older member other otherFound
    have below := follows.linked.height_lt member
    have otherOrigin := known older.height other otherFound
    rw [if_neg (by rw [linked.1]; omega)] at otherOrigin
    exact otherOrigin

/-! ### Going back -/

theorem disconnect (follows : Follows invariant e (block :: chain)) {undo : BlockUndo}
    (found : e.undoChain.get? block.height = some undo) :
    Follows invariant (e.disconnect block.height undo) chain := by
  rcases follows.unwinds.2.2 undo found with ⟨parent, back⟩
  have linked := follows.linked
  have erased : ∀ height other, (e.undoChain.erase block.height).get? height = some other →
      height ≠ block.height ∧ e.undoChain.get? height = some other := by
    intro height other otherFound
    rw [SortedMap.get?_erase] at otherFound
    split at otherFound
    · cases otherFound
    · next different => exact ⟨different, otherFound⟩
  constructor
  · exact follows.sameRules
  · exact linked.2.2
  · change (if e.rules.params.genesisBlock < block.height then
      some (Tip.mk (block.height - 1) undo.parentHash) else none) = tipOf chain
    rw [follows.sameRules, linked.1, parent]
    cases chain with
    | nil => simp [tipOf]
    | cons newest older =>
        have height := linked.2.2.1
        have hash := linked.2.1 newest rfl
        rw [if_pos (by simp), hash]
        simp [tipOf, height]
  · intro height other otherFound
    rcases erased height other otherFound with ⟨different, before⟩
    have bounds := follows.within height other before
    rw [List.length_cons] at bounds
    rw [linked.1] at different
    omega
  · refine back.mono ?_
    intro older _ other otherFound
    exact (erased older.height other otherFound).2

theorem verifySupply_eq_ok (follows : Follows invariant e chain) : e.verifySupply = .ok () := by
  rw [verifySupply, follows.unwinds.sound.supplyMismatches_eq_nil]

/-- Taking back blocks that are all remembered leads to the chain below them. -/
theorem disconnectAbove (follows : Follows invariant e chain) (height count : Nat)
    (top : e.nextHeight = height + count + 1)
    (remembered : ∀ h, height < h → h ≤ height + count → (e.undoChain.get? h).isSome) :
    Follows invariant (e.disconnectAbove height count).1
      (chain.filter fun block => block.height ≤ height) := by
  induction count generalizing e chain with
  | zero =>
      rw [follows.nextHeight_eq] at top
      rw [follows.linked.filter_eq_self (Nat.le_of_eq top)]
      exact follows
  | succ count ih =>
      have present := remembered (height + count + 1) (by omega) (by omega)
      rcases Option.isSome_iff_exists.mp present with ⟨undo, found⟩
      rw [follows.nextHeight_eq] at top
      cases chain with
      | nil =>
          have bounds := follows.within _ undo found
          exact absurd bounds.2 (Nat.not_lt.mpr bounds.1)
      | cons block older =>
          have here : block.height = height + count + 1 := by
            rw [follows.linked.1]
            rw [List.length_cons] at top
            omega
          have less := follows.disconnect (here ▸ found)
          rw [here] at less
          have above : ¬ block.height ≤ height := by omega
          simp only [Engine.disconnectAbove, found, List.filter_cons, above, decide_false,
            Bool.false_eq_true, if_false]
          refine ih less ?_ ?_
          · rw [less.nextHeight_eq]
            rw [List.length_cons] at top
            omega
          · intro h low high
            have kept := remembered h low (by omega)
            have different : h ≠ height + count + 1 := by omega
            change ((e.undoChain.erase (height + count + 1)).get? h).isSome
            rw [SortedMap.get?_erase, if_neg different]
            exact kept

/-- A tip that is not above a height leaves no block above it. -/
theorem filter_eq_self (follows : Follows invariant e chain) {height : Nat}
    (low : ∀ tip, e.tip = some tip → tip.height ≤ height) :
    (chain.filter fun block => block.height ≤ height) = chain := by
  cases chain with
  | nil => rfl
  | cons newest older =>
      have bound : newest.height ≤ height := low _ follows.tip
      rw [follows.linked.1] at bound
      exact follows.linked.filter_eq_self (Nat.succ_le_succ bound)

/-- A rollback is refused only when the entries of a block above the height are gone, and then
it changes nothing. -/
theorem rollbackTo (follows : Follows invariant e chain) (height : Nat) :
    (∃ txids after, e.rollbackTo height = (.ok txids, after) ∧
      Follows invariant after (chain.filter fun block => block.height ≤ height)) ∨
    ∃ missing, height < missing ∧ missing < e.nextHeight ∧ e.undoChain.get? missing = none ∧
      e.rollbackTo height = (.error (.reorgInconsistency
        s!"no undo log for block {missing} while rolling back to {height}"), e) := by
  rcases e.rollbackTo_cases height with ⟨outcome, low⟩ | ⟨tip, atTip, above, cases⟩
  · refine Or.inl ⟨[], e, outcome, ?_⟩
    rw [follows.filter_eq_self low]
    exact follows
  · have top := nextHeight_of_some atTip
    rcases cases with ⟨missing, high, low, gone, outcome⟩ | ⟨complete, outcome⟩
    · exact Or.inr ⟨missing, high, by omega, gone, outcome⟩
    · have after := follows.disconnectAbove height (tip.height - height) (by omega)
        fun h low high => complete h low (by omega)
      rw [after.verifySupply_eq_ok] at outcome
      exact Or.inl ⟨_, _, outcome, after⟩

/-- The supply check passes whether or not the rollback is refused. -/
theorem verifySupply_rollbackTo (follows : Follows invariant e chain) (height : Nat) :
    (e.rollbackTo height).2.verifySupply = .ok () := by
  rcases follows.rollbackTo height with ⟨_, _, outcome, below⟩ | ⟨_, _, _, _, outcome⟩
  · rw [outcome]
    exact below.verifySupply_eq_ok
  · rw [outcome]
    exact follows.verifySupply_eq_ok

end Follows
end Engine

/-! ## Sessions -/

namespace Session

variable {rules : Rules} {invariant : Engine.Invariant rules}

theorem run_concat (rules : Rules) (calls : List Call) (last : Call) :
    run rules (calls ++ [last]) = (run rules calls).call last :=
  List.foldl_append

theorem call_follows {session : Session} (next : Call)
    (follows : Engine.Follows invariant session.engine session.active)
    (allowed : invariant.allowed (session.call next).active) :
    Engine.Follows invariant (session.call next).engine (session.call next).active := by
  unfold call at allowed ⊢
  cases next with
  | apply block =>
      cases fits : session.engine.misfit? block with
      | some reason => simpa only [Engine.applyBlock, fits] using follows
      | none =>
          simp only [Engine.applyBlock, fits] at allowed ⊢
          exact follows.extend fits allowed
  | rollback height =>
      rcases follows.rollbackTo height with ⟨txids, after, outcome, below⟩ | ⟨_, _, _, _, outcome⟩
      · simpa only [outcome] using below
      · simpa only [outcome] using follows

/-- Along every run the engine follows the chain. -/
theorem run_follows (invariant : Engine.Invariant rules) (calls : List Call)
    (allowed : ∀ earlier, earlier <+: calls → invariant.allowed (run rules earlier).active) :
    Engine.Follows invariant (run rules calls).engine (run rules calls).active := by
  induction calls using List.reverseRecOn with
  | nil => exact Engine.Follows.fresh
  | append_singleton calls last ih =>
      have before := ih fun earlier within =>
        allowed earlier (within.trans (List.prefix_append calls [last]))
      have now := allowed (calls ++ [last]) (List.prefix_refl _)
      rw [run_concat] at now ⊢
      exact call_follows last before now

end Session
end TokenOverlay
