import TokenOverlay.Proofs.Replay
import TokenOverlay.Proofs.Window

namespace TokenOverlay

/-!
Records and the chain.  A record is never removed: the next confirmation of its
transaction overwrites it, and the loss of its block marks it.  So a record that
is not marked is of a transaction on the chain, and where no transaction is
confirmed twice the records of the chain are those that its replay makes,
whatever an abandoned branch has left behind.
-/

open Block (Linked tipOf confirmed)

/-! ## What holds of an engine and its chain -/

namespace Engine

theorem Remembers.disconnect {rules : Rules} {invariant : Invariant rules} {e : Engine}
    {block : Block} {older : List Block} (remembers : Remembers e (block :: older))
    (follows : Follows invariant e (block :: older)) (undo : BlockUndo) :
    Remembers (e.disconnect block.height undo) older := by
  apply remembers.mono (List.subset_cons_self block older)
  intro other member entry known
  have below := follows.linked.2.2.height_lt member
  rw [← follows.linked.1] at below
  change (e.undoChain.erase block.height).get? other.height = some entry at known
  rwa [SortedMap.get?_erase_of_ne e.undoChain (Nat.ne_of_lt below)] at known

/-- A property of an engine and its chain that blocks establish and that survives when the tip
block is taken back. -/
structure Tracked {rules : Rules} (invariant : Invariant rules) where
  holds : Engine → List Block → Prop
  fresh : holds (.fresh rules) []
  extend : ∀ (e : Engine) (block : Block) (chain : List Block), Follows invariant e chain →
    invariant.allowed (block :: chain) → e.misfit? block = none → holds e chain →
      holds (e.extend block).1 (block :: chain)
  disconnect : ∀ (e : Engine) (block : Block) (older : List Block) (undo : BlockUndo),
    Follows invariant e (block :: older) → Undoes undo block → holds e (block :: older) →
      holds (e.disconnect block.height undo) older

namespace Tracked

variable {rules : Rules} {invariant : Invariant rules} (tracked : Tracked invariant)

theorem disconnectAbove {e : Engine} {chain : List Block} (follows : Follows invariant e chain)
    (remembers : Remembers e chain) (held : tracked.holds e chain) (height count : Nat)
    (top : e.nextHeight = height + count + 1)
    (remembered : ∀ h, height < h → h ≤ height + count → (e.undoChain.get? h).isSome) :
    tracked.holds (e.disconnectAbove height count).1
      (chain.filter fun block => block.height ≤ height) := by
  induction count generalizing e chain with
  | zero =>
      rw [follows.nextHeight_eq] at top
      rw [follows.linked.filter_eq_self (Nat.le_of_eq top)]
      exact held
  | succ count ih =>
      have present := remembered (height + count + 1) (by omega) (by omega)
      rcases Option.isSome_iff_exists.mp present with ⟨undo, found⟩
      rw [follows.nextHeight_eq] at top
      cases chain with
      | nil =>
          have bounds := follows.within _ undo found
          exact absurd bounds.2 (Nat.not_lt.mpr bounds.1)
      | cons block older =>
          have here : block.height = height + count + 1 := by
            rw [follows.linked.1]
            rw [List.length_cons] at top
            omega
          have own := here ▸ found
          have less := follows.disconnect own
          have fewer := remembers.disconnect follows undo
          have kept := tracked.disconnect e block older undo follows
            (remembers block List.mem_cons_self undo own) held
          rw [here] at less fewer kept
          have above : ¬ block.height ≤ height := by omega
          simp only [Engine.disconnectAbove, found, List.filter_cons, above, decide_false,
            Bool.false_eq_true, if_false]
          refine ih less fewer kept ?_ ?_
          · rw [less.nextHeight_eq]
            rw [List.length_cons] at top
            omega
          · intro h low high
            change ((e.undoChain.erase (height + count + 1)).get? h).isSome
            rw [SortedMap.get?_erase_of_ne e.undoChain (by omega)]
            exact remembered h low (by omega)

theorem rollbackTo {e after : Engine} {chain : List Block} {txids : List String}
    (follows : Follows invariant e chain) (remembers : Remembers e chain)
    (held : tracked.holds e chain) {height : Nat}
    (run : e.rollbackTo height = (.ok txids, after)) :
    tracked.holds after (chain.filter fun block => block.height ≤ height) := by
  rcases e.rollbackTo_cases height with
    ⟨outcome, low⟩ | ⟨tip, atTip, above, ⟨_, _, _, _, outcome⟩ | ⟨complete, outcome⟩⟩
  · rw [run] at outcome
    cases outcome
    rw [follows.filter_eq_self low]
    exact held
  · rw [run] at outcome
    cases outcome
  · have top := nextHeight_of_some atTip
    have back := tracked.disconnectAbove follows remembers held height (tip.height - height)
      (by omega) fun h low high => complete h low (by omega)
    have same : after = (e.disconnectAbove height (tip.height - height)).1 :=
      congrArg Prod.snd (run.symm.trans outcome)
    rw [same]
    exact back

/-- What is tracked holds after any calls. -/
theorem run (calls : List Call)
    (allowed : ∀ earlier, earlier <+: calls →
      invariant.allowed (Session.run rules earlier).active) :
    tracked.holds (Session.run rules calls).engine (Session.run rules calls).active := by
  induction calls using List.reverseRecOn with
  | nil => exact tracked.fresh
  | append_singleton calls last ih =>
      have earlierAllowed := fun earlier within =>
        allowed earlier (List.IsPrefix.trans within (List.prefix_append calls [last]))
      have follows := Session.run_follows invariant calls earlierAllowed
      have held := ih earlierAllowed
      have now := allowed (calls ++ [last]) (List.prefix_refl _)
      rw [Session.run_concat] at now ⊢
      unfold Session.call at now ⊢
      cases last with
      | apply block =>
          cases fits : (Session.run rules calls).engine.misfit? block with
          | some reason => simpa only [applyBlock, fits] using held
          | none =>
              simp only [applyBlock, fits] at now ⊢
              exact tracked.extend _ block _ follows now fits held
      | rollback height =>
          rcases outcome : (Session.run rules calls).engine.rollbackTo height with
            ⟨reason | txids, after⟩
          · simp only [outcome]
            rw [follows.rollbackTo_error outcome]
            exact held
          · simp only [outcome]
            exact tracked.rollbackTo follows (Session.run_remembers rules calls) held outcome

end Tracked

/-! ## The records of a block -/

/-- What a record says about where its transaction stands is read off the block. -/
theorem processTransaction_opening (rules : Rules) (block : Block) (position : Nat) (tx : Tx)
    (journal : Journal) :
    ∃ valid reason payload details, (processTransaction rules block position tx journal).1 =
      { TxRecord.opening block position tx with
        valid := valid, invalidReason := reason, payload := payload, details := details } := by
  unfold processTransaction
  cases Message.decode tx.payload with
  | error reason => exact ⟨_, _, _, _, rfl⟩
  | ok m =>
      dsimp only
      rcases settle (Execute.message rules (contextOf block tx) m) journal with
        ⟨reason | details, after⟩ <;> exact ⟨_, _, _, _, rfl⟩

theorem mem_processFrom {rules : Rules} {block : Block} {transactions : List Tx} {position : Nat}
    {journal : Journal} {record : TxRecord}
    (member : record ∈ (processFrom rules block position journal transactions).1) :
    record.blockHeight = block.height ∧ record.blockHash = block.hash ∧
      ∃ i tx, record.position = position + i ∧ transactions[i]? = some tx ∧
        tx.txid = record.txid := by
  induction transactions generalizing position journal with
  | nil => cases member
  | cons tx rest ih =>
      rcases List.mem_cons.mp member with first | later
      · rcases processTransaction_opening rules block position tx journal with
          ⟨valid, reason, payload, details, same⟩
        rw [show record = _ from first.trans same]
        exact ⟨rfl, rfl, 0, tx, rfl, rfl, rfl⟩
      · rcases ih later with ⟨height, hash, i, other, place, found, named⟩
        refine ⟨height, hash, i + 1, other, ?_, found, named⟩
        rw [place]
        omega

/-- The latest record of a transaction is kept. -/
theorem get?_keepRecords {records : SortedMap String TxRecord} {news : List TxRecord}
    {txid : String} {record : TxRecord}
    (found : (keepRecords records news).get? txid = some record) :
    record ∈ news ∧ record.txid = txid ∨
      txid ∉ news.map TxRecord.txid ∧ records.get? txid = some record := by
  induction news generalizing records with
  | nil => exact Or.inr ⟨List.not_mem_nil, found⟩
  | cons first rest ih =>
      rcases @ih (records.insert first.txid first) found with ⟨later, named⟩ | ⟨rest, old⟩
      · exact Or.inl ⟨List.mem_cons_of_mem first later, named⟩
      · rw [SortedMap.get?_insert] at old
        split at old
        · next same =>
            cases old
            exact Or.inl ⟨List.mem_cons_self, same.symm⟩
        · next different =>
            refine Or.inr ⟨?_, old⟩
            rw [List.map_cons, List.mem_cons]
            exact fun member => member.elim different rest

/-- Records of other transactions are left alone. -/
theorem get?_keepRecords_of_notMem {news : List TxRecord} {txid : String}
    (other : txid ∉ news.map TxRecord.txid) (records : SortedMap String TxRecord) :
    (keepRecords records news).get? txid = records.get? txid := by
  induction news generalizing records with
  | nil => rfl
  | cons first rest ih =>
      rw [List.map_cons, List.mem_cons] at other
      refine (ih (fun later => other (Or.inr later)) (records.insert first.txid first)).trans ?_
      exact SortedMap.get?_insert_of_ne records first fun same => other (Or.inl same)

theorem get?_keepRecords_of_nodup {news : List TxRecord} (once : (news.map TxRecord.txid).Nodup)
    {record : TxRecord} (member : record ∈ news) (records : SortedMap String TxRecord) :
    (keepRecords records news).get? record.txid = some record := by
  induction news generalizing records with
  | nil => cases member
  | cons first rest ih =>
      rw [List.map_cons, List.nodup_cons] at once
      rcases List.mem_cons.mp member with rfl | later
      · refine (get?_keepRecords_of_notMem once.1 (records.insert record.txid record)).trans ?_
        exact SortedMap.get?_insert_self records record.txid record
      · exact ih once.2 later (records.insert first.txid first)

/-- The transactions of a lost block are marked, once or more often alike. -/
theorem get?_disconnectRecords (records : SortedMap String TxRecord) (txids : List String)
    (txid : String) :
    (txids.foldl disconnectRecord records).get? txid =
      if txid ∈ txids then (records.get? txid).map TxRecord.disconnected
      else records.get? txid := by
  have one : ∀ (records : SortedMap String TxRecord) (gone : String),
      (disconnectRecord records gone).get? txid =
        if txid = gone then (records.get? txid).map TxRecord.disconnected
        else records.get? txid := by
    intro records gone
    unfold disconnectRecord
    cases known : records.get? gone with
    | none =>
        dsimp only
        split
        · next same => rw [same, known, Option.map_none]
        · rfl
    | some record =>
        dsimp only
        rw [SortedMap.get?_insert]
        split
        · next same => rw [same, known, Option.map_some]
        · rfl
  have twice : TxRecord.disconnected ∘ TxRecord.disconnected = TxRecord.disconnected := rfl
  induction txids generalizing records with
  | nil => simp
  | cons gone rest ih =>
      rw [List.foldl_cons, ih, one]
      by_cases same : txid = gone <;> by_cases later : txid ∈ rest <;>
        simp only [same, later, twice, List.mem_cons, true_or, or_true, or_self, if_true, if_false,
          ite_self, Option.map_map]

/-- The records after the block of some transactions is taken back. -/
theorem get?_records_disconnect {e : Engine} {block : Block} {undo : BlockUndo}
    (undoes : Undoes undo block) (txid : String) :
    (e.disconnect block.height undo).records.get? txid =
      if txid ∈ block.transactions.map Tx.txid then
        (e.records.get? txid).map TxRecord.disconnected
      else e.records.get? txid := by
  change (undo.txids.reverse.foldl disconnectRecord e.records).get? txid = _
  rw [get?_disconnectRecords, undoes.txids]
  simp only [List.mem_reverse]

end Engine

/-! ## A record and the block it names -/

/-- The chain has a block at the height and with the hash of the record, and it holds the
transaction at the place of the record. -/
def TxRecord.OnChain (record : TxRecord) (chain : List Block) : Prop :=
  ∃ block ∈ chain, block.height = record.blockHeight ∧ block.hash = record.blockHash ∧
    ∃ tx, block.transactions[record.position]? = some tx ∧ tx.txid = record.txid

namespace Engine

variable {rules : Rules}

/-- Every record is of a transaction on the chain, or marked as having lost its block. -/
def PlacesRecords (e : Engine) (chain : List Block) : Prop :=
  ∀ txid record, e.records.get? txid = some record → record.txid = txid ∧
    (record.OnChain chain ∨
      record.valid = false ∧ record.invalidReason = some TxRecord.reorganized)

/-- A block brings records of its own transactions, and those that it loses are marked. -/
def placing (rules : Rules) : Tracked (booksOnly rules) where
  holds := PlacesRecords
  fresh := by
    intro txid record found
    cases found
  extend := by
    intro e block chain _ _ _ placed txid record found
    rcases get?_keepRecords found with ⟨new, named⟩ | ⟨_, old⟩
    · rcases mem_processFrom new with ⟨height, hash, i, tx, place, holding, same⟩
      rw [Nat.zero_add] at place
      refine ⟨named, Or.inl ⟨block, List.mem_cons_self, height.symm, hash.symm, tx, ?_, same⟩⟩
      rw [place]
      exact holding
    · rcases placed txid record old with ⟨named, ⟨other, member, standing⟩ | marked⟩
      · exact ⟨named, Or.inl ⟨other, List.mem_cons_of_mem block member, standing⟩⟩
      · exact ⟨named, Or.inr marked⟩
  disconnect := by
    intro e block older undo _ undoes placed txid record found
    rw [get?_records_disconnect undoes] at found
    split at found
    · rcases Option.map_eq_some_iff.mp found with ⟨before, known, rfl⟩
      exact ⟨(placed txid before known).1, Or.inr ⟨rfl, rfl⟩⟩
    · next elsewhere =>
        rcases placed txid record found with
          ⟨named, ⟨other, member, height, hash, tx, holding, same⟩ | marked⟩
        · refine ⟨named, Or.inl ⟨other, ?_, height, hash, tx, holding, same⟩⟩
          rcases List.mem_cons.mp member with rfl | earlier
          · refine absurd ?_ elsewhere
            rw [← named, ← same]
            exact List.mem_map_of_mem (List.mem_of_getElem? holding)
          · exact earlier
        · exact ⟨named, Or.inr marked⟩

/-! ## The records of a replay -/

/-- The records of the transactions of a chain are those that processing its blocks one after
the other makes. -/
def Recorded (rules : Rules) (records : SortedMap String TxRecord) : List Block → Prop
  | [] => True
  | block :: older =>
      (∀ record ∈ (processBlock rules (replayState rules older) block).1,
        records.get? record.txid = some record) ∧ Recorded rules records older

theorem txids_processBlock (rules : Rules) (s : State) (block : Block) :
    (processBlock rules s block).1.map TxRecord.txid = block.transactions.map Tx.txid :=
  txids_processFrom rules block block.transactions 0 _

namespace Recorded

variable {records others : SortedMap String TxRecord} {chain : List Block}

/-- Only the records of the transactions of the chain matter. -/
theorem congr (recorded : Recorded rules records chain)
    (same : ∀ txid ∈ confirmed chain, others.get? txid = records.get? txid) :
    Recorded rules others chain := by
  induction chain with
  | nil => trivial
  | cons block older ih =>
      rw [confirmed, List.flatMap_cons] at same
      refine ⟨fun record member => ?_,
        ih recorded.2 fun txid later => same txid (List.mem_append_right _ later)⟩
      have own : record.txid ∈ block.transactions.map Tx.txid := by
        rw [← txids_processBlock rules (replayState rules older)]
        exact List.mem_map_of_mem member
      rw [same record.txid (List.mem_append_left _ own)]
      exact recorded.1 record member

/-- The records of one more block join those of its chain. -/
theorem extend (recorded : Recorded rules records chain) {block : Block}
    (once : (confirmed (block :: chain)).Nodup) :
    Recorded rules (keepRecords records (processBlock rules (replayState rules chain) block).1)
      (block :: chain) := by
  rw [confirmed, List.flatMap_cons, List.nodup_append] at once
  have listed := txids_processBlock rules (replayState rules chain) block
  constructor
  · intro record member
    refine get?_keepRecords_of_nodup ?_ member records
    rw [listed]
    exact once.1
  · refine recorded.congr fun txid earlier => get?_keepRecords_of_notMem ?_ records
    rw [listed]
    exact fun again => once.2.2 txid again txid earlier rfl

/-- Two tables with the records of one chain have the same record of each of its transactions. -/
theorem agree (first : Recorded rules records chain) (second : Recorded rules others chain)
    {block : Block} (member : block ∈ chain) {tx : Tx} (holding : tx ∈ block.transactions) :
    ∃ record, records.get? tx.txid = some record ∧ others.get? tx.txid = some record := by
  induction chain with
  | nil => cases member
  | cons newest older ih =>
      rcases List.mem_cons.mp member with rfl | earlier
      · have listed : tx.txid ∈
            (processBlock rules (replayState rules older) block).1.map TxRecord.txid := by
          rw [txids_processBlock]
          exact List.mem_map_of_mem holding
        rcases List.mem_map.mp listed with ⟨record, made, named⟩
        rw [← named]
        exact ⟨record, first.1 record made, second.1 record made⟩
      · exact ih first.2 second.2 earlier

end Recorded

/-- The replay of a chain has its records. -/
theorem recorded_replay {chain : List Block} (linked : Linked rules.params.genesisBlock chain)
    (once : (confirmed chain).Nodup) {again : Engine}
    (accepted : replay rules chain.reverse = .ok again) : Recorded rules again.records chain := by
  induction chain generalizing again with
  | nil => trivial
  | cons block older ih =>
      rcases replay_of_linked linked.2.2 with ⟨before, acceptedBefore, sameRules, state, tip⟩
      have onceBefore : (confirmed older).Nodup := by
        rw [confirmed, List.flatMap_cons, List.nodup_append] at once
        exact once.2.1
      have fits := fits_of_linked sameRules tip linked
      have step : replay rules (block :: older).reverse = .ok (before.extend block).1 := by
        unfold replay at acceptedBefore ⊢
        rw [List.reverse_cons, List.foldlM_append, acceptedBefore]
        change Prod.fst <$> before.applyBlock block >>= pure = _
        rw [applyBlock, fits]
        rfl
      rw [step] at accepted
      cases accepted
      change Recorded rules (keepRecords before.records
        (processBlock before.rules before.state block).1) (block :: older)
      rw [sameRules, state]
      exact (ih linked.2.2 onceBefore acceptedBefore).extend once

/-- The records of the chain are those of its replay, as long as no transaction is confirmed
twice. -/
def recording (rules : Rules) : Tracked (replayInvariant rules) where
  holds e chain := (confirmed chain).Nodup ∧ Recorded rules e.records chain
  fresh := ⟨List.nodup_nil, trivial⟩
  extend := by
    rintro e block chain follows once _ ⟨_, recorded⟩
    refine ⟨once, ?_⟩
    change Recorded rules (keepRecords e.records (processBlock e.rules e.state block).1) _
    rw [follows.sameRules, follows.unwinds.holds.1]
    exact recorded.extend once
  disconnect := by
    rintro e block older undo _ undoes ⟨once, recorded⟩
    rw [confirmed, List.flatMap_cons, List.nodup_append] at once
    refine ⟨once.2.1, recorded.2.congr fun txid earlier => ?_⟩
    rw [get?_records_disconnect undoes, if_neg]
    exact fun lost => once.2.2 txid lost txid earlier rfl

end Engine

/-! ## Runs -/

namespace Session

/-- After any calls, a valid record is of a transaction that the chain holds where the record
says, and a record whose block is not on the chain is invalid, with the reorganization as its
reason.  As long as no transaction was ever confirmed twice, each transaction on the chain has
the record that the replay of the chain makes of it. -/
theorem run_places_records (rules : Rules) (calls : List Call) :
    (∀ txid record, (run rules calls).engine.record? txid = some record → record.valid = true →
      ∃ block ∈ (run rules calls).active, block.height = record.blockHeight ∧
        (∀ other ∈ (run rules calls).active, other.height = record.blockHeight → other = block) ∧
        block.hash = record.blockHash ∧
        ∃ tx, block.transactions[record.position]? = some tx ∧ tx.txid = txid) ∧
    (∀ txid record, (run rules calls).engine.record? txid = some record →
      (∀ block ∈ (run rules calls).active,
        ¬ (block.height = record.blockHeight ∧ block.hash = record.blockHash)) →
      record.valid = false ∧ record.invalidReason = some "Block was reorganized") ∧
    (ConfirmedOnce rules calls →
      ∃ again, Engine.replay rules (run rules calls).active.reverse = .ok again ∧
        ∀ block ∈ (run rules calls).active, ∀ tx ∈ block.transactions, ∃ record,
          (run rules calls).engine.record? tx.txid = some record ∧
          again.record? tx.txid = some record) := by
  have linked := (run_follows_books rules calls).linked
  have placed := (Engine.placing rules).run calls fun _ _ => trivial
  refine ⟨?_, ?_, ?_⟩
  · intro txid record found valid
    rcases placed txid record found with
      ⟨named, ⟨block, member, height, hash, tx, holding, same⟩ | ⟨invalid, _⟩⟩
    · refine ⟨block, member, height, fun other listed level => ?_, hash, tx, holding,
        same.trans named⟩
      exact linked.eq_of_height member listed (level.trans height.symm)
    · rw [valid] at invalid
      cases invalid
  · intro txid record found abandoned
    rcases placed txid record found with ⟨_, ⟨block, member, height, hash, _⟩ | marked⟩
    · exact absurd ⟨height, hash⟩ (abandoned block member)
    · exact marked
  · intro once
    have mine := (Engine.recording rules).run calls once
    rcases Engine.replay_of_linked linked with ⟨again, accepted, _⟩
    have theirs := Engine.recorded_replay linked mine.1 accepted
    exact ⟨again, accepted, fun block member tx holding => mine.2.agree theirs member holding⟩

/-- The record that the abandoned block left of the distribution is overwritten by the one of
the block that confirms it again. -/
theorem run_places_records_reorganization :
    ConfirmedOnce twoOwners reorganization ∧
    (∃ record, (run twoOwners reorganization).engine.record? "t" = some record ∧
      record.valid = true ∧ record.blockHash = "z" ∧
      ∃ block ∈ (run twoOwners reorganization).active, block.height = record.blockHeight ∧
        block.hash = record.blockHash) ∧
    ∃ again, Engine.replay twoOwners (run twoOwners reorganization).active.reverse = .ok again ∧
      ∀ block ∈ (run twoOwners reorganization).active, ∀ tx ∈ block.transactions, ∃ record,
        (run twoOwners reorganization).engine.record? tx.txid = some record ∧
        again.record? tx.txid = some record := by
  have once : ConfirmedOnce twoOwners reorganization := by decide +kernel
  have placed := run_places_records twoOwners reorganization
  have confirmedAgain : ((run twoOwners reorganization).engine.record? "t").map
      (fun record => (record.valid, record.blockHash)) = some (true, "z") := by
    decide +kernel
  rcases Option.map_eq_some_iff.mp confirmedAgain with ⟨record, found, shown⟩
  have valid : record.valid = true := congrArg Prod.fst shown
  rcases placed.1 "t" record found valid with ⟨block, member, height, _, hash, _⟩
  exact ⟨once, ⟨record, found, valid, congrArg Prod.snd shown, block, member, height, hash⟩,
    placed.2.2 once⟩

end Session
end TokenOverlay
