import TokenOverlay.Proofs.Numbering
import TokenOverlay.Proofs.Retention

namespace TokenOverlay

/-!
The numbers that messages, blocks and runs give out.  An accepted message
reports the number of the property that it issues, and so the records of a block
list the numbers that are new after it.  The undo entries of the block name the
same ones, which a rollback makes free again.
-/

open Attempt TokenOverlay.Action

/-! ## Messages -/

namespace State

variable {s after : State} {id : PropertyId} {amount : Int}

theorem Gains.issues {p : Property} (gains : s.Gains p after) : s.Issues [p.id] after where
  free := by
    intro id member
    rw [List.mem_singleton.mp member, Registry.exists?_eq, gains.free]
    rfl
  registered := by
    intro id
    rw [Registry.exists?_eq, Registry.exists?_eq, List.mem_singleton]
    by_cases same : id = p.id
    · simp [same, gains.registered]
    · simp [same, gains.others id same]

theorem Resupplied.issues (supplied : s.Resupplied id amount after) : s.Issues [] after :=
  .of_same supplied.grown.exists?

theorem Aside.issues (aside : s.Aside after) : s.Issues [] after :=
  .of_same fun id => congrArg (Registry.exists? · id) aside.registry

end State

namespace Execute

/-- What a message says about what it has issued, by its kind. -/
def Reports (s : State) (details : TxDetails) (after : State) : Payload → Prop
  | .issueFixed .. => s.Issues details.createdProperty.toList after
  | .issueManaged _ => s.Issues details.createdProperty.toList after
  | .issueCrowdsale .. => s.Issues details.createdProperty.toList after
  | _ => details.createdProperty = none

section

variable (rules : Rules) (tx : TxContext) {journal : Journal}

theorem contribute_reports (sale : Crowdsale) (property : PropertyId) (amount : Int) :
    (contribute rules tx sale property amount).Does
      (fun details _ => details.createdProperty = none) journal := by
  refine .ending fun sold _ => .ending fun s _ => yields_ite.mpr ⟨fun _ => rfl, fun _ => ?_⟩
  exact Does.ending fun _ _ => .ending fun _ _ => .ending fun _ _ => rfl

theorem simpleSend_reports (property : PropertyId) (raw : UInt64) :
    (simpleSend rules tx property raw).Does
      (fun details _ => details.createdProperty = none) journal := by
  refine .ending fun amount _ => .ending fun _ _ => .ending fun recipient _ => ?_
  refine .ending fun _ _ => .ending fun _ _ => .ending fun s _ => ?_
  split
  · exact contribute_reports rules tx _ property amount
  · rfl

theorem sendToOwners_reports (property : PropertyId) (raw : UInt64)
    (distribution : Option PropertyId) :
    (sendToOwners rules tx property raw distribution).Does
      (fun details _ => details.createdProperty = none) journal := by
  refine .ending fun _ _ => .ending fun _ _ => .ending fun _ _ => .ending fun _ _ => ?_
  refine .ending fun _ _ => .ending fun _ _ => .ending fun _ _ => .ending fun _ _ => ?_
  exact .ending fun _ _ => .ending fun _ _ => .ending fun _ _ => .ending fun _ _ =>
    .ending fun _ _ => rfl

theorem sendAll_reports (byte : UInt8) :
    (sendAll tx byte).Does (fun details _ => details.createdProperty = none) journal :=
  .ending fun _ _ => .ending fun _ _ => .ending fun _ _ => .ending fun _ _ => .ending fun _ _ => rfl

theorem sellOffer_reports (property : PropertyId) (amount desired : UInt64) (timeLimit : UInt8)
    (minFee : UInt64) (action : OfferAction) :
    (sellOffer tx property amount desired timeLimit minFee action).Does
      (fun details _ => details.createdProperty = none) journal := by
  refine .ending fun _ _ => .ending fun _ _ => ?_
  cases action with
  | new => exact .ending fun _ _ => .ending fun _ _ => rfl
  | update => exact .ending fun _ _ => .ending fun _ _ => rfl
  | cancel => exact .ending fun _ _ => rfl

theorem issue_issues (numbered : journal.state.registry.Numbered) (request : IssueRequest) :
    (Registry.issue request).Does (fun id after => journal.state.Issues [id] after.state)
      journal :=
  (Registry.issue_does numbered request).mono fun _ _ issued => issued.2.issues

/-- In a state whose numbers are in order, every message reports what it has issued. -/
theorem payload_reports (numbered : journal.state.registry.Numbered) (p : Payload) :
    (payload rules tx p).Does
      (fun details after => Reports journal.state details after.state p) journal := by
  cases p with
  | simpleSend property amount => exact simpleSend_reports rules tx property amount
  | sendToOwners property amount distribution =>
      exact sendToOwners_reports rules tx property amount distribution
  | sendAll ecosystem => exact sendAll_reports tx ecosystem
  | sellOffer property amount desired timeLimit minFee action =>
      exact sellOffer_reports tx property amount desired timeLimit minFee action
  | acceptOffer property amount =>
      exact .ending fun _ _ => .ending fun _ _ => .ending fun _ _ => .ending fun _ _ => rfl
  | issueFixed issuance amount =>
      refine .reading (readsOnly_checkIssuance issuance) fun _ _ => ?_
      refine .reading (readsOnly_amountOf amount) fun _ _ => ?_
      exact (issue_issues numbered _).bind fun _ _ issued => issued
  | issueCrowdsale issuance desired rate deadline earlyBonus issuerPercent =>
      refine .reading (readsOnly_checkIssuance issuance) fun _ _ => ?_
      refine .reading (Registry.readsOnly_lookup desired) fun _ _ => ?_
      refine .reading (.guard _ _) fun _ _ => .reading (readsOnly_amountOf rate) fun _ _ => ?_
      refine .reading (.guard _ _) fun _ _ => .reading .state fun _ _ => ?_
      refine .reading (.guard _ _) fun _ _ => (issue_issues numbered _).bind ?_
      intro id between issued
      rw [CrowdsaleBook.create, bind_assoc]
      refine .reading .state fun _ _ => ?_
      rw [bind_assoc]
      refine .reading (.guard _ _) fun _ _ => yields_bind.mpr (yields_edit.mpr ?_)
      exact ⟨issued.free, issued.registered⟩
  | closeCrowdsale property => exact .ending fun _ _ => .ending fun _ _ => rfl
  | issueManaged issuance =>
      refine .reading (readsOnly_checkIssuance issuance) fun _ _ => ?_
      exact (issue_issues numbered _).bind fun _ _ issued => issued
  | grant property amount memo => exact .ending fun _ _ => .ending fun _ _ => rfl
  | revoke property amount memo => exact .ending fun _ _ => .ending fun _ _ => rfl
  | deactivate id => exact .ending fun _ _ => .ending fun _ _ => rfl
  | activate id target clientVersion => exact .ending fun _ _ => .ending fun _ _ => rfl

theorem Deed.issues {rules : Rules} {tx : TxContext} {s after : State} {details : TxDetails}
    {payload : Payload} (deed : Deed rules tx s details after payload)
    (reports : Reports s details after payload) :
    s.Issues details.createdProperty.toList after := by
  have silent : details.createdProperty = none → s.Issues [] after →
      s.Issues details.createdProperty.toList after := by
    intro none issues
    rw [none]
    exact issues
  cases payload with
  | simpleSend property raw =>
      refine silent reports ?_
      rcases deed with aside | ⟨sale, sold, quote, p, sells⟩
      · exact aside.issues
      · exact .of_same sells.grown.exists?
  | sendToOwners property raw distribution =>
      rcases deed with ⟨_, _, _, _, supplied⟩
      exact silent reports supplied.issues
  | sendAll ecosystem => exact silent reports (State.Aside.issues deed)
  | sellOffer property amount desired timeLimit minFee action =>
      exact silent reports (State.Aside.issues deed)
  | acceptOffer property raw => exact silent reports (State.Aside.issues deed)
  | issueFixed issuance raw => exact reports
  | issueCrowdsale issuance desired rate deadline earlyBonus issuerPercent => exact reports
  | closeCrowdsale property =>
      rcases deed with ⟨_, _, _, _, rfl⟩
      exact silent reports (.of_same fun _ => rfl)
  | issueManaged issuance => exact reports
  | grant property raw memo =>
      rcases deed with ⟨_, _, _, _, supplied⟩
      exact silent reports supplied.issues
  | revoke property raw memo =>
      rcases deed with ⟨_, _, _, _, supplied⟩
      exact silent reports supplied.issues
  | deactivate id =>
      rcases deed with ⟨_, rfl⟩
      exact silent reports (.of_same fun _ => rfl)
  | activate id target version =>
      rcases deed with ⟨_, _, change⟩
      refine silent reports ?_
      split at change
      · rw [change]
        exact .of_same fun _ => rfl
      · rcases change with ⟨name, rfl⟩
        exact .of_same fun _ => rfl

/-- An accepted message gives out the number that it reports, if it reports one. -/
theorem message_issues (sound : journal.state.Sound) (trading : journal.state.Trading)
    (m : Message) :
    (message rules tx m).Does
      (fun details after => journal.state.Issues details.createdProperty.toList after.state)
      journal := by
  have reported : (message rules tx m).Does
      (fun details after => Reports journal.state details after.state m.payload) journal :=
    .reading (.guard _ _) fun _ _ => payload_reports rules tx sound.canonical.registry m.payload
  exact ((message_does rules tx sound trading m).and reported).mono
    fun _ _ both => both.1.issues both.2

end

end Execute

/-! ## Blocks -/

/-- The number that a valid record says was given out. -/
def TxRecord.issued (record : TxRecord) : List PropertyId :=
  if record.valid then record.details.createdProperty.toList else []

namespace Engine

variable (rules : Rules) (block : Block)

/-- The numbers that a block gives out: those that its valid transactions report. -/
def issued (s : State) : List PropertyId :=
  (processBlock rules s block).1.flatMap TxRecord.issued

theorem processTransaction_issues (position : Nat) (tx : Tx) {journal : Journal}
    (sound : journal.state.Sound) (trading : journal.state.Trading) :
    journal.state.Issues (processTransaction rules block position tx journal).1.issued
      (processTransaction rules block position tx journal).2.state := by
  rcases processTransaction_outcome rules block position tx sound.canonical with
    ⟨invalid, same⟩ | ⟨m, details, after, _, run, outcome⟩
  · rw [same, TxRecord.issued, invalid]
    exact .of_same fun _ => rfl
  · have start : (Journal.start journal.state).state.Sound := sound
    have issues := (Execute.message_issues rules (contextOf block tx) start trading m).of_ok run
    rw [outcome]
    exact issues

theorem processFrom_issues (transactions : List Tx) (position : Nat) {journal : Journal}
    (sound : journal.state.Sound) (trading : journal.state.Trading) :
    journal.state.Issues
      ((processFrom rules block position journal transactions).1.flatMap TxRecord.issued)
      (processFrom rules block position journal transactions).2.state := by
  induction transactions generalizing position journal with
  | nil => exact .of_same fun _ => rfl
  | cons tx rest ih =>
      have first := processTransaction_issues rules block position tx sound trading
      have later := ih (position + 1) (processTransaction_sound rules block position tx sound)
        ((Engine.trading rules).processTransaction block position tx sound trading)
      refine first.trans later fun id => ?_
      simp [processFrom]

/-- The numbers that the records of a block list are those that are new after it. -/
theorem processBlock_issues {s : State} (regular : s.Regular) :
    s.Issues (issued rules block s) (processBlock rules s block).2.state := by
  have opened := (Engine.orderly rules).prelude block s regular.sound
    ⟨regular.trading, regular.keyed⟩
  have later := processFrom_issues rules block block.transactions 0
    (prelude_sound block regular.sound) opened.1
  refine State.Issues.trans (.of_same fun id => ?_) later fun id => ?_
  · exact congrArg (Registry.exists? · id) (prelude_does regular block).registry
  · simp [issued, processBlock]

theorem processTransaction_frees {s : State} (position : Nat) (tx : Tx) {journal : Journal}
    (sound : journal.state.Sound)
    (issues : s.Issues (UndoEntry.freed journal.entries) journal.state) :
    s.Issues
      (UndoEntry.freed (processTransaction rules block position tx journal).2.entries)
      (processTransaction rules block position tx journal).2.state := by
  rcases processTransaction_cases rules block position tx sound.canonical with
    ⟨_, same⟩ | ⟨m, details, after, run, _, grown⟩
  · rw [same]
    exact issues
  · have commits := (Journal.message_yields rules (contextOf block tx) m
      (.start journal.state)).of_ok run
    rw [grown, UndoEntry.freed_append]
    refine issues.trans (commits.issues sound.canonical) fun id => ?_
    rw [List.mem_append, or_comm]

theorem processFrom_frees {s : State} (transactions : List Tx) (position : Nat)
    {journal : Journal} (sound : journal.state.Sound)
    (issues : s.Issues (UndoEntry.freed journal.entries) journal.state) :
    s.Issues (UndoEntry.freed (processFrom rules block position journal transactions).2.entries)
      (processFrom rules block position journal transactions).2.state := by
  induction transactions generalizing position journal with
  | nil => exact issues
  | cons tx rest ih =>
      exact ih (position + 1) (processTransaction_sound rules block position tx sound)
        (processTransaction_frees rules block position tx sound issues)

/-- The undo entries of a block name the numbers that its records list. -/
theorem mem_freed_processBlock {s : State} (regular : s.Regular) (id : PropertyId) :
    id ∈ UndoEntry.freed (processBlock rules s block).2.entries ↔ id ∈ issued rules block s := by
  have opening := (prelude_extends block s).issues regular.sound.canonical
  have frees := processFrom_frees rules block block.transactions 0
    (prelude_sound block regular.sound) opening
  exact (frees.mem_iff id).trans ((processBlock_issues rules block regular).mem_iff id).symm

/-! ## Going back -/

/-- Blocks that are taken back free the numbers that their undo entries name. -/
theorem exists?_disconnectAbove (e : Engine) (height count : Nat)
    (remembered : ∀ h, height < h → h ≤ height + count → (e.undoChain.get? h).isSome)
    (id : PropertyId) :
    (e.disconnectAbove height count).1.state.registry.exists? id = true ↔
      e.state.registry.exists? id = true ∧ ∀ h undo, height < h → h ≤ height + count →
        e.undoChain.get? h = some undo → id ∉ UndoEntry.freed undo.entries := by
  induction count generalizing e with
  | zero =>
      refine ⟨fun known => ⟨known, fun h undo above below => ?_⟩, fun known => known.1⟩
      omega
  | succ count ih =>
      rcases Option.isSome_iff_exists.mp (remembered (height + count + 1) (by omega) (by omega))
        with ⟨newest, found⟩
      have older : ∀ h, h ≤ height + count →
          (e.undoChain.erase (height + count + 1)).get? h = e.undoChain.get? h := by
        intro h below
        exact SortedMap.get?_erase_of_ne e.undoChain (by omega)
      have rest := ih (e.disconnect (height + count + 1) newest) fun h above below => by
        change ((e.undoChain.erase (height + count + 1)).get? h).isSome
        rw [older h below]
        exact remembered h above (by omega)
      simp only [disconnectAbove, found]
      rw [rest]
      change (e.state.revertAll newest.entries).registry.exists? id = true ∧
        (∀ h undo, _ → _ → (e.undoChain.erase (height + count + 1)).get? h = _ → _) ↔ _
      rw [State.exists?_revertAll, and_assoc]
      refine and_congr_right fun _ => ⟨?_, ?_⟩
      · rintro ⟨notHere, notBelow⟩ h undo above below known
        by_cases top : h = height + count + 1
        · rw [top, found] at known
          cases known
          exact notHere
        · refine notBelow h undo above (by omega) ?_
          rw [older h (by omega)]
          exact known
      · intro nowhere
        refine ⟨nowhere _ newest (by omega) (by omega) found, fun h undo above below known => ?_⟩
        rw [older h below] at known
        exact nowhere h undo above (by omega) known

end Engine

/-! ## Runs -/

namespace Session

/-- What a call does to the list of the blocks on the chain, each with the numbers that it gave
out. -/
def noted (session : Session) (issuances : List (Block × List PropertyId)) :
    Call → List (Block × List PropertyId)
  | .apply block =>
      match session.engine.applyBlock block with
      | .ok _ =>
          (block, Engine.issued session.engine.rules block session.engine.state) :: issuances
      | .error _ => issuances
  | .rollback height =>
      match session.engine.rollbackTo height with
      | (.ok _, _) => issuances.filter fun entry => entry.1.height ≤ height
      | (.error _, _) => issuances

def issuancesFrom (session : Session) (issuances : List (Block × List PropertyId)) :
    List Call → List (Block × List PropertyId)
  | [] => issuances
  | next :: rest => (session.call next).issuancesFrom (session.noted issuances next) rest

/-- The blocks on the chain after some calls, newest first, each with the numbers that it gave
out when it was applied. -/
def issuances (rules : Rules) (calls : List Call) : List (Block × List PropertyId) :=
  (fresh rules).issuancesFrom [] calls

theorem issuances_concat (rules : Rules) (calls : List Call) (last : Call) :
    issuances rules (calls ++ [last]) = (run rules calls).noted (issuances rules calls) last := by
  unfold issuances run
  generalize fresh rules = session
  generalize ([] : List (Block × List PropertyId)) = known
  induction calls generalizing session known with
  | nil => rfl
  | cons next rest ih =>
      rw [List.cons_append, issuancesFrom, issuancesFrom, ih, List.foldl_cons]

/-- How an engine accounts for what the blocks on its chain gave out. -/
structure Accounts (session : Session) (issuances : List (Block × List PropertyId)) : Prop where
  blocks : issuances.map Prod.fst = session.active
  undone : ∀ entry ∈ issuances, ∀ undo,
    session.engine.undoChain.get? entry.1.height = some undo →
      ∀ id, id ∈ UndoEntry.freed undo.entries ↔ id ∈ entry.2
  registered : ∀ entry ∈ issuances, ∀ id ∈ entry.2,
    session.engine.state.registry.exists? id = true
  apart : ∀ entry ∈ issuances, ∀ other ∈ issuances, entry ≠ other →
    ∀ id ∈ entry.2, id ∉ other.2

namespace Accounts

variable {rules : Rules} {session : Session} {issuances : List (Block × List PropertyId)}
  (accounts : Accounts session issuances)

theorem fresh (rules : Rules) : Accounts (fresh rules) [] where
  blocks := rfl
  undone := fun _ impossible => absurd impossible List.not_mem_nil
  registered := fun _ impossible => absurd impossible List.not_mem_nil
  apart := fun _ impossible => absurd impossible List.not_mem_nil

include accounts

theorem mem_active {entry : Block × List PropertyId} (member : entry ∈ issuances) :
    entry.1 ∈ session.active :=
  accounts.blocks ▸ List.mem_map_of_mem member

/-- The numbers that a block gives out are new to all blocks before it. -/
theorem extend (linked : Block.Linked rules.params.genesisBlock (block :: session.active))
    (regular : session.engine.state.Regular) :
    Accounts ⟨(session.engine.extend block).1, block :: session.active⟩
      ((block, Engine.issued session.engine.rules block session.engine.state) ::
        issuances) := by
  have issues := Engine.processBlock_issues session.engine.rules block regular
  constructor
  · exact congrArg (List.cons block) accounts.blocks
  · intro entry member undo found
    rw [Engine.get?_undoChain_extend] at found
    split at found
    · rcases List.mem_cons.mp member with rfl | older
      · rw [if_pos rfl] at found
        cases found
        exact Engine.mem_freed_processBlock session.engine.rules block regular
      · have below := linked.2.2.height_lt (accounts.mem_active older)
        rw [← linked.1] at below
        rw [if_neg (Nat.ne_of_lt below)] at found
        exact accounts.undone entry older undo found
    · cases found
  · intro entry member id listed
    refine (issues.registered id).mpr ?_
    rcases List.mem_cons.mp member with rfl | older
    · exact Or.inr listed
    · exact Or.inl (accounts.registered entry older id listed)
  · -- All that older blocks gave out is still registered, so it cannot be given out again.
    have unknown : ∀ older ∈ issuances, ∀ id ∈ older.2,
        id ∉ Engine.issued session.engine.rules block session.engine.state := by
      intro older member id old new
      have free := issues.free id new
      rw [accounts.registered older member id old] at free
      cases free
    intro entry member other listed different id mine theirs
    rcases List.mem_cons.mp member with rfl | old
    · rcases List.mem_cons.mp listed with rfl | older
      · exact different rfl
      · exact unknown other older id theirs mine
    · rcases List.mem_cons.mp listed with rfl | older
      · exact unknown entry old id mine theirs
      · exact accounts.apart entry old other older different id mine theirs

/-- A rollback frees the numbers that the blocks above its height gave out. -/
theorem exists?_rollbackTo {invariant : Engine.Invariant rules}
    (follows : Engine.Follows invariant session.engine session.active) {height : Nat}
    {txids : List String} {after : Engine}
    (run : session.engine.rollbackTo height = (.ok txids, after)) (id : PropertyId) :
    after.state.registry.exists? id = true ↔
      session.engine.state.registry.exists? id = true ∧
        ∀ entry ∈ issuances, height < entry.1.height → id ∉ entry.2 := by
  rcases session.engine.rollbackTo_cases height with
    ⟨outcome, low⟩ | ⟨tip, atTip, above, ⟨_, _, _, _, outcome⟩ | ⟨complete, outcome⟩⟩
  · rw [run] at outcome
    cases outcome
    have all := List.filter_eq_self.mp (follows.filter_eq_self low)
    refine ⟨fun known => ⟨known, fun entry member high => ?_⟩, fun known => known.1⟩
    have bound := of_decide_eq_true (all entry.1 (accounts.mem_active member))
    omega
  · rw [run] at outcome
    cases outcome
  · have top := Engine.nextHeight_of_some atTip
    rw [follows.nextHeight_eq] at top
    rw [run] at outcome
    have left := congrArg Prod.snd outcome
    dsimp only at left
    rw [left, session.engine.exists?_disconnectAbove height (tip.height - height)
      (fun h low high => complete h low (by omega)) id]
    refine and_congr_right fun _ => ⟨?_, ?_⟩
    · intro nowhere entry member high listed
      have below := follows.linked.height_lt (accounts.mem_active member)
      rcases Option.isSome_iff_exists.mp (complete entry.1.height high (by omega)) with
        ⟨undo, found⟩
      exact nowhere _ undo high (by omega) found
        ((accounts.undone entry member undo found id).mpr listed)
    · intro nowhere h undo high _ found named
      have bounds := follows.within h undo found
      rcases follows.linked.exists_height bounds.1 bounds.2 with ⟨block, active, rfl⟩
      rw [← accounts.blocks] at active
      rcases List.mem_map.mp active with ⟨entry, member, rfl⟩
      exact nowhere entry member high ((accounts.undone entry member undo found id).mp named)

/-- What was registered before a rollback and is not any more was given out above its height. -/
theorem freed_rollbackTo {invariant : Engine.Invariant rules}
    (follows : Engine.Follows invariant session.engine session.active) {height : Nat}
    {txids : List String} {after : Engine}
    (run : session.engine.rollbackTo height = (.ok txids, after)) (id : PropertyId) :
    session.engine.state.registry.exists? id = true ∧
        after.state.registry.exists? id = false ↔
      ∃ entry ∈ issuances, height < entry.1.height ∧ id ∈ entry.2 := by
  rw [← Bool.not_eq_true, accounts.exists?_rollbackTo follows run id]
  constructor
  · rintro ⟨known, lost⟩
    by_contra none
    exact lost ⟨known, fun entry member high listed => none ⟨entry, member, high, listed⟩⟩
  · rintro ⟨entry, member, high, listed⟩
    exact ⟨accounts.registered entry member id listed,
      fun kept => kept.2 entry member high listed⟩

theorem rollbackTo {invariant : Engine.Invariant rules}
    (follows : Engine.Follows invariant session.engine session.active) {height : Nat}
    {txids : List String} {after : Engine}
    (run : session.engine.rollbackTo height = (.ok txids, after)) :
    Accounts ⟨after, session.active.filter fun block => block.height ≤ height⟩
      (issuances.filter fun entry => entry.1.height ≤ height) := by
  have below : ∀ entry ∈ issuances.filter fun entry => entry.1.height ≤ height,
      entry ∈ issuances ∧ entry.1.height ≤ height := by
    intro entry member
    exact ⟨(List.mem_filter.mp member).1, of_decide_eq_true (List.mem_filter.mp member).2⟩
  constructor
  · change _ = session.active.filter _
    rw [← accounts.blocks, List.filter_map]
    rfl
  · intro entry member undo found
    rcases below entry member with ⟨old, low⟩
    have kept := session.engine.get?_undoChain_rollbackTo low
    rw [run] at kept
    exact accounts.undone entry old undo (kept ▸ found)
  · intro entry member id listed
    rcases below entry member with ⟨old, low⟩
    refine (accounts.exists?_rollbackTo follows run id).mpr
      ⟨accounts.registered entry old id listed, fun newer removed high => ?_⟩
    have different : entry ≠ newer := by
      rintro rfl
      omega
    exact accounts.apart entry old newer removed different id listed
  · intro entry member other left
    exact accounts.apart entry (below entry member).1 other (below other left).1

end Accounts

theorem run_accounts (rules : Rules) (calls : List Call) :
    Accounts (run rules calls) (issuances rules calls) := by
  induction calls using List.reverseRecOn with
  | nil => exact .fresh rules
  | append_singleton calls last accounts =>
      have follows := run_follows_books rules calls
      have reached : (run rules calls).engine.state.Reached rules := .idle calls
      rw [run_concat, issuances_concat]
      unfold call noted
      cases last with
      | apply block =>
          cases fits : (run rules calls).engine.misfit? block with
          | some reason => simpa only [Engine.applyBlock, fits] using accounts
          | none =>
              simp only [Engine.applyBlock, fits]
              exact accounts.extend (follows.linked_of_fits fits) (.of_reached reached)
      | rollback height =>
          rcases follows.rollbackTo height with ⟨_, _, outcome, _⟩ | ⟨_, _, _, _, outcome⟩
          · simp only [outcome]
            exact accounts.rollbackTo follows outcome
          · simpa only [outcome] using accounts

/-- In every state that an engine passes through, the registered numbers are the protocol tokens
and, in each half of the numbers, all below the next one; the half of the main ecosystem is never
left, and every property is kept under its own number and has the ecosystem of that number.  What
is in range is issued as long as its ecosystem has numbers left, under a number that was free and
lies in that ecosystem, and the other properties are left alone.  A rollback frees the numbers that
the blocks it removes gave out, no more and no less, and one that is refused frees none. -/
theorem run_numbers_properties (rules : Rules) :
    (∀ s : State, s.Reached rules →
      (∀ id, s.registry.exists? id = true ↔ id = 1 ∨ id = 2 ∨
        (3 ≤ id ∧ id < s.registry.nextMainId) ∨
        (2147483651 ≤ id ∧ id < s.registry.nextTestId)) ∧
      s.registry.nextMainId ≤ 2147483651 ∧
      ∀ id p, s.registry.get? id = some p →
        p.id = id ∧ Ecosystem.of id = some p.ecosystem) ∧
    (∀ (request : IssueRequest) (journal : Journal), journal.state.Reached rules →
      ((∃ id after, Registry.issue request journal = (.ok id, after)) ↔
        (0 ≤ request.initialAmount ∧ request.initialAmount ≤ maxTokens) ∧
          journal.state.registry.HasRoom request.ecosystem) ∧
      ∀ id after, Registry.issue request journal = (.ok id, after) →
        journal.state.registry.exists? id = false ∧
        Ecosystem.of id = some request.ecosystem ∧
        after.state.registry.get? id =
          some { request.property id with totalTokens := request.initialAmount } ∧
        ∀ other, other ≠ id →
          after.state.registry.get? other = journal.state.registry.get? other) ∧
    ∀ calls, (issuances rules calls).map Prod.fst = (run rules calls).active ∧
      (∀ height txids after,
        (run rules calls).engine.rollbackTo height = (.ok txids, after) → ∀ id,
          (after.state.registry.exists? id = true →
            (run rules calls).engine.state.registry.exists? id = true) ∧
          ((run rules calls).engine.state.registry.exists? id = true ∧
              after.state.registry.exists? id = false ↔
            ∃ entry ∈ issuances rules calls, height < entry.1.height ∧ id ∈ entry.2)) ∧
      ∀ height reason after,
        (run rules calls).engine.rollbackTo height = (.error reason, after) →
          after = (run rules calls).engine := by
  refine ⟨fun s reached => ?_, fun request journal reached => ?_, fun calls => ?_⟩
  · have numbered := reached.sound.canonical.registry
    refine ⟨reached.exists?_iff, UInt32.le_iff_toNat_le.mpr numbered.mainLast, ?_⟩
    intro id p found
    exact ⟨numbered.keyed id p found, reached.trading.registry.located id p found⟩
  · exact ⟨Registry.issue_isOk_iff reached.sound reached.trading request,
      fun _ _ run => Registry.issue_ok reached.sound.canonical.registry run⟩
  · have accounts := run_accounts rules calls
    have follows := run_follows_books rules calls
    refine ⟨accounts.blocks, ?_, ?_⟩
    · intro height txids after outcome id
      exact ⟨fun known => ((accounts.exists?_rollbackTo follows outcome id).mp known).1,
        accounts.freed_rollbackTo follows outcome id⟩
    · intro height reason after outcome
      rcases follows.rollbackTo height with ⟨_, _, run, _⟩ | ⟨_, _, _, _, run⟩
      · rw [run] at outcome
        cases outcome
      · rw [run] at outcome
        cases outcome
        rfl

/-- Each block issues a property, the first one of its ecosystem. -/
def issuing : List Call :=
  let description : Description := ⟨"", "", "n", "", ""⟩
  [.apply ⟨0, "x", "", 0,
      [⟨"t", "a", none, Message.encode (Payload.issueFixed ⟨1, 1, 0, description⟩ 7).toMessage⟩]⟩,
    .apply ⟨1, "y", "x", 1,
      [⟨"u", "b", none, Message.encode (Payload.issueManaged ⟨2, 1, 0, description⟩).toMessage⟩]⟩]

/-- Another property can be issued, and the number of the second one is free again after its block
is taken back. -/
theorem run_numbers_properties_issuing :
    (run twoOwners issuing).engine.state.Reached twoOwners ∧
    (run twoOwners issuing).engine.state.registry.exists? 2147483651 = true ∧
    Ecosystem.of 2147483651 = some .test ∧
    (∃ id after, Registry.issue ⟨.managed, .main, true, "a", 0, ⟨"", "", "n", "", ""⟩, "v", 2⟩
        (.start (run twoOwners issuing).engine.state) = (.ok id, after) ∧
      (run twoOwners issuing).engine.state.registry.exists? id = false ∧
      Ecosystem.of id = some .main ∧
      ∀ other, other ≠ id → after.state.registry.get? other =
        (run twoOwners issuing).engine.state.registry.get? other) ∧
    ∃ txids after, (run twoOwners issuing).engine.rollbackTo 0 = (.ok txids, after) ∧
      after.state.registry.exists? 2147483651 = false ∧
      after.state.registry.exists? 3 = true := by
  have numbers := run_numbers_properties twoOwners
  have reached : (run twoOwners issuing).engine.state.Reached twoOwners := .idle issuing
  have known : ∀ id, id = 3 ∨ id = 2147483651 →
      (run twoOwners issuing).engine.state.registry.exists? id = true := by
    rintro id (rfl | rfl)
    · exact ((numbers.1 _ reached).1 3).mpr (by decide +kernel)
    · exact ((numbers.1 _ reached).1 2147483651).mpr (by decide +kernel)
  refine ⟨reached, known _ (.inr rfl), by decide, ?_, ?_⟩
  · have issue := numbers.2.1 ⟨.managed, .main, true, "a", 0, ⟨"", "", "n", "", ""⟩, "v", 2⟩
      (.start (run twoOwners issuing).engine.state) reached
    rcases issue.1.mpr (by decide +kernel) with ⟨id, after, outcome⟩
    have issued := issue.2 id after outcome
    exact ⟨id, after, outcome, issued.1, issued.2.1, issued.2.2.2⟩
  · have accepted : ((run twoOwners issuing).engine.rollbackTo 0).1 = .ok ["u"] := by
      decide +kernel
    rcases outcome : (run twoOwners issuing).engine.rollbackTo 0 with ⟨answer, after⟩
    rw [outcome] at accepted
    cases accepted
    have freed := (numbers.2.2 issuing).2.1 0 ["u"] after outcome
    have above : ∃ entry ∈ issuances twoOwners issuing,
        0 < entry.1.height ∧ (2147483651 : PropertyId) ∈ entry.2 := by
      decide +kernel
    have below : ¬ ∃ entry ∈ issuances twoOwners issuing,
        0 < entry.1.height ∧ (3 : PropertyId) ∈ entry.2 := by
      decide +kernel
    refine ⟨["u"], after, rfl, ((freed 2147483651).2.mpr above).2, ?_⟩
    by_contra lost
    exact below ((freed 3).2.mp ⟨known 3 (.inl rfl), Bool.eq_false_iff.mpr lost⟩)

end Session
end TokenOverlay
