import TokenOverlay.Engine.Query
import TokenOverlay.Proofs.Discipline
import TokenOverlay.Proofs.Issuance
import TokenOverlay.Proofs.Records

namespace TokenOverlay

/-!
What the amount of an issuance is counted in.  A valid record of an issuance
names the property that its transaction has issued, and the property stays
registered as it was asked for while the record is valid, whatever is rolled back
and whichever numbers are given out again.  Nothing else holds such a tie: a
refused issuance names no property and is answered for the protocol token of its
ecosystem, and a record that has lost its block is answered for whichever property
has the number by now.
-/

open Attempt TokenOverlay.Action

/-! ## What issuances found -/

/-- The description of what a payload issues, if it issues anything. -/
def Payload.issuance? : Payload → Option Issuance
  | .issueFixed issuance _ => some issuance
  | .issueManaged issuance => some issuance
  | .issueCrowdsale issuance .. => some issuance
  | _ => none

/-- A property that a transaction has issued, as divisible as it asked for. -/
structure Property.IssuedBy (p : Property) (tx : TxContext) (issuance : Issuance) : Prop where
  txid : p.creationTxid = tx.txid
  block : p.creationBlock = tx.block
  divisible : Execute.divisibilityOf? issuance.propertyType = some p.divisible

/-- The property of a registry is one of an older registry, except for its supply. -/
def Registry.Within (r older : Registry) : Prop :=
  ∀ id p, r.get? id = some p →
    ∃ q, older.get? id = some q ∧ ∃ total, p = { q with totalTokens := total }

namespace Execute

/-- What a message says it has issued is registered; a message that issues nothing says so. -/
def Founds (tx : TxContext) (details : TxDetails) (s : State) : Option Issuance → Prop
  | none => details.createdProperty = none
  | some issuance => ∃ id p, details.createdProperty = some id ∧
      s.registry.get? id = some p ∧ p.IssuedBy tx issuance

section

variable {tx : TxContext} {details : TxDetails} {s after : State} {issuance : Option Issuance}

/-- Supplies do not matter to what has been issued. -/
theorem Founds.keeps (founds : Founds tx details s issuance)
    (kept : ∀ id p, details.createdProperty = some id → s.registry.get? id = some p →
      p.creationBlock = tx.block →
      ∃ total, after.registry.get? id = some { p with totalTokens := total }) :
    Founds tx details after issuance := by
  cases issuance with
  | none => exact founds
  | some issuance =>
      rcases founds with ⟨id, p, named, registered, issued⟩
      rcases kept id p named registered issued.block with ⟨total, found⟩
      exact ⟨id, _, named, found, issued.txid, issued.block, issued.divisible⟩

/-- The property that is named has the height of the transaction. -/
theorem Founds.creationBlock (founds : Founds tx details s issuance) {id : PropertyId}
    {p : Property} (named : details.createdProperty = some id)
    (registered : s.registry.get? id = some p) : p.creationBlock = tx.block := by
  cases issuance with
  | none => cases named.symm.trans founds
  | some issuance =>
      rcases founds with ⟨other, q, same, found, issued⟩
      cases named.symm.trans same
      cases registered.symm.trans found
      exact issued.block

end

section

variable (rules : Rules) (tx : TxContext) {journal : Journal}

theorem checkIssuance_does (issuance : Issuance) :
    (checkIssuance issuance).Does
      (fun answer _ => divisibilityOf? issuance.propertyType = some answer.2) journal := by
  refine .ending fun ecosystem _ => .running fun divisible _ asked => ?_
  exact .ending fun _ _ => .ending fun _ _ => require_ok asked

/-- In a state whose numbers are in order, every accepted message founds what it issues. -/
theorem payload_founds (numbered : journal.state.registry.Numbered) (p : Payload) :
    (payload rules tx p).Does
      (fun details after => Founds tx details after.state p.issuance?) journal := by
  have reports := payload_reports rules tx numbered p
  cases p with
  | issueFixed issuance amount =>
      refine .reading (readsOnly_checkIssuance issuance) fun _ checked => ?_
      have asked := (checkIssuance_does issuance).of_ok checked
      refine .reading (readsOnly_amountOf amount) fun _ _ => ?_
      refine (Registry.issue_does numbered _).bind fun id _ issued => ?_
      exact ⟨id, _, rfl, issued.2.registered, rfl, rfl, asked⟩
  | issueManaged issuance =>
      refine .reading (readsOnly_checkIssuance issuance) fun _ checked => ?_
      have asked := (checkIssuance_does issuance).of_ok checked
      refine (Registry.issue_does numbered _).bind fun id _ issued => ?_
      exact ⟨id, _, rfl, issued.2.registered, rfl, rfl, asked⟩
  | issueCrowdsale issuance desired rate deadline earlyBonus issuerPercent =>
      refine .reading (readsOnly_checkIssuance issuance) fun _ checked => ?_
      have asked := (checkIssuance_does issuance).of_ok checked
      refine .reading (Registry.readsOnly_lookup desired) fun _ _ => ?_
      refine .reading (.guard _ _) fun _ _ => .reading (readsOnly_amountOf rate) fun _ _ => ?_
      refine .reading (.guard _ _) fun _ _ => .reading .state fun _ _ => ?_
      refine .reading (.guard _ _) fun _ _ => (Registry.issue_does numbered _).bind ?_
      intro id between issued
      rw [CrowdsaleBook.create, bind_assoc]
      refine .reading .state fun _ _ => ?_
      rw [bind_assoc]
      refine .reading (.guard _ _) fun _ _ => yields_bind.mpr (yields_edit.mpr ?_)
      exact ⟨id, _, rfl, issued.2.registered, rfl, rfl, asked⟩
  | _ => exact reports

theorem message_founds (numbered : journal.state.registry.Numbered) (m : Message) :
    (message rules tx m).Does
      (fun details after => Founds tx details after.state m.payload.issuance?) journal :=
  .reading (.guard _ _) fun _ _ => payload_founds rules tx numbered m.payload

end

theorem divisible_of_divisibilityOf? {propertyType : UInt16} {divisible : Bool}
    (asked : divisibilityOf? propertyType = some divisible) :
    divisible = decide (propertyType = 2) := by
  have two : propertyType = 2 ↔ propertyType.toNat = 2 := UInt16.toNat_inj.symm
  unfold divisibilityOf? at asked
  split at asked
  · next one =>
      cases asked
      simp [two, one]
  · next one =>
      cases asked
      simp [two, one]
  · cases asked

end Execute

/-! ## In a block -/

/-- What a record says it has issued is registered. -/
def TxRecord.Founds (record : TxRecord) (s : State) : Prop :=
  Execute.Founds record.context record.details s (record.payload.bind Payload.issuance?)

theorem Moment.founds {rules : Rules} {moment : Moment} {record : TxRecord}
    (regular : moment.before.Regular) (accepts : moment.Accepts rules record) :
    record.Founds (moment.after rules) := by
  cases moment.ran rules regular.sound.canonical with
  | started _ _ none => exact absurd accepts (none record)
  | refused _ _ none => exact absurd accepts (none record)
  | accepted _ other m done made carried _ _ run state =>
      have same : record = other := Option.some.inj (accepts.1.symm.trans made.1)
      subst same
      have numbered : (Journal.start moment.before).state.registry.Numbered :=
        regular.sound.canonical.registry
      rw [TxRecord.Founds, carried, state]
      exact (Execute.message_founds rules record.context numbered m).of_ok run

namespace Engine

variable (rules : Rules) {block : Block} {s : State} {record : TxRecord}

/-- What the valid records of a block say they have issued is registered after it. -/
theorem processBlock_founds (regular : s.Regular)
    (member : record ∈ (processBlock rules s block).1) (valid : record.valid = true) :
    record.Founds (processBlock rules s block).2.state := by
  have started : (prelude block (.start s)).2.state.Regular :=
    @State.Regular.next rules s regular (.start block)
  unfold processBlock at member ⊢
  rw [records_processFrom] at member
  rcases List.mem_filterMap.mp member with ⟨moment, among, made⟩
  rcases State.mem_history among with ⟨earlier, later, split, met⟩
  have before := started.before among
  have founds := Moment.founds before ⟨made, valid⟩
  have rest : (processFrom rules block 0 (prelude block (.start s)).2 block.transactions).2.state =
      (moment.after rules).follow rules later := by
    rw [state_processFrom, split, State.follow_append, ← met]
    rfl
  rw [rest]
  refine founds.keeps fun id p _ registered _ => ?_
  rcases (before.next moment.event).allows later registered with ⟨total, found, _⟩
  exact ⟨total, found⟩

/-- The numbers that a block gives out are those of properties with its height. -/
theorem creationBlock_of_issued (regular : s.Regular) {id : PropertyId} {p : Property}
    (given : id ∈ issued rules block s)
    (registered : (processBlock rules s block).2.state.registry.get? id = some p) :
    p.creationBlock = block.height := by
  rcases List.mem_flatMap.mp given with ⟨record, member, listed⟩
  unfold TxRecord.issued at listed
  split at listed
  · next valid =>
      have founds := processBlock_founds rules regular member valid
      exact (founds.creationBlock (Option.mem_toList.mp listed) registered).trans
        (mem_processFrom member).1
  · cases listed

end Engine

/-! ## Going back -/

namespace Registry.Within

variable {r older oldest : Registry}

theorem refl (r : Registry) : r.Within r :=
  fun _ p found => ⟨p, found, p.totalTokens, rfl⟩

theorem trans (newer : r.Within older) (rest : older.Within oldest) : r.Within oldest := by
  intro id p found
  rcases newer id p found with ⟨q, known, total, rfl⟩
  rcases rest id q known with ⟨first, kept, other, rfl⟩
  exact ⟨first, kept, total, rfl⟩

/-- A property that is in both registries differs in its supply at most. -/
theorem kept (within : r.Within older) {id : PropertyId} {p : Property}
    (known : older.get? id = some p) (stays : r.exists? id = true) :
    ∃ total, r.get? id = some { p with totalTokens := total } := by
  rcases Registry.exists?_iff_get?.mp stays with ⟨q, found⟩
  rcases within id q found with ⟨old, same, total, rfl⟩
  cases known.symm.trans same
  exact ⟨total, found⟩

end Registry.Within

/-- Taking an entry back restores a supply or removes a property. -/
theorem State.within_revert (s : State) (entry : UndoEntry) :
    (s.revert entry).registry.Within s.registry := by
  cases entry with
  | supply property previous =>
      intro id p found
      change (s.registry.withSupply property previous).get? id = some p at found
      rw [Registry.get?_withSupply] at found
      split at found
      · next same =>
          rcases Option.map_eq_some_iff.mp found with ⟨q, known, rfl⟩
          exact ⟨q, same ▸ known, previous, rfl⟩
      · exact ⟨p, found, p.totalTokens, rfl⟩
  | propertyCreated property ecosystem previous =>
      intro id p found
      change (s.registry.properties.erase property).get? id = some p at found
      rw [SortedMap.get?_erase] at found
      split at found
      · cases found
      · exact ⟨p, found, p.totalTokens, rfl⟩
  | _ => exact .refl _

theorem State.within_revertAll (s : State) (entries : List UndoEntry) :
    (s.revertAll entries).registry.Within s.registry := by
  induction entries generalizing s with
  | nil => exact .refl _
  | cons entry rest ih =>
      rw [revertAll_cons]
      exact (ih (s.revert entry)).trans (s.within_revert entry)

namespace Engine

variable {txid : String} {record : TxRecord}

/-- A record that is valid after a block is taken back was there before. -/
theorem get?_records_of_disconnect {e : Engine} {height : Nat} {undo : BlockUndo}
    (found : (e.disconnect height undo).records.get? txid = some record)
    (valid : record.valid = true) : e.records.get? txid = some record := by
  change (undo.txids.reverse.foldl disconnectRecord e.records).get? txid = some record at found
  rw [get?_disconnectRecords] at found
  split at found
  · rcases Option.map_eq_some_iff.mp found with ⟨_, _, rfl⟩
    cases valid
  · exact found

/-- Going back brings no properties and no valid records that were not there before. -/
theorem disconnectAbove_recalls (e : Engine) (height count : Nat) :
    (e.disconnectAbove height count).1.state.registry.Within e.state.registry ∧
    ∀ txid record, (e.disconnectAbove height count).1.records.get? txid = some record →
      record.valid = true → e.records.get? txid = some record := by
  induction count generalizing e with
  | zero => exact ⟨.refl _, fun _ _ found _ => found⟩
  | succ count ih =>
      unfold disconnectAbove
      cases kept : e.undoChain.get? (height + count + 1) with
      | none =>
          simp only [kept]
          exact ⟨.refl _, fun _ _ found _ => found⟩
      | some undo =>
          simp only [kept]
          rcases ih (e.disconnect (height + count + 1) undo) with ⟨within, records⟩
          constructor
          · exact within.trans (e.state.within_revertAll undo.entries)
          · intro txid record found valid
            exact get?_records_of_disconnect (records txid record found valid) valid

theorem rollbackTo_recalls {e after : Engine} {height : Nat} {txids : List String}
    (run : e.rollbackTo height = (.ok txids, after)) :
    after.state.registry.Within e.state.registry ∧
    ∀ txid record, after.records.get? txid = some record → record.valid = true →
      e.records.get? txid = some record := by
  rcases e.rollbackTo_cases height with
    ⟨outcome, _⟩ | ⟨tip, _, _, ⟨_, _, _, _, outcome⟩ | ⟨_, outcome⟩⟩
  · cases run.symm.trans outcome
    exact ⟨.refl _, fun _ _ found _ => found⟩
  · cases run.symm.trans outcome
  · have left : after = (e.disconnectAbove height (tip.height - height)).1 :=
      congrArg Prod.snd (run.symm.trans outcome)
    rw [left]
    exact e.disconnectAbove_recalls height (tip.height - height)

end Engine

/-! ## Protocol tokens -/

theorem Ecosystem.toUInt32_of_ofByte {byte : UInt8} {ecosystem : Ecosystem}
    (read : ofByte byte = some ecosystem) : byte.toUInt32 = ecosystem.protocolToken := by
  unfold ofByte at read
  split at read <;> cases read <;> rfl

/-- The protocol tokens are divisible. -/
theorem Engine.genesisState_divisible (config : EngineConfig) (ecosystem : Ecosystem) :
    ∃ p, (genesisState config).registry.get? ecosystem.protocolToken = some p ∧
      p.divisible = true := by
  apply genesisState_keeps fun s => ∃ p,
    s.registry.get? ecosystem.protocolToken = some p ∧ p.divisible = true
  · cases ecosystem <;> exact ⟨_, rfl, rfl⟩
  · exact fun _ _ _ _ kept => kept
  · rintro s property total ⟨p, found, divisible⟩
    have written := s.registry.get?_withSupply property ecosystem.protocolToken total
    by_cases same : ecosystem.protocolToken = property
    · subst same
      rw [if_pos rfl, found] at written
      exact ⟨{ p with totalTokens := total }, written, divisible⟩
    · rw [if_neg same] at written
      exact ⟨p, written.trans found, divisible⟩

theorem State.Reached.divisible {rules : Rules} {s : State} (reached : s.Reached rules)
    (ecosystem : Ecosystem) :
    ∃ p, s.registry.get? ecosystem.protocolToken = some p ∧ p.divisible = true := by
  rcases ((Engine.burning rules).of_reached reached).2.2 ecosystem with
    ⟨born, total, first, found, _⟩
  rcases Engine.genesisState_divisible rules.config ecosystem with ⟨p, same, divisible⟩
  cases first.symm.trans same
  exact ⟨_, found, divisible⟩

/-! ## Runs -/

namespace Session

/-- What valid records say they have issued is registered, and what the blocks of the chain have
given out has their heights. -/
structure Founded (session : Session) (issuances : List (Block × List PropertyId)) : Prop where
  records : ∀ txid record, session.engine.record? txid = some record → record.valid = true →
    record.Founds session.engine.state
  dated : ∀ entry ∈ issuances, ∀ id ∈ entry.2, ∀ p,
    session.engine.state.registry.get? id = some p → p.creationBlock = entry.1.height

namespace Founded

variable {rules : Rules} {session : Session} {issuances : List (Block × List PropertyId)}

theorem fresh (rules : Rules) : Founded (fresh rules) [] where
  records := fun _ _ found => nomatch found
  dated := fun _ impossible => absurd impossible List.not_mem_nil

/-- A block founds what its own records say and leaves older properties registered. -/
theorem extend (founded : Founded session issuances) (accounts : Accounts session issuances)
    (regular : session.engine.state.Regular) (block : Block) :
    Founded ⟨(session.engine.extend block).1, block :: session.active⟩
      ((block, Engine.issued session.engine.rules block session.engine.state) :: issuances) := by
  have stays : ∀ id p, session.engine.state.registry.get? id = some p → ∃ total,
      (Engine.processBlock session.engine.rules session.engine.state block).2.state.registry.get?
        id = some { p with totalTokens := total } := by
    intro id p registered
    rw [Engine.state_processBlock]
    exact (regular.allows block.events registered).imp fun _ both => both.1
  constructor
  · intro txid record found valid
    rcases Engine.get?_keepRecords found with ⟨new, _⟩ | ⟨_, old⟩
    · exact Engine.processBlock_founds session.engine.rules regular new valid
    · exact (founded.records txid record old valid).keeps
        fun id p _ registered _ => stays id p registered
  · intro entry member id given p registered
    rcases List.mem_cons.mp member with rfl | older
    · exact Engine.creationBlock_of_issued session.engine.rules regular given registered
    · rcases Registry.exists?_iff_get?.mp (accounts.registered entry older id given) with
        ⟨q, known⟩
      rcases stays id q known with ⟨total, found⟩
      cases registered.symm.trans found
      exact founded.dated entry older id given q known

/-- A rollback leaves the properties of all blocks up to its height. -/
theorem rollbackTo {invariant : Engine.Invariant rules} (founded : Founded session issuances)
    (accounts : Accounts session issuances)
    (follows : Engine.Follows invariant session.engine session.active) {height : Nat}
    {txids : List String} {after : Engine}
    (run : session.engine.rollbackTo height = (.ok txids, after))
    (placed : Engine.PlacesRecords after
      (session.active.filter fun block => block.height ≤ height)) :
    Founded ⟨after, session.active.filter fun block => block.height ≤ height⟩
      (issuances.filter fun entry => entry.1.height ≤ height) := by
  rcases Engine.rollbackTo_recalls run with ⟨within, recalls⟩
  constructor
  · intro txid record found valid
    apply (founded.records txid record (recalls txid record found valid) valid).keeps
    intro id p _ registered dated
    -- The block of the record is still there, so no block above the height gave the number out.
    have low : record.blockHeight ≤ height := by
      rcases (placed txid record found).2 with ⟨block, member, level, _⟩ | ⟨invalid, _⟩
      · rw [← level]
        exact of_decide_eq_true (List.mem_filter.mp member).2
      · cases valid.symm.trans invalid
    refine within.kept registered ((accounts.exists?_rollbackTo follows run id).mpr ⟨?_, ?_⟩)
    · exact Registry.exists?_iff_get?.mpr ⟨p, registered⟩
    · intro entry member high given
      have level := founded.dated entry member id given p registered
      rw [dated] at level
      change record.blockHeight = entry.1.height at level
      omega
  · intro entry member id given p registered
    rcases within id p registered with ⟨q, known, total, rfl⟩
    exact founded.dated entry (List.mem_filter.mp member).1 id given q known

end Founded

theorem run_founded (rules : Rules) (calls : List Call) :
    Founded (run rules calls) (issuances rules calls) := by
  induction calls using List.reverseRecOn with
  | nil => exact .fresh rules
  | append_singleton calls last founded =>
      have accounts := run_accounts rules calls
      have follows := run_follows_books rules calls
      have reached : (run rules calls).engine.state.Reached rules := .idle calls
      have placed := (Engine.placing rules).run (calls ++ [last]) fun _ _ => trivial
      rw [run_concat] at placed
      rw [run_concat, issuances_concat]
      unfold call noted at *
      cases last with
      | apply block =>
          cases fits : (run rules calls).engine.misfit? block with
          | some reason => simpa only [Engine.applyBlock, fits] using founded
          | none =>
              simp only [Engine.applyBlock, fits]
              exact founded.extend accounts (.of_reached reached) block
      | rollback height =>
          rcases follows.rollbackTo height with ⟨_, _, outcome, _⟩ | ⟨_, _, _, _, outcome⟩
          · simp only [outcome] at placed ⊢
            exact founded.rollbackTo accounts follows outcome placed
          · simpa only [outcome] using founded

/-- The amount of a fixed issuance is answered in the divisibility that the issuance asked for if
the record is valid.  A record that names no property is of a refused issuance, and is answered in
the divisibility of the property whose number is the byte of the ecosystem: for a known ecosystem
that is its protocol token, so the amount is divisible whatever was asked for.  A record that names
a property is answered for whichever property has that number. -/
theorem run_denominates_issuances (rules : Rules) (calls : List Call) {txid : String}
    {record : TxRecord} {issuance : Issuance} {amount : UInt64}
    (found : (run rules calls).engine.record? txid = some record)
    (carried : record.payload = some (.issueFixed issuance amount)) :
    (record.valid = true →
      (run rules calls).engine.transactionWithDivisibility? txid =
        some (record, some (decide (issuance.propertyType = 2)))) ∧
    (record.details.createdProperty = none →
      record.valid = false ∧
      (run rules calls).engine.transactionWithDivisibility? txid =
        some (record, ((run rules calls).engine.state.registry.get?
          issuance.ecosystem.toUInt32).map Property.divisible) ∧
      ∀ ecosystem, Ecosystem.ofByte issuance.ecosystem = some ecosystem →
        (run rules calls).engine.transactionWithDivisibility? txid = some (record, some true)) ∧
    ∀ id, record.details.createdProperty = some id →
      (run rules calls).engine.transactionWithDivisibility? txid =
        some (record, ((run rules calls).engine.state.registry.get? id).map
          Property.divisible) := by
  have founded := (run_founded rules calls).records txid record found
  have answer : (run rules calls).engine.transactionWithDivisibility? txid =
      some (record, ((record.details.createdProperty.or
        (some issuance.ecosystem.toUInt32)).bind
          (run rules calls).engine.state.registry.get?).map Property.divisible) := by
    rw [Engine.transactionWithDivisibility?, found, Option.map_some, Engine.amountProperty?,
      carried]
    rfl
  refine ⟨?_, ?_, ?_⟩
  · intro valid
    have founds := founded valid
    rw [TxRecord.Founds, carried] at founds
    rcases founds with ⟨id, p, named, registered, issued⟩
    rw [answer, named, Option.some_or, Option.bind_some, registered, Option.map_some,
      Execute.divisible_of_divisibilityOf? issued.divisible]
  · intro unnamed
    rw [unnamed, Option.none_or, Option.bind_some] at answer
    refine ⟨?_, answer, ?_⟩
    · rw [← Bool.not_eq_true]
      intro valid
      have founds := founded valid
      rw [TxRecord.Founds, carried] at founds
      rcases founds with ⟨id, p, named, _⟩
      cases named.symm.trans unnamed
    · intro ecosystem read
      have reached : (run rules calls).engine.state.Reached rules := .idle calls
      rcases reached.divisible ecosystem with ⟨p, registered, divisible⟩
      rw [answer, Ecosystem.toUInt32_of_ofByte read, registered, Option.map_some, divisible]
  · intro id named
    rw [answer, named, Option.some_or, Option.bind_some]

/-- After the issuance of a property, one without a name is refused. -/
def refusing : List Call :=
  let nameless : Issuance := ⟨1, 1, 0, ⟨"", "", "", "", ""⟩⟩
  issuing ++ [.apply ⟨2, "z", "y", 2,
    [⟨"r", "a", none, Message.encode (Payload.issueFixed nameless 7).toMessage⟩]⟩]

/-- The amount of the valid issuance is counted in whole tokens, as both have asked, and that of
the refused one is not. -/
theorem run_denominates_issuances_refusing :
    (∃ record, (run twoOwners refusing).engine.record? "t" = some record ∧ record.valid = true ∧
      (run twoOwners refusing).engine.transactionWithDivisibility? "t" =
        some (record, some false)) ∧
    ∃ record, (run twoOwners refusing).engine.record? "r" = some record ∧ record.valid = false ∧
      (run twoOwners refusing).engine.transactionWithDivisibility? "r" =
        some (record, some true) := by
  have issued : ((run twoOwners refusing).engine.record? "t").map
      (fun record => (record.valid, record.payload)) =
        some (true, some (.issueFixed ⟨1, 1, 0, ⟨"", "", "n", "", ""⟩⟩ 7)) := by
    decide +kernel
  have refused : ((run twoOwners refusing).engine.record? "r").map
      (fun record => (record.details.createdProperty, record.payload)) =
        some (none, some (.issueFixed ⟨1, 1, 0, ⟨"", "", "", "", ""⟩⟩ 7)) := by
    decide +kernel
  rcases Option.map_eq_some_iff.mp issued with ⟨record, found, shown⟩
  rcases Option.map_eq_some_iff.mp refused with ⟨other, known, named⟩
  have valid : record.valid = true := congrArg Prod.fst shown
  have first := run_denominates_issuances twoOwners refusing found (congrArg Prod.snd shown)
  have second := (run_denominates_issuances twoOwners refusing known (congrArg Prod.snd named)).2.1
    (congrArg Prod.fst named)
  exact ⟨⟨record, found, valid, first.1 valid⟩, ⟨other, known, second.1, second.2.2 .main rfl⟩⟩

/-- So it is not true that an answered divisibility is always the one that was asked for. -/
theorem not_denominated_by_type :
    ¬ ∀ (rules : Rules) (calls : List Call) (txid : String) (record : TxRecord)
      (issuance : Issuance) (amount : UInt64) (divisible : Bool),
      (run rules calls).engine.transactionWithDivisibility? txid =
        some (record, some divisible) →
      record.payload = some (.issueFixed issuance amount) →
      (divisible = true ↔ issuance.propertyType = 2) := by
  intro denominated
  have refused : ((run twoOwners refusing).engine.transactionWithDivisibility? "r").map
      (fun answer => (answer.2, answer.1.payload)) =
        some (some true, some (.issueFixed ⟨1, 1, 0, ⟨"", "", "", "", ""⟩⟩ 7)) := by
    decide +kernel
  rcases Option.map_eq_some_iff.mp refused with ⟨⟨record, divisible⟩, found, shown⟩
  cases congrArg Prod.fst shown
  have same := denominated twoOwners refusing "r" record _ 7 true found (congrArg Prod.snd shown)
  exact absurd (same.mp rfl) (by decide)

end Session
end TokenOverlay
