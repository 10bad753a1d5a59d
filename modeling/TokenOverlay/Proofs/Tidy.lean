import TokenOverlay.Proofs.Session

namespace TokenOverlay

/-!
Nothing empty is stored.  No edit leaves an empty balance, row or list behind,
and neither does taking back an entry, whatever it was noted for.  This needs
nothing of the chain or of the rules, so it is also true of engines that were
stopped and go on under other rules; and as each table is determined by what it
answers, two engines that answer the same store the same.
-/

/-- The tables that drop what becomes empty have nothing empty in them. -/
structure State.Tidy (s : State) : Prop where
  ledger : s.ledger.Canonical
  orders : s.orders.Compact
  crowdsales : s.crowdsales.Compact

namespace State.Tidy

variable {s : State}

theorem initial : State.initial.Tidy where
  ledger := .empty
  orders := .empty
  crowdsales := .empty

theorem apply (tidy : s.Tidy) (edit : Edit) : (s.apply edit).Tidy := by
  cases edit with
  | balance address property next =>
      exact { tidy with ledger := tidy.ledger.write address property next }
  | sale sale => exact { tidy with crowdsales := tidy.crowdsales.withSale sale.propertyId _ }
  | participation property p =>
      exact { tidy with crowdsales := tidy.crowdsales.addParticipation property p }
  | offer seller property offer =>
      exact { tidy with orders := tidy.orders.write seller property offer }
  | supply property total => exact { tidy with }
  | register property next => exact { tidy with }
  | feature id feature => exact { tidy with }
  | receipt receipt => exact { tidy with }

/-- Any entry may be taken back, also one that was noted elsewhere. -/
theorem revert (tidy : s.Tidy) (entry : UndoEntry) : (s.revert entry).Tidy := by
  cases entry with
  | balance address property previous =>
      exact { tidy with ledger := tidy.ledger.write address property previous }
  | crowdsale property previous =>
      exact { tidy with crowdsales := tidy.crowdsales.withSale property previous }
  | participation property =>
      exact { tidy with crowdsales := tidy.crowdsales.dropParticipation property }
  | offer seller property previous =>
      exact { tidy with orders := tidy.orders.write seller property previous }
  | supply property previous => exact { tidy with }
  | propertyCreated property ecosystem previous => exact { tidy with }
  | feature id previous => exact { tidy with }
  | receipt txid => exact { tidy with }

theorem revertAll (tidy : s.Tidy) (entries : List UndoEntry) : (s.revertAll entries).Tidy := by
  induction entries generalizing s with
  | nil => exact tidy
  | cons entry older ih => exact ih (tidy.revert entry)

/-! ## Messages and blocks -/

theorem edit (change : Edit) : (Condition.throughout Tidy).Keeps (Action.edit change) :=
  .edit fun _ tidy => tidy.apply change

theorem mint (address : Address) (property : PropertyId) (amount : Int) :
    (Condition.throughout Tidy).Keeps (Registry.mint address property amount) :=
  Condition.keeps_mint (fun _ _ _ => edit _) (fun _ _ => edit _) address property amount

theorem blocks (tx : TxContext) : (Condition.throughout Tidy).Blocks tx where
  toPlainBlocks := Condition.plainBlocks_of_edits (fun _ _ _ => edit _) (fun _ _ => edit _)
    (fun _ => edit _) (fun _ _ => edit _) (fun _ _ => edit _)
    (fun request _ =>
      Condition.keeps_issue request (fun journal _ tidy _ => edit _ journal tidy) mint)
    fun receipt _ _ tidy => tidy.apply (.receipt receipt)
  createOffer := fun _ _ _ => Condition.keeps_createOffer (fun _ _ _ => edit _) (edit _)
  updateOffer := fun _ _ _ =>
    Condition.keeps_updateOffer (fun _ _ _ => edit _) fun _ _ => edit _
  cancelOffer := fun _ => Condition.keeps_cancelOffer (fun _ _ _ => edit _) (edit _)
  acceptOffer := fun _ _ _ _ =>
    Condition.keeps_takeOffer (fun _ _ _ => edit _) (edit _) fun _ _ _ => edit _

theorem genesis (config : EngineConfig) : (Engine.genesisState config).Tidy :=
  Engine.genesisState_keeps Tidy initial (fun _ _ _ _ tidy => tidy.apply _)
    (fun _ _ _ tidy => tidy.apply _) config

/-- A rejected action leaves edits behind, and taking them back is tidy as well. -/
theorem settle {α : Type} {action : Action α}
    (concludes : (Condition.throughout Tidy).Concludes action) {journal : Journal}
    (tidy : journal.state.Tidy) : (Engine.settle action journal).2.state.Tidy := by
  have ends := concludes (.start journal.state) tidy
  unfold Engine.settle
  rcases run : action (.start journal.state) with ⟨reason | value, after⟩
  · have failed : after.state.Tidy := ends.of_error run
    exact failed.revertAll after.entries
  · have done : after.state.Tidy := ends.of_ok run
    exact done

theorem processTransaction (rules : Rules) (block : Block) (position : Nat) (tx : Tx)
    {journal : Journal} (tidy : journal.state.Tidy) :
    (Engine.processTransaction rules block position tx journal).2.state.Tidy := by
  unfold Engine.processTransaction
  cases Message.decode tx.payload with
  | error reason => exact tidy
  | ok m =>
      have settled := settle ((blocks (Engine.contextOf block tx)).message rules m) tidy
      dsimp only
      split <;> next answer => rw [answer] at settled; exact settled

theorem processFrom (rules : Rules) (block : Block) (transactions : List Tx) (position : Nat)
    {journal : Journal} (tidy : journal.state.Tidy) :
    (Engine.processFrom rules block position journal transactions).2.state.Tidy := by
  induction transactions generalizing position journal with
  | nil => exact tidy
  | cons tx later ih =>
      exact ih (position + 1) (processTransaction rules block position tx tidy)

theorem processBlock (tidy : s.Tidy) (rules : Rules) (block : Block) :
    (Engine.processBlock rules s block).2.state.Tidy := by
  have prelude := Condition.keeps_prelude (fun _ => edit _) (fun _ _ => edit _) block
  exact processFrom rules block block.transactions 0 (prelude.state_after tidy)

end State.Tidy

/-! ## Engines -/

namespace Engine

/-- An engine that began fresh, was asked to apply blocks and to go back, and may have been
stopped at times to go on from its snapshot, under the same rules or under others. -/
inductive InService : Engine → Prop
  | fresh (rules : Rules) : InService (.fresh rules)
  | applyBlock {e after : Engine} {block : Block} {summary : BlockSummary} :
      InService e → e.applyBlock block = .ok (after, summary) → InService after
  | rollbackTo {e : Engine} (height : Nat) : InService e → InService (e.rollbackTo height).2
  | resume {e : Engine} (rules : Rules) : InService e → InService (.resume rules e.snapshot)

theorem tidy_applyBlock {e after : Engine} {block : Block} {summary : BlockSummary}
    (tidy : e.state.Tidy) (applied : e.applyBlock block = .ok (after, summary)) :
    after.state.Tidy := by
  unfold applyBlock at applied
  split at applied
  · cases applied
  · cases applied
    exact tidy.processBlock e.rules block

theorem tidy_disconnectAbove {e : Engine} (tidy : e.state.Tidy) (height count : Nat) :
    (e.disconnectAbove height count).1.state.Tidy := by
  induction count generalizing e with
  | zero => exact tidy
  | succ count ih =>
      unfold disconnectAbove
      dsimp only
      split
      · exact tidy
      · next undo _ => exact ih (tidy.revertAll undo.entries)

theorem tidy_rollbackTo {e : Engine} (tidy : e.state.Tidy) (height : Nat) :
    (e.rollbackTo height).2.state.Tidy := by
  unfold rollbackTo
  split
  · exact tidy
  · next tip _ =>
      split
      · exact tidy
      · split
        · exact tidy
        · have removed := tidy_disconnectAbove tidy height (tip.height - height)
          dsimp only
          split <;> exact removed

theorem InService.tidy {e : Engine} (served : e.InService) : e.state.Tidy := by
  induction served with
  | fresh rules => exact .genesis rules.config
  | applyBlock _ applied ih => exact tidy_applyBlock ih applied
  | rollbackTo height _ ih => exact tidy_rollbackTo ih height
  | resume _ _ ih => exact ih

end Engine

namespace Session

theorem call_inService {session : Session} (served : session.engine.InService) (next : Call) :
    (session.call next).engine.InService := by
  cases next with
  | apply block =>
      unfold call
      dsimp only
      split
      · next applied => exact served.applyBlock applied
      · exact served
  | rollback height =>
      have back := served.rollbackTo height
      unfold call
      dsimp only
      split <;> next answer => rw [answer] at back; exact back

theorem run_inService (rules : Rules) (calls : List Call) : (run rules calls).engine.InService := by
  induction calls using List.reverseRecOn with
  | nil => exact .fresh rules
  | append_singleton earlier next ih =>
      rw [run_concat]
      exact call_inService ih next

end Session

namespace Engine

variable {e other : Engine}

/-- No engine in service stores a balance of nothing, an address or a seller without entries, or an
empty list of contributions.  So engines that answer the same balances have one and the same
ledger, and likewise for offers and for crowdsales. -/
theorem InService.stores_answers (served : e.InService) (served' : other.InService) :
    (∀ address row, e.state.ledger.balances.get? address = some row →
      row ≠ .empty ∧ ∀ property b, row.get? property = some b →
        ¬ (b.available = 0 ∧ b.reserved = 0)) ∧
    (∀ seller row, e.state.orders.offers.get? seller = some row → row ≠ .empty) ∧
    (∀ property list, e.state.crowdsales.participations.get? property = some list → list ≠ []) ∧
    (e.state.ledger = other.state.ledger ↔ ∀ address property,
      e.state.ledger.balance address property = other.state.ledger.balance address property) ∧
    (e.state.orders = other.state.orders ↔ ∀ seller property,
      e.state.orders.get? seller property = other.state.orders.get? seller property) ∧
    (e.state.crowdsales = other.state.crowdsales ↔ ∀ property,
      e.state.crowdsales.get? property = other.state.crowdsales.get? property ∧
      e.state.crowdsales.participationsOf property =
        other.state.crowdsales.participationsOf property) := by
  have tidy := served.tidy
  have tidy' := served'.tidy
  have rows : ∀ address row, e.state.ledger.balances.get? address = some row →
      row ≠ .empty ∧ ∀ property b, row.get? property = some b →
        ¬ (b.available = 0 ∧ b.reserved = 0) := by
    intro address row there
    refine ⟨tidy.ledger.compact address row there, ?_⟩
    rintro property ⟨available, reserved⟩ stored ⟨rfl, rfl⟩
    apply tidy.ledger.nonzero address property Balance.zero _ rfl
    rw [Cells.read, there]
    exact stored
  have ledgers : e.state.ledger = other.state.ledger ↔ ∀ address property,
      e.state.ledger.balance address property = other.state.ledger.balance address property := by
    constructor
    · intro same _ _
      rw [same]
    · exact tidy.ledger.ext tidy'.ledger
  have offers : e.state.orders = other.state.orders ↔ ∀ seller property,
      e.state.orders.get? seller property = other.state.orders.get? seller property := by
    constructor
    · intro same _ _
      rw [same]
    · exact tidy.orders.ext tidy'.orders
  have sales : e.state.crowdsales = other.state.crowdsales ↔ ∀ property,
      e.state.crowdsales.get? property = other.state.crowdsales.get? property ∧
      e.state.crowdsales.participationsOf property =
        other.state.crowdsales.participationsOf property := by
    constructor
    · intro same _
      rw [same]
      exact ⟨rfl, rfl⟩
    · intro same
      exact tidy.crowdsales.ext tidy'.crowdsales (fun property => (same property).1)
        fun property => (same property).2
  exact ⟨rows, tidy.orders, tidy.crowdsales, ledgers, offers, sales⟩

/-- An offer is opened and withdrawn, and what one owner sends away comes back. -/
def thereAndBack : List Call :=
  [.apply ⟨0, "x", "", 0, [
    ⟨"o", "a", none, Message.encode (Payload.sellOffer 1 4 8 10 0 .new).toMessage⟩,
    ⟨"s", "b", some "c", Message.encode (Payload.simpleSend 1 5).toMessage⟩]⟩,
  .apply ⟨1, "y", "x", 1, [
    ⟨"w", "a", none, Message.encode (Payload.sellOffer 1 0 0 0 0 .cancel).toMessage⟩,
    ⟨"t", "c", some "b", Message.encode (Payload.simpleSend 1 5).toMessage⟩]⟩]

theorem InService.stores_answers_again :
    let before := Engine.fresh Session.twoOwners
    let amid := (Session.run Session.twoOwners (thereAndBack.take 1)).engine
    let after := (Session.run Session.twoOwners thereAndBack).engine
    before.InService ∧ amid.InService ∧ after.InService ∧
      before.state.ledger ≠ amid.state.ledger ∧
      ¬ (∀ address property,
        before.state.ledger.balance address property =
          amid.state.ledger.balance address property) ∧
      before.state.ledger = after.state.ledger ∧
      (∀ address property, before.state.ledger.balance address property =
        after.state.ledger.balance address property) ∧
      before.state.orders = after.state.orders ∧
      ∀ seller property, before.state.orders.get? seller property =
        after.state.orders.get? seller property := by
  intro before amid after
  have begun : before.InService := .fresh Session.twoOwners
  have offering : amid.InService := Session.run_inService _ _
  have served : after.InService := Session.run_inService _ _
  have changed : before.state.ledger ≠ amid.state.ledger := by decide +kernel
  have ledger : before.state.ledger = after.state.ledger := by decide +kernel
  have orders : before.state.orders = after.state.orders := by decide +kernel
  have apart := begun.stores_answers offering
  have alike := begun.stores_answers served
  exact ⟨begun, offering, served, changed, fun same => changed (apart.2.2.2.1.mpr same), ledger,
    alike.2.2.2.1.mp ledger, orders, alike.2.2.2.2.1.mp orders⟩

end Engine
end TokenOverlay
