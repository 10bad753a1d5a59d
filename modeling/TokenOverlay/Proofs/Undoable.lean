import TokenOverlay.Proofs.Undo
import TokenOverlay.Proofs.Keeps

namespace TokenOverlay

/-!
Everything a message does to the state is a run of edits that can be taken
back, wherever the message is rejected.  The one exception is the receipt of a
distribution, which is the last edit of an accepted message.
-/

namespace Journal

/-- What an accepted message leaves behind: admitted edits and, last of all, perhaps the
receipt of its own transaction. -/
inductive Commits (journal : Journal) (txid : String) : Journal → Prop
  | edits {after : Journal} : journal.Extends after → Commits journal txid after
  | receipt {between : Journal} {receipt : DistributionReceipt} :
      journal.Extends between → receipt.txid = txid →
        Commits journal txid (between.record (.receipt receipt))

/-- To be reached from a journal by admitted edits. -/
def reached (first : Journal) (txid : String) : Condition where
  kept := first.Extends
  failed := first.Extends
  done := first.Commits txid
  weaken := fun _ run => run
  finish := fun _ run => .edits run

variable {first : Journal} {txid : String}

/-- Wherever an action ends, accepted or not, it has gone on by admitted edits. -/
theorem Extends.action {journal : Journal} (run : first.Extends journal) (txid : String)
    {action : Action α} (keeps : (first.reached txid).Keeps action) :
    first.Extends (action journal).2 := by
  have kept := keeps journal run
  rcases step : action journal with ⟨reason | value, after⟩
  · exact kept.of_error step
  · exact kept.of_ok step

theorem reached_edit {change : Edit} (admits : ∀ s : State, s.Admits change) :
    (first.reached txid).Keeps (Action.edit change) :=
  .edit fun journal run => .record run (admits journal.state)

theorem reached_balance (address : Address) (property : PropertyId) (next : Balance) :
    (first.reached txid).Keeps (Action.edit (.balance address property next)) :=
  reached_edit fun _ => trivial

theorem reached_supply (property : PropertyId) (total : Int) :
    (first.reached txid).Keeps (Action.edit (.supply property total)) :=
  reached_edit fun _ => trivial

theorem reached_offer (seller : Address) (property : PropertyId) (next : Option Offer) :
    (first.reached txid).Keeps (Action.edit (.offer seller property next)) :=
  reached_edit fun _ => trivial

theorem reached_mint (address : Address) (property : PropertyId) (amount : Int) :
    (first.reached txid).Keeps (Registry.mint address property amount) :=
  Condition.keeps_mint reached_balance reached_supply address property amount

/-- The new property comes under the number that was read just before. -/
theorem reached_issue (request : IssueRequest) :
    (first.reached txid).Keeps (Registry.issue request) :=
  Condition.keeps_issue request (fun _ _ run follows => .record run ⟨rfl, follows⟩) reached_mint

/-! ## Messages and the start of a block -/

theorem reached_blocks (first : Journal) (tx : TxContext) : (first.reached tx.txid).Blocks tx where
  toPlainBlocks := Condition.plainBlocks_of_edits reached_balance reached_supply
    (fun _ => reached_edit fun _ => trivial) (fun _ _ => reached_edit fun _ => trivial)
    (fun _ _ => reached_edit fun _ => trivial) (fun request _ => reached_issue request)
    fun _ named _ run => .receipt run named
  createOffer := fun _ _ _ => Condition.keeps_createOffer reached_balance (reached_offer _ _ _)
  updateOffer := fun _ _ _ =>
    Condition.keeps_updateOffer reached_balance fun _ _ => reached_offer _ _ _
  cancelOffer := fun _ => Condition.keeps_cancelOffer reached_balance (reached_offer _ _ _)
  acceptOffer := fun _ _ _ _ =>
    Condition.keeps_takeOffer reached_balance (reached_offer _ _ _) fun _ _ _ => reached_offer _ _ _

/-- A rejected message has made admitted edits only, and an accepted one may have added its
receipt. -/
theorem message_yields (rules : Rules) (tx : TxContext) (m : Message) (first : Journal) :
    (Execute.message rules tx m).Yields (fun _ => first.Commits tx.txid) (fun _ => first.Extends)
      first :=
  (reached_blocks first tx).message rules m first .refl

theorem prelude_yields (block : Block) (first : Journal) :
    (Engine.prelude block).Yields (fun _ => first.Extends) (fun _ => first.Extends) first := by
  have sale : ∀ next, (first.reached "").Keeps (Action.edit (.sale next)) :=
    fun next => reached_edit fun _ => trivial
  have feature : ∀ id next, (first.reached "").Keeps (Action.edit (.feature id next)) :=
    fun id next => reached_edit fun _ => trivial
  have kept := Condition.keeps_prelude sale feature block
  exact kept first .refl

end Journal
end TokenOverlay
