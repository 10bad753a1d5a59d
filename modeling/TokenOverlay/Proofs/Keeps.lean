import TokenOverlay.Proofs.Attempt
import TokenOverlay.Proofs.Distribution
import TokenOverlay.Execute.Message
import TokenOverlay.Engine.Apply

namespace TokenOverlay

/-!
Conditions that actions keep.  A message is made of few building blocks: tokens
are moved, minted and burnt, properties issued, offers and sales changed,
features switched.  Whatever condition the building blocks keep is kept by every
message, and this module is the one place where the messages are walked through
to say so.
-/

open Attempt

/-- The property that a request asks for, under a number and without tokens. -/
def IssueRequest.property (request : IssueRequest) (id : PropertyId) : Property where
  id := id
  ecosystem := request.ecosystem
  divisible := request.divisible
  issuer := request.issuer
  creationTxid := request.txid
  creationBlock := request.block
  totalTokens := 0
  kind := request.kind
  description := request.description

/-- A condition on a journal between two actions, and what is left of it when an action is
rejected and when a message is accepted. -/
structure Condition where
  kept : Journal → Prop
  failed : Journal → Prop
  done : Journal → Prop
  weaken : ∀ journal, kept journal → failed journal
  finish : ∀ journal, kept journal → done journal

namespace Condition

/-- A property of the state that accepted messages keep. -/
def ofState (holds : State → Prop) : Condition where
  kept journal := holds journal.state
  failed _ := True
  done journal := holds journal.state
  weaken := fun _ _ => trivial
  finish := fun _ held => held

/-- A property of the state that is kept whatever happens. -/
def throughout (holds : State → Prop) : Condition where
  kept journal := holds journal.state
  failed journal := holds journal.state
  done journal := holds journal.state
  weaken := fun _ held => held
  finish := fun _ held => held

variable {c : Condition} {α β : Type}

/-- The action keeps the condition wherever it is accepted. -/
def Keeps (c : Condition) (action : Action α) : Prop :=
  ∀ journal, c.kept journal →
    action.Yields (fun _ => c.kept) (fun _ => c.failed) journal

/-- The action ends a message on which the condition was kept so far. -/
def Concludes (c : Condition) (action : Action α) : Prop :=
  ∀ journal, c.kept journal →
    action.Yields (fun _ => c.done) (fun _ => c.failed) journal

namespace Keeps

theorem pure (value : α) : c.Keeps (Pure.pure value : Action α) :=
  fun _ held => held

theorem state : c.Keeps Action.state :=
  fun _ held => held

theorem bind {action : Action α} {next : α → Action β} (first : c.Keeps action)
    (later : ∀ value, c.Keeps (next value)) : c.Keeps (action >>= next) := by
  intro journal held
  refine (first journal held).bind ?_ fun _ _ failing => failing
  intro value between stillHeld
  exact later value between stillHeld

theorem guard (condition : Prop) [Decidable condition] (reason : Rejection) :
    c.Keeps (Action.guard condition reason) := by
  intro journal held
  rw [Action.yields_guard]
  exact ⟨fun _ => held, fun _ => c.weaken journal held⟩

/-- What a guard checks may be used behind it. -/
theorem guard_bind {condition : Prop} [Decidable condition] {reason : Rejection}
    {next : Unit → Action β} (later : condition → c.Keeps (next ())) :
    c.Keeps (Action.guard condition reason >>= next) := by
  intro journal held
  rw [yields_bind, Action.yields_guard]
  exact ⟨fun holds => later holds journal held, fun _ => c.weaken journal held⟩

theorem require (reason : Rejection) (value : Option α) :
    c.Keeps (Action.require reason value) := by
  intro journal held
  rw [Action.yields_require]
  exact ⟨fun _ _ => held, fun _ => c.weaken journal held⟩

/-- What is required is there behind the requirement. -/
theorem require_bind {reason : Rejection} {value : Option α} {next : α → Action β}
    (later : ∀ found, value = some found → c.Keeps (next found)) :
    c.Keeps (Action.require reason value >>= next) := by
  intro journal held
  rw [yields_bind, Action.yields_require]
  exact ⟨fun found known => later found known journal held, fun _ => c.weaken journal held⟩

theorem edit {change : Edit} (keeps : ∀ journal, c.kept journal → c.kept (journal.record change)) :
    c.Keeps (Action.edit change) :=
  keeps

theorem ite {condition : Prop} [Decidable condition] {yes no : Action α}
    (whenTrue : c.Keeps yes) (whenFalse : c.Keeps no) :
    c.Keeps (if condition then yes else no) := by
  split
  · exact whenTrue
  · exact whenFalse

theorem forM {items : List β} {step : β → Action Unit}
    (each : ∀ item ∈ items, c.Keeps (step item)) : c.Keeps (items.forM step) := by
  intro journal held
  apply Action.yields_forM c.kept
  · intro item member between stillHeld
    exact each item member between stillHeld
  · exact held

theorem concludes {action : Action α} (keeps : c.Keeps action) : c.Concludes action := by
  intro journal held
  refine (keeps journal held).mono ?_ fun _ _ failing => failing
  intro _ after stillHeld
  exact c.finish after stillHeld

/-- What is kept whatever happens holds of the state that an action leaves behind. -/
theorem state_after {holds : State → Prop} {action : Action α} {s : State}
    (keeps : (throughout holds).Keeps action) (held : holds s) :
    holds (action (.start s)).2.state := by
  have kept := keeps (.start s) held
  rcases run : action (.start s) with ⟨reason | _, after⟩
  · exact kept.of_error run
  · exact kept.of_ok run

end Keeps

namespace Concludes

/-- Steps that keep the condition may stand before the end. -/
theorem bind {action : Action α} {next : α → Action β} (first : c.Keeps action)
    (later : ∀ value, c.Concludes (next value)) : c.Concludes (action >>= next) := by
  intro journal held
  refine (first journal held).bind ?_ fun _ _ failing => failing
  intro value between stillHeld
  exact later value between stillHeld

theorem guard_bind {condition : Prop} [Decidable condition] {reason : Rejection}
    {next : Unit → Action β} (later : condition → c.Concludes (next ())) :
    c.Concludes (Action.guard condition reason >>= next) := by
  intro journal held
  rw [yields_bind, Action.yields_guard]
  exact ⟨fun holds => later holds journal held, fun _ => c.weaken journal held⟩

end Concludes

/-! ## The building blocks -/

/-- The building blocks of the messages of one transaction that change no offer, each with what its
arguments are known to be where it is used. -/
structure PlainBlocks (c : Condition) (tx : TxContext) : Prop where
  mint : ∀ recipient id amount, c.Keeps (Registry.mint recipient id amount)
  burn : ∀ id amount, c.Keeps (Registry.burn tx.sender id amount)
  issue : ∀ request, request.issuer = tx.sender → c.Keeps (Registry.issue request)
  transfer : ∀ target property amount, 0 < amount → c.Keeps (do
    Ledger.debit tx.sender property amount
    Ledger.credit target property amount)
  distribute : ∀ property amount recipients, (∀ r ∈ recipients, 0 < r.amount) →
    Amount.total (recipients.map Recipient.amount) = amount → c.Keeps (do
      Ledger.debit tx.sender property amount
      Execute.creditAll property recipients)
  createSale : ∀ sale, sale.issuer = tx.sender → c.Keeps (CrowdsaleBook.create sale)
  closeSale : ∀ property,
    c.Keeps (CrowdsaleBook.close tx.sender property tx.txid tx.block)
  purchase : ∀ property quote p, c.Keeps (CrowdsaleBook.recordPurchase property quote p)
  activate : ∀ id target clientVersion window,
    c.Keeps (FeatureTable.activate id target clientVersion tx.block window tx.txid)
  deactivate : ∀ id, c.Keeps (FeatureTable.deactivate id)
  receipt : ∀ receipt : DistributionReceipt, receipt.txid = tx.txid →
    ∀ journal, c.kept journal → c.done (journal.record (.receipt receipt))

/-- The building blocks that change what is the sender's own: the plain ones, and those that change
its offers. -/
structure OwnBlocks (c : Condition) (tx : TxContext) : Prop extends PlainBlocks c tx where
  createOffer : ∀ property terms, 0 < terms.amount →
    c.Keeps (OrderBook.create tx.sender property terms)
  updateOffer : ∀ property terms, 0 < terms.amount →
    c.Keeps (OrderBook.update tx.sender property terms)
  cancelOffer : ∀ property, c.Keeps (OrderBook.cancel tx.sender property)

/-- All building blocks: those of the sender's own, and the one that takes from the offer of
another. -/
structure Blocks (c : Condition) (tx : TxContext) : Prop extends OwnBlocks c tx where
  acceptOffer : ∀ seller property amount, 0 < amount →
    c.Keeps (OrderBook.accept tx.sender seller property amount)

/-! ## Building blocks that make edits of one kind -/

/-- The offer is one that a seller may have while the condition holds. -/
def Knows (c : Condition) (seller : Address) (property : PropertyId) (offer : Offer) : Prop :=
  ∃ journal, c.kept journal ∧ journal.state.orders.get? seller property = some offer

theorem existing_bind {seller : Address} {property : PropertyId} {next : Offer → Action β}
    (later : ∀ offer, c.Knows seller property offer → c.Keeps (next offer)) :
    c.Keeps (OrderBook.existing seller property >>= next) := by
  intro journal held
  rw [OrderBook.existing, bind_assoc, yields_bind, Action.yields_state, yields_bind,
    Action.yields_require]
  exact ⟨fun offer found => later offer ⟨journal, held, found⟩ journal held,
    fun _ => c.weaken journal held⟩

section Edits

variable (balance : ∀ address property next, c.Keeps (Action.edit (.balance address property next)))
  (supply : ∀ property total, c.Keeps (Action.edit (.supply property total)))
  (sale : ∀ sale, c.Keeps (Action.edit (.sale sale)))
  (participation : ∀ property p, c.Keeps (Action.edit (.participation property p)))
  (feature : ∀ id feature, c.Keeps (Action.edit (.feature id feature)))

section

include balance

variable (address target : Address) (property : PropertyId) (amount : Int)

theorem keeps_set (next : Balance) : c.Keeps (Ledger.set address property next) :=
  .bind .state fun _ => .ite (.pure ()) (balance address property next)

theorem keeps_credit : c.Keeps (Ledger.credit address property amount) :=
  .bind .state fun _ => .bind (.require _ _) fun _ => keeps_set balance address property _

theorem keeps_debit : c.Keeps (Ledger.debit address property amount) :=
  .bind .state fun _ => .bind (.guard _ _) fun _ => keeps_set balance address property _

theorem keeps_reserve : c.Keeps (Ledger.reserve address property amount) :=
  .bind .state fun _ => .bind (.guard _ _) fun _ => .bind (.require _ _) fun _ =>
    keeps_set balance address property _

theorem keeps_unreserve : c.Keeps (Ledger.unreserve address property amount) :=
  .bind .state fun _ => .bind (.guard _ _) fun _ => .bind (.require _ _) fun _ =>
    keeps_set balance address property _

theorem keeps_transferReserved :
    c.Keeps (Ledger.transferReserved address target property amount) := by
  refine .bind .state fun _ => .bind (.guard _ _) fun _ => ?_
  refine .bind (keeps_set balance address property _) fun _ => ?_
  exact keeps_credit balance target property amount

theorem keeps_transfer : c.Keeps (do
    Ledger.debit address property amount
    Ledger.credit target property amount) :=
  .bind (keeps_debit balance address property amount) fun _ =>
    keeps_credit balance target property amount

theorem keeps_distribute (recipients : List Recipient) : c.Keeps (do
    Ledger.debit address property amount
    Execute.creditAll property recipients) :=
  .bind (keeps_debit balance address property amount) fun _ => .forM fun recipient _ =>
    keeps_credit balance recipient.address property recipient.amount

include supply

theorem keeps_mint : c.Keeps (Registry.mint address property amount) := by
  refine .bind (.guard _ _) fun _ => .bind (.bind .state fun _ => .require _ _) fun p => ?_
  refine .bind (.require _ _) fun total => .bind (supply property total) fun _ => ?_
  exact keeps_credit balance address property amount

theorem keeps_burn : c.Keeps (Registry.burn address property amount) := by
  refine .bind (.guard _ _) fun _ => .bind (.bind .state fun _ => .require _ _) fun p => ?_
  exact .bind (keeps_debit balance address property amount) fun _ => supply property _

end

section

include balance

variable {owner : Address} {property : PropertyId}

theorem keeps_createOffer {terms : OfferTerms}
    (opened : c.Keeps (Action.edit
      (.offer owner property (some (Offer.ofTerms owner property terms))))) :
    c.Keeps (OrderBook.create owner property terms) := by
  refine .bind .state fun _ => .bind (.guard _ _) fun _ => ?_
  exact .bind (keeps_reserve balance owner property terms.amount) fun _ => opened

theorem keeps_updateOffer {terms : OfferTerms}
    (replaced : ∀ old, c.Knows owner property old → c.Keeps (Action.edit
      (.offer old.seller old.propertyId
        (some (Offer.ofTerms old.seller old.propertyId terms))))) :
    c.Keeps (OrderBook.update owner property terms) := by
  refine existing_bind fun old known => ?_
  refine .bind (keeps_unreserve balance owner property old.amountRemaining) fun _ => ?_
  exact .bind (keeps_reserve balance owner property terms.amount) fun _ => replaced old known

theorem keeps_cancelOffer (removed : c.Keeps (Action.edit (.offer owner property none))) :
    c.Keeps (OrderBook.cancel owner property) := by
  refine existing_bind fun old _ => ?_
  exact .bind (keeps_unreserve balance owner property old.amountRemaining) fun _ => removed

theorem keeps_takeOffer {buyer : Address} {amount : Int}
    (removed : c.Keeps (Action.edit (.offer owner property none)))
    (reduced : ∀ old, c.Knows owner property old → amount < old.amountRemaining →
      c.Keeps (Action.edit
        (.offer old.seller old.propertyId (some (OrderBook.afterAccept old amount))))) :
    c.Keeps (OrderBook.accept buyer owner property amount) := by
  refine .bind (.guard _ _) fun _ => existing_bind fun old known => ?_
  refine .guard_bind fun enough => ?_
  refine .bind (keeps_transferReserved balance owner buyer property amount) fun _ => ?_
  split
  · exact .bind removed fun _ => .pure _
  · next some =>
      have less : amount < old.amountRemaining := by omega
      exact .bind (reduced old known less) fun _ => .pure _

end

include sale in
theorem keeps_createSale (opened : Crowdsale) : c.Keeps (CrowdsaleBook.create opened) := by
  refine .bind .state fun _ => ?_
  exact .bind (.guard _ _) fun _ => sale opened

include sale in
theorem keeps_closeSale (sender : Address) (property : PropertyId) (txid : String) (block : Nat) :
    c.Keeps (CrowdsaleBook.close sender property txid block) := by
  refine .bind .state fun _ => .bind (.require _ _) fun closing => ?_
  exact .bind (.guard _ _) fun _ => .bind (.guard _ _) fun _ => sale _

include sale participation in
theorem keeps_purchase (property : PropertyId) (quote : Quote) (p : Participation) :
    c.Keeps (CrowdsaleBook.recordPurchase property quote p) := by
  refine .bind .state fun _ => .bind (.require _ _) fun sold => ?_
  refine .bind (.require _ _) fun issued => .bind (.require _ _) fun issuer => ?_
  exact .bind (sale _) fun _ => participation property p

include feature in
theorem keeps_activate (id : FeatureId) (target : Nat) (clientVersion : UInt32) (height : Nat)
    (window : GraceWindow) (txid : String) :
    c.Keeps (FeatureTable.activate id target clientVersion height window txid) := by
  refine .bind (.require _ _) fun name => .bind (.guard _ _) fun _ => .bind .state fun _ => ?_
  exact .ite (.pure _) (.bind (feature id _) fun _ => .pure _)

include feature in
theorem keeps_deactivate (id : FeatureId) : c.Keeps (FeatureTable.deactivate id) := by
  refine .bind (.guard _ _) fun _ => .bind .state fun _ => ?_
  exact .bind (.guard _ _) fun _ => feature id none

include feature in
theorem keeps_completePending (height : Nat) : c.Keeps (FeatureTable.completePending height) := by
  refine .bind .state fun _ => ?_
  exact .bind (.forM fun due _ => feature due.featureId _) fun _ => .pure _

theorem keeps_expire_of (time : Int) {block : Nat}
    (expired : ∀ property, c.Keeps (CrowdsaleBook.expireOne block property)) :
    c.Keeps (CrowdsaleBook.expire time block) := by
  refine .bind .state fun _ => ?_
  exact .bind (.forM fun property _ => expired property) fun _ => .pure _

include sale in
theorem keeps_expireOne (block : Nat) (property : PropertyId) :
    c.Keeps (CrowdsaleBook.expireOne block property) := by
  refine .bind .state fun s => ?_
  cases s.crowdsales.get? property with
  | some overdue => exact sale _
  | none => exact .pure ()

include feature in
/-- The start of a block switches features on and ends sales that are over. -/
theorem keeps_prelude_of (block : Block)
    (expired : ∀ property, c.Keeps (CrowdsaleBook.expireOne block.height property)) :
    c.Keeps (Engine.prelude block) := by
  refine .bind (keeps_completePending feature block.height) fun _ => ?_
  exact .bind (keeps_expire_of block.time expired) fun _ => .pure ()

include sale feature in
theorem keeps_prelude (block : Block) : c.Keeps (Engine.prelude block) :=
  keeps_prelude_of feature block (keeps_expireOne sale block.height)

include balance supply sale participation feature in
/-- A condition that no edit minds, other than one of an offer, is kept by the plain building
blocks. -/
theorem plainBlocks_of_edits {tx : TxContext}
    (issue : ∀ request, request.issuer = tx.sender → c.Keeps (Registry.issue request))
    (receipt : ∀ receipt : DistributionReceipt, receipt.txid = tx.txid →
      ∀ journal, c.kept journal → c.done (journal.record (.receipt receipt))) :
    c.PlainBlocks tx where
  mint := keeps_mint balance supply
  burn := keeps_burn balance supply tx.sender
  issue := issue
  transfer := fun target property amount _ =>
    keeps_transfer balance tx.sender target property amount
  distribute := fun property amount recipients _ _ =>
    keeps_distribute balance tx.sender property amount recipients
  createSale := fun opened _ => keeps_createSale sale opened
  closeSale := fun property => keeps_closeSale sale _ property _ _
  purchase := keeps_purchase sale participation
  activate := fun id target version window => keeps_activate feature id target version _ window _
  deactivate := keeps_deactivate feature
  receipt := receipt

end Edits

/-- A property comes under the number that is read just before, and then its first tokens are
minted. -/
theorem keeps_issue (request : IssueRequest)
    (register : ∀ journal next, c.kept journal →
      Registry.followingId request.ecosystem
        (journal.state.registry.nextId request.ecosystem) = .ok next →
      c.kept (journal.record (.register
        (request.property (journal.state.registry.nextId request.ecosystem)) next)))
    (mint : ∀ recipient id amount, c.Keeps (Registry.mint recipient id amount)) :
    c.Keeps (Registry.issue request) := by
  refine .bind (.guard _ _) fun _ => ?_
  intro journal held
  rw [yields_bind, Action.yields_state]
  dsimp only
  split
  · exact c.weaken journal held
  · next next follows =>
      rw [yields_bind, Action.yields_edit]
      have minted : c.Keeps (do
          if 0 < request.initialAmount then
            Registry.mint request.issuer (journal.state.registry.nextId request.ecosystem)
              request.initialAmount
          return journal.state.registry.nextId request.ecosystem) :=
        .ite (.bind (mint _ _ _) fun _ => .pure _) (.pure _)
      exact minted _ (register journal next held follows)

/-! ## Steps that read only -/

theorem keeps_lookup (id : PropertyId) : c.Keeps (Registry.lookup id) :=
  .bind .state fun _ => .require _ _

/-- An amount that was read is positive and within the supply ceiling. -/
theorem amountOf_bind {raw : UInt64} {next : Int → Action α}
    (later : ∀ amount, 0 < amount → amount ≤ maxTokens → c.Keeps (next amount)) :
    c.Keeps (Execute.amountOf raw >>= next) := by
  rw [Execute.amountOf, bind_assoc]
  refine .guard_bind fun inRange => ?_
  rw [pure_bind]
  exact later raw.toNat (Int.natCast_pos.mpr inRange.1) inRange.2

theorem amountOf_concludes {raw : UInt64} {next : Int → Action α}
    (later : ∀ amount, 0 < amount → amount ≤ maxTokens → c.Concludes (next amount)) :
    c.Concludes (Execute.amountOf raw >>= next) := by
  rw [Execute.amountOf, bind_assoc]
  refine .guard_bind fun inRange => ?_
  rw [pure_bind]
  exact later raw.toNat (Int.natCast_pos.mpr inRange.1) inRange.2

theorem keeps_checkIssuance (issuance : Issuance) : c.Keeps (Execute.checkIssuance issuance) := by
  refine .bind (.require _ _) fun ecosystem => ?_
  refine .bind (.require _ _) fun divisible => ?_
  refine .bind (.guard _ _) fun _ => ?_
  exact .bind (.guard _ _) fun _ => .pure _

theorem keeps_checkManager (sender : Address) (id : PropertyId) :
    c.Keeps (Registry.checkManager sender id) := by
  refine .bind (keeps_lookup id) fun property => ?_
  exact .bind (.guard _ _) fun _ => .guard _ _

theorem termsOf_bind {tx : TxContext} {amount desired : UInt64} {timeLimit : UInt8}
    {minFee : UInt64} {next : OfferTerms → Action α}
    (later : ∀ terms, 0 < terms.amount → c.Keeps (next terms)) :
    c.Keeps (Execute.termsOf tx amount desired timeLimit minFee >>= next) := by
  rw [Execute.termsOf, bind_assoc]
  refine amountOf_bind fun offered positive _ => ?_
  rw [bind_assoc]
  refine amountOf_bind fun asked _ _ => ?_
  rw [bind_assoc]
  refine .bind (.guard _ _) fun _ => ?_
  rw [pure_bind]
  exact later _ positive

/-! ## The messages -/

/-! ### Offers -/

section Offers

variable {tx : TxContext} {property : PropertyId}

/-- A message on an offer of its sender, where that property is offered. -/
theorem keeps_sellOffer
    (create : ∀ terms, 0 < terms.amount → c.Keeps (OrderBook.create tx.sender property terms))
    (update : ∀ terms, 0 < terms.amount → c.Keeps (OrderBook.update tx.sender property terms))
    (cancel : c.Keeps (OrderBook.cancel tx.sender property)) (amount desired : UInt64)
    (timeLimit : UInt8) (minFee : UInt64) (action : OfferAction) :
    c.Keeps (Execute.sellOffer tx property amount desired timeLimit minFee action) := by
  refine .bind (keeps_lookup property) fun _ => ?_
  refine .bind (.bind .state fun _ => .guard _ _) fun _ => ?_
  cases action with
  | new =>
      refine termsOf_bind fun terms positive => ?_
      exact .bind (create terms positive) fun _ => .pure _
  | update =>
      refine termsOf_bind fun terms positive => ?_
      exact .bind (update terms positive) fun _ => .pure _
  | cancel => exact .bind cancel fun _ => .pure _

/-- A message that takes from the offer of the one it refers to. -/
theorem keeps_acceptOffer
    (accept : ∀ seller, tx.reference = some seller → ∀ amount, 0 < amount →
      c.Keeps (OrderBook.accept tx.sender seller property amount)) (raw : UInt64) :
    c.Keeps (Execute.acceptOffer tx property raw) := by
  refine amountOf_bind fun amount positive _ => ?_
  refine .bind (keeps_lookup property) fun _ => ?_
  refine .require_bind fun seller named => ?_
  exact .bind (accept seller named amount positive) fun _ => .pure _

end Offers

namespace PlainBlocks

variable {tx : TxContext} (blocks : c.PlainBlocks tx) (rules : Rules)

include blocks

theorem mintIfAny (recipient : Address) (id : PropertyId) (amount : Int) :
    c.Keeps (Execute.mintIfAny recipient id amount) :=
  .ite (blocks.mint recipient id amount) (.pure ())

theorem burnFee (id : PropertyId) (fee : Int) : c.Keeps (Execute.burnFee tx.sender id fee) :=
  .ite (blocks.burn id fee) (.pure ())

theorem creditPurchase (sale : Crowdsale) (amount : Int) (quote : Quote) :
    c.Keeps (Execute.creditPurchase tx sale amount quote) := by
  refine .bind (blocks.mintIfAny _ _ _) fun _ => ?_
  refine .bind (blocks.mintIfAny _ _ _) fun _ => ?_
  exact .bind (blocks.purchase _ quote _) fun _ => .pure _

theorem contribute (sale : Crowdsale) (property : PropertyId) (amount : Int) :
    c.Keeps (Execute.contribute rules tx sale property amount) := by
  refine .bind (keeps_lookup sale.propertyId) fun sold => ?_
  refine .bind .state fun s => ?_
  exact .ite (.pure _) (blocks.creditPurchase sale amount _)

theorem simpleSend (property : PropertyId) (raw : UInt64) :
    c.Keeps (Execute.simpleSend rules tx property raw) := by
  refine amountOf_bind fun amount positive _ => ?_
  refine .bind (keeps_lookup property) fun _ => ?_
  refine .bind (.require _ _) fun recipient => ?_
  rw [← bind_assoc]
  refine .bind (blocks.transfer recipient property amount positive) fun _ => ?_
  refine .bind .state fun s => ?_
  split
  · exact blocks.contribute rules _ property amount
  · exact .pure _

/-- What is debited from the sender is what the recipients are credited together. -/
theorem sendToOwners (property : PropertyId) (raw : UInt64) (distribution : Option PropertyId) :
    c.Concludes (Execute.sendToOwners rules tx property raw distribution) := by
  refine .bind .state fun _ => .bind (.guard _ _) fun _ => ?_
  refine amountOf_concludes fun amount _ fits => ?_
  refine .bind (keeps_lookup property) fun sent => ?_
  refine .bind (keeps_lookup (distribution.getD property)) fun _ => ?_
  refine .bind .state fun s => .bind (.guard _ _) fun _ => ?_
  refine .guard_bind fun served => .bind (.guard _ _) fun _ => ?_
  have whole := Distribution.total_distribute Distribution.eligibleOwners_positive fits served
  have paid := blocks.distribute property amount _
    (fun _ member => Distribution.distribute_positive member) whole
  rw [← bind_assoc]
  refine .bind paid fun _ => .bind (blocks.burnFee _ _) fun _ => ?_
  intro journal held
  exact blocks.receipt _ rfl journal held

theorem sendAll (byte : UInt8) : c.Keeps (Execute.sendAll tx byte) := by
  refine .bind (.require _ _) fun ecosystem => .bind (.require _ _) fun recipient => ?_
  refine .bind .state fun s => .bind (.guard _ _) fun _ => ?_
  have moved : c.Keeps (Execute.moveAll tx.sender recipient
      (s.ledger.availableIn tx.sender ecosystem)) := by
    refine .forM fun move member => ?_
    rcases List.mem_map.mp member with ⟨entry, kept, rfl⟩
    have spendable := (Bool.and_eq_true_iff.mp (List.mem_filter.mp kept).2).2
    exact blocks.transfer recipient entry.1 entry.2.available (of_decide_eq_true spendable)
  exact .bind moved fun _ => .pure _

theorem issueFixed (issuance : Issuance) (raw : UInt64) :
    c.Keeps (Execute.issueFixed tx issuance raw) := by
  refine .bind (keeps_checkIssuance issuance) fun _ => ?_
  refine amountOf_bind fun amount _ _ => ?_
  exact .bind (blocks.issue _ rfl) fun _ => .pure _

theorem issueManaged (issuance : Issuance) : c.Keeps (Execute.issueManaged tx issuance) := by
  refine .bind (keeps_checkIssuance issuance) fun _ => ?_
  exact .bind (blocks.issue _ rfl) fun _ => .pure _

theorem issueCrowdsale (issuance : Issuance) (desired : PropertyId) (rate rawDeadline : UInt64)
    (earlyBonus issuerPercent : UInt8) :
    c.Keeps (Execute.issueCrowdsale tx issuance desired rate rawDeadline earlyBonus
      issuerPercent) := by
  refine .bind (keeps_checkIssuance issuance) fun _ => ?_
  refine .bind (keeps_lookup desired) fun _ => .bind (.guard _ _) fun _ => ?_
  refine amountOf_bind fun tokensPerUnit _ _ => ?_
  refine .bind (.guard _ _) fun _ => .bind .state fun _ => .bind (.guard _ _) fun _ => ?_
  refine .bind (blocks.issue _ rfl) fun id => ?_
  exact .bind (blocks.createSale _ rfl) fun _ => .pure _

theorem closeCrowdsale (property : PropertyId) :
    c.Keeps (Execute.closeCrowdsale tx property) := by
  refine .bind (keeps_lookup property) fun _ => ?_
  exact .bind (blocks.closeSale property) fun _ => .pure _

theorem grant (property : PropertyId) (raw : UInt64) :
    c.Keeps (Execute.grant tx property raw) := by
  refine amountOf_bind fun amount _ _ => ?_
  refine .bind (.bind (keeps_checkManager tx.sender property) fun _ => ?_) fun _ => .pure _
  exact blocks.mint _ property amount

theorem revoke (property : PropertyId) (raw : UInt64) :
    c.Keeps (Execute.revoke tx property raw) := by
  refine amountOf_bind fun amount _ _ => ?_
  refine .bind (.bind (keeps_checkManager tx.sender property) fun _ => ?_) fun _ => .pure _
  exact blocks.burn property amount

/-! ### All kinds -/

/-- Every payload but a distribution keeps what the building blocks keep, if the payloads of the
exchange do. -/
theorem payload {p : Payload}
    (sell : ∀ property amount desired timeLimit minFee action,
      p = .sellOffer property amount desired timeLimit minFee action →
        c.Keeps (Execute.sellOffer tx property amount desired timeLimit minFee action))
    (accept : ∀ property amount, p = .acceptOffer property amount →
      c.Keeps (Execute.acceptOffer tx property amount))
    (undistributed : ∀ property amount distribution,
      p ≠ .sendToOwners property amount distribution) :
    c.Keeps (Execute.payload rules tx p) := by
  cases p with
  | simpleSend property amount => exact blocks.simpleSend rules property amount
  | sendToOwners property amount distribution =>
      exact absurd rfl (undistributed property amount distribution)
  | sendAll ecosystem => exact blocks.sendAll ecosystem
  | sellOffer property amount desired timeLimit minFee action =>
      exact sell property amount desired timeLimit minFee action rfl
  | acceptOffer property amount => exact accept property amount rfl
  | issueFixed issuance amount => exact blocks.issueFixed issuance amount
  | issueCrowdsale issuance desired rate deadline earlyBonus issuerPercent =>
      exact blocks.issueCrowdsale issuance desired rate deadline earlyBonus issuerPercent
  | closeCrowdsale property => exact blocks.closeCrowdsale property
  | issueManaged issuance => exact blocks.issueManaged issuance
  | grant property amount _ => exact blocks.grant property amount
  | revoke property amount _ => exact blocks.revoke property amount
  | deactivate id =>
      exact .bind (.guard _ _) fun _ => .bind (blocks.deactivate id) fun _ => .pure _
  | activate id target clientVersion =>
      exact .bind (.guard _ _) fun _ => .bind (blocks.activate id _ _ _) fun _ => .pure _

/-- Every message comes to its end with what the building blocks keep, if the payloads of the
exchange do. -/
theorem message {m : Message}
    (sell : ∀ property amount desired timeLimit minFee action,
      m.payload = .sellOffer property amount desired timeLimit minFee action →
        c.Keeps (Execute.sellOffer tx property amount desired timeLimit minFee action))
    (accept : ∀ property amount, m.payload = .acceptOffer property amount →
      c.Keeps (Execute.acceptOffer tx property amount)) :
    c.Concludes (Execute.message rules tx m) := by
  refine .bind (.guard _ _) fun _ => ?_
  by_cases distributes : ∃ property amount distribution,
      m.payload = .sendToOwners property amount distribution
  · rcases distributes with ⟨property, amount, distribution, kind⟩
    rw [kind]
    exact blocks.sendToOwners rules property amount distribution
  · have undistributed : ∀ property amount distribution,
        m.payload ≠ .sendToOwners property amount distribution :=
      fun property amount distribution kind => distributes ⟨property, amount, distribution, kind⟩
    exact (blocks.payload rules sell accept undistributed).concludes

end PlainBlocks

namespace OwnBlocks

variable {tx : TxContext} (blocks : c.OwnBlocks tx) (rules : Rules)

include blocks

theorem sellOffer (property : PropertyId) (amount desired : UInt64) (timeLimit : UInt8)
    (minFee : UInt64) (action : OfferAction) :
    c.Keeps (Execute.sellOffer tx property amount desired timeLimit minFee action) :=
  keeps_sellOffer (blocks.createOffer property) (blocks.updateOffer property)
    (blocks.cancelOffer property) amount desired timeLimit minFee action

/-- Every message that is no accept comes to its end with what the building blocks keep. -/
theorem message {m : Message} (own : ∀ property amount, m.payload ≠ .acceptOffer property amount) :
    c.Concludes (Execute.message rules tx m) :=
  blocks.toPlainBlocks.message rules
    (fun property amount desired timeLimit minFee action _ =>
      blocks.sellOffer property amount desired timeLimit minFee action)
    fun property amount kind => absurd kind (own property amount)

end OwnBlocks

namespace Blocks

variable {tx : TxContext} (blocks : c.Blocks tx) (rules : Rules)

include blocks

theorem accept (property : PropertyId) (raw : UInt64) :
    c.Keeps (Execute.acceptOffer tx property raw) :=
  keeps_acceptOffer (fun seller _ => blocks.acceptOffer seller property) raw

/-- Every payload but a distribution keeps what the building blocks keep. -/
theorem payload {p : Payload}
    (undistributed : ∀ property amount distribution,
      p ≠ .sendToOwners property amount distribution) :
    c.Keeps (Execute.payload rules tx p) :=
  blocks.toPlainBlocks.payload rules
    (fun property amount desired timeLimit minFee action _ =>
      blocks.sellOffer property amount desired timeLimit minFee action)
    (fun property amount _ => blocks.accept property amount) undistributed

/-- Every message comes to its end with what the building blocks keep. -/
theorem message (m : Message) : c.Concludes (Execute.message rules tx m) :=
  blocks.toPlainBlocks.message rules
    (fun property amount desired timeLimit minFee action _ =>
      blocks.sellOffer property amount desired timeLimit minFee action)
    fun property amount _ => blocks.accept property amount

end Blocks
end Condition

/-- Before the first block, balances and supplies have changed only. -/
theorem Engine.genesisState_keeps (holds : State → Prop) (initial : holds .initial)
    (balance : ∀ s address property next, holds s →
      holds (s.apply (.balance address property next)))
    (supply : ∀ s property total, holds s → holds (s.apply (.supply property total)))
    (config : EngineConfig) : holds (genesisState config) :=
  List.foldlRecOn config.allocations allocate initial fun _ held allocation _ =>
    (Condition.keeps_mint (c := .throughout holds)
      (fun _ _ _ => .edit fun _ kept => balance _ _ _ _ kept)
      (fun _ _ => .edit fun _ kept => supply _ _ _ kept) allocation.address allocation.property
      allocation.amount).state_after held

end TokenOverlay
