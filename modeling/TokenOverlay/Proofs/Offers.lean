import TokenOverlay.Proofs.Laws

namespace TokenOverlay

/-!
The order book between one transaction and the next.  Only two kinds of messages
write to it, and each of them writes to one place: that of the sender, or that
of the one whose offer is accepted.  What holds of the book is therefore kept by
every message that keeps it at that one place.
-/

namespace OrderBook

/-- Every offer is kept under its seller and its property. -/
def Keyed (book : OrderBook) : Prop :=
  ∀ seller property offer, book.get? seller property = some offer →
    offer.seller = seller ∧ offer.propertyId = property

theorem Keyed.write {book : OrderBook} (keyed : book.Keyed) {seller : Address}
    {property : PropertyId} {next : Option Offer}
    (own : ∀ offer, next = some offer → offer.seller = seller ∧ offer.propertyId = property) :
    (book.write seller property next).Keyed := by
  intro other q offer found
  rw [get?_write] at found
  split at found
  · next here =>
      rw [here.1, here.2]
      exact own offer found
  · exact keyed other q offer found

end OrderBook

/-! ## Conditions on the order book -/

namespace Condition

/-- The order book is keyed, and something else holds of it. -/
abbrev onOffers (holds : OrderBook → Prop) : Condition :=
  .throughout fun s => s.orders.Keyed ∧ holds s.orders

variable {holds : OrderBook → Prop} {tx : TxContext}

theorem onOffers_balance (address : Address) (property : PropertyId) (next : Balance) :
    (onOffers holds).Keeps (Action.edit (.balance address property next)) :=
  .edit fun _ held => held

theorem onOffers_supply (property : PropertyId) (total : Int) :
    (onOffers holds).Keeps (Action.edit (.supply property total)) :=
  .edit fun _ held => held

/-- What does not belong to the exchange leaves the order book alone. -/
theorem onOffers_plain (holds : OrderBook → Prop) (tx : TxContext) :
    (onOffers holds).PlainBlocks tx :=
  plainBlocks_of_edits onOffers_balance onOffers_supply (fun _ => .edit fun _ held => held)
    (fun _ _ => .edit fun _ held => held) (fun _ _ => .edit fun _ held => held)
    (fun request _ => keeps_issue request (fun _ _ held _ => held)
      (keeps_mint onOffers_balance onOffers_supply))
    fun _ _ _ held => held

/-- An offer that may be written at the place where it belongs. -/
theorem onOffers_write {seller : Address} {property : PropertyId} {next : Option Offer}
    (own : ∀ offer, next = some offer → offer.seller = seller ∧ offer.propertyId = property)
    (written : ∀ book, holds book → holds (book.write seller property next)) :
    (onOffers holds).Keeps (Action.edit (.offer seller property next)) :=
  .edit fun _ held => ⟨held.1.write own, written _ held.2⟩

/-- Opening, changing and withdrawing an offer writes at the place of the sender. -/
theorem onOffers_sellOffer {property : PropertyId}
    (opened : ∀ book terms, holds book → 0 < terms.amount →
      holds (book.write tx.sender property (some (Offer.ofTerms tx.sender property terms))))
    (removed : ∀ book, holds book → holds (book.write tx.sender property none))
    (amount desired : UInt64) (timeLimit : UInt8) (minFee : UInt64) (action : OfferAction) :
    (onOffers holds).Keeps
      (Execute.sellOffer tx property amount desired timeLimit minFee action) := by
  have write : ∀ terms : OfferTerms, 0 < terms.amount → (onOffers holds).Keeps (Action.edit
      (.offer tx.sender property (some (Offer.ofTerms tx.sender property terms)))) := by
    intro terms positive
    refine onOffers_write ?_ fun book held => opened book terms held positive
    rintro _ ⟨⟩
    exact ⟨rfl, rfl⟩
  refine keeps_sellOffer ?_ ?_ ?_ amount desired timeLimit minFee action
  · exact fun terms positive => keeps_createOffer onOffers_balance (write terms positive)
  · intro terms positive
    refine keeps_updateOffer onOffers_balance ?_
    rintro old ⟨journal, held, found⟩
    rcases held.1 _ _ _ found with ⟨sameSeller, sameProperty⟩
    rw [sameSeller, sameProperty]
    exact write terms positive
  · exact keeps_cancelOffer onOffers_balance (onOffers_write nofun removed)

/-- Accepting an offer writes at the place of the one whose offer it is, where there was one. -/
theorem onOffers_acceptOffer {property : PropertyId}
    (removed : ∀ seller, tx.reference = some seller → ∀ book, holds book →
      holds (book.write seller property none))
    (reduced : ∀ seller, tx.reference = some seller → ∀ before old amount, holds before →
      before.get? seller property = some old → amount < old.amountRemaining →
      ∀ book, holds book →
        holds (book.write seller property (some (OrderBook.afterAccept old amount))))
    (raw : UInt64) :
    (onOffers holds).Keeps (Execute.acceptOffer tx property raw) := by
  refine keeps_acceptOffer (fun seller named amount _ => ?_) raw
  refine keeps_takeOffer onOffers_balance (onOffers_write nofun (removed seller named)) ?_
  rintro old ⟨journal, held, found⟩ less
  rcases held.1 _ _ _ found with ⟨sameSeller, sameProperty⟩
  rw [sameSeller, sameProperty]
  refine onOffers_write ?_ (reduced seller named _ old amount held.2 found less)
  rintro _ ⟨⟩
  exact ⟨sameSeller, sameProperty⟩

/-- What is kept of the order book is kept from every state whose books are in order. -/
theorem Concludes.from_sound {α : Type} {action : Action α}
    (concludes : (onOffers holds).Concludes action) {s : State} (sound : s.Sound)
    (held : holds s.orders) :
    action.Yields (fun _ after => holds after.state.orders) (fun _ _ => True) (.start s) :=
  (concludes (.start s) ⟨sound.keyed, held⟩).mono (fun _ _ kept => kept.2) fun _ _ _ => trivial

end Condition

namespace Engine

/-- There are no offers before the first block. -/
theorem orders_genesisState (config : EngineConfig) : (genesisState config).orders = .empty :=
  genesisState_keeps (fun s => s.orders = .empty) rfl (fun _ _ _ _ empty => empty)
    (fun _ _ _ empty => empty) config

/-- The start of a block leaves the order book alone. -/
theorem orders_prelude (block : Block) (s : State) :
    (prelude block (.start s)).2.state.orders = s.orders := by
  have kept : (Condition.throughout fun after => after.orders = s.orders).Keeps (prelude block) :=
    Condition.keeps_prelude (fun _ => .edit fun _ same => same)
      (fun _ _ => .edit fun _ same => same) block
  exact kept.state_after rfl

end Engine

/-! ## Offers that are open still offer something -/

/-- Every open offer still offers something. -/
def OrderBook.Offering (book : OrderBook) : Prop :=
  ∀ seller property offer, book.get? seller property = some offer → 0 < offer.amountRemaining

theorem OrderBook.Offering.write {book : OrderBook} (offering : book.Offering) {seller : Address}
    {property : PropertyId} {next : Option Offer}
    (some : ∀ offer, next = some offer → 0 < offer.amountRemaining) :
    (book.write seller property next).Offering := by
  intro other q offer found
  rw [get?_write] at found
  split at found
  · exact some offer found
  · exact offering other q offer found

/-- What is used up is removed, and all terms are for a positive amount. -/
theorem Execute.message_offering (rules : Rules) (tx : TxContext) (m : Message) :
    (Condition.onOffers OrderBook.Offering).Concludes (Execute.message rules tx m) := by
  refine (Condition.onOffers_plain _ tx).message rules ?_ ?_
  · intro property amount desired timeLimit minFee action _
    refine Condition.onOffers_sellOffer ?_ ?_ amount desired timeLimit minFee action
    · intro book terms offering positive
      refine offering.write ?_
      rintro _ ⟨⟩
      exact positive
    · exact fun book offering => offering.write nofun
  · intro property amount _
    refine Condition.onOffers_acceptOffer ?_ ?_ amount
    · exact fun _ _ book offering => offering.write nofun
    · intro seller _ before old taken _ _ less book offering
      refine offering.write ?_
      rintro _ ⟨⟩
      exact Int.sub_pos_of_lt less

/-- No engine keeps an offer that is used up. -/
def Engine.openOffers (rules : Rules) : Law rules where
  holds s := s.orders.Offering
  genesis := by
    rw [orders_genesisState]
    intro seller property offer found
    cases found
  prelude := by
    intro block s _ offering
    rw [orders_prelude]
    exact offering
  message := fun tx m _ sound offering =>
    (Execute.message_offering rules tx m).from_sound sound offering
  forget := fun _ _ offering => offering

theorem State.Reached.offering {rules : Rules} {s : State} (reached : s.Reached rules) :
    s.orders.Offering :=
  ((Engine.openOffers rules).of_reached reached).2

/-! ## Offers that nobody touches -/

/-- The transaction may change the offer of a seller: it is one of the seller on an offer of the
property, or accepts such an offer of the seller. -/
def Tx.touches (tx : Tx) (seller : Address) (property : PropertyId) : Bool :=
  match Message.decode tx.payload with
  | .error _ => false
  | .ok m =>
      match m.payload with
      | .sellOffer id _ _ _ _ _ => tx.sender = seller && id = property
      | .acceptOffer id _ => tx.reference = some seller && id = property
      | _ => false

namespace Engine

variable (rules : Rules) (block : Block) {seller : Address} {property : PropertyId}

/-- An accepted message that does not touch an offer leaves it as it is. -/
theorem message_keeps_offer {tx : Tx} (untouched : tx.touches seller property = false)
    {m : Message} (decoded : Message.decode tx.payload = .ok m) (known : Option Offer) :
    (Condition.onOffers fun book => book.get? seller property = known).Concludes
      (Execute.message rules (contextOf block tx) m) := by
  unfold Tx.touches at untouched
  simp only [decoded] at untouched
  -- A write at another place does not show where the offer is kept.
  have elsewhere : ∀ (book : OrderBook) owner id next, ¬ (owner = seller ∧ id = property) →
      book.get? seller property = known →
      (book.write owner id next).get? seller property = known := by
    intro book owner id next apart same
    rw [OrderBook.get?_write, if_neg]
    · exact same
    · exact fun here => apart ⟨here.1.symm, here.2.symm⟩
  refine (Condition.onOffers_plain _ _).message rules ?_ ?_
  · intro id amount desired timeLimit minFee action kind
    have apart : ¬ (tx.sender = seller ∧ id = property) := by
      simpa [kind] using untouched
    exact Condition.onOffers_sellOffer (fun book _ same _ => elsewhere book _ _ _ apart same)
      (fun book same => elsewhere book _ _ _ apart same) amount desired timeLimit minFee action
  · intro id amount kind
    have apart : ∀ owner, tx.reference = some owner → ¬ (owner = seller ∧ id = property) := by
      rintro owner named ⟨rfl, rfl⟩
      simp [kind, named] at untouched
    refine Condition.onOffers_acceptOffer ?_ ?_ amount
    · exact fun owner named book same => elsewhere book _ _ _ (apart owner named) same
    · exact fun owner named _ _ _ _ _ _ book same => elsewhere book _ _ _ (apart owner named) same

/-- Transactions that do not touch an offer leave it as it is. -/
theorem processFrom_keeps_offer (position : Nat) {transactions : List Tx}
    (untouched : ∀ tx ∈ transactions, tx.touches seller property = false) {journal : Journal}
    (sound : journal.state.Sound) :
    (processFrom rules block position journal transactions).2.state.orders.get? seller property =
      journal.state.orders.get? seller property := by
  refine processFrom_keeps rules block (fun s => s.orders.get? seller property =
    journal.state.orders.get? seller property) position sound rfl ?_
  intro tx member m decoded s formed same
  exact (message_keeps_offer rules block (untouched tx member) decoded _).from_sound formed same

end Engine
end TokenOverlay
