import TokenOverlay.Proofs.Events
import TokenOverlay.Proofs.Offers

namespace TokenOverlay

/-!
What accepted messages do to the order book, offer by offer.  An offer is opened
with terms in range; whoever takes part of it pays in proportion to what is left
of it, rounded down; and what is left is never without a price.
-/

open Attempt TokenOverlay.Action

/-! ## Offers in their terms -/

namespace Offer

/-- Something of the offer is still to be had and something is still to be paid for it, both no
more than at first. -/
structure InTerms (offer : Offer) : Prop where
  amount : 0 < offer.amountRemaining ∧ offer.amountRemaining ≤ offer.amountOffered
  desired : 0 < offer.desiredRemaining ∧ offer.desiredRemaining ≤ offer.desiredOffered
  capped : offer.desiredOffered ≤ maxTokens

/-- What is left of an offer when some of it has been taken. -/
def less (offer : Offer) (amount : Int) : Option Offer :=
  if offer.amountRemaining - amount = 0 then none
  else some (OrderBook.afterAccept offer amount)

/-- What is still to be paid for an offer; nothing if there is none. -/
def owed (offer : Option Offer) : Int := (offer.map Offer.desiredRemaining).getD 0

@[simp] theorem owed_none : owed none = 0 := rfl

@[simp] theorem owed_some (offer : Offer) : owed (some offer) = offer.desiredRemaining := rfl

namespace InTerms

variable {offer : Offer} {amount : Int}

/-- The price is the share of what is still to be paid, rounded down; it fits. -/
theorem price_eq (inTerms : offer.InTerms) (positive : 0 < amount)
    (enough : amount ≤ offer.amountRemaining) :
    offer.price amount = offer.desiredRemaining * amount / offer.amountRemaining := by
  have owed := inTerms.desired
  have nonneg : 0 ≤ offer.desiredRemaining * amount := Int.mul_nonneg owed.1.le positive.le
  have low : 0 ≤ offer.desiredRemaining * amount / offer.amountRemaining :=
    Int.ediv_nonneg nonneg inTerms.amount.1.le
  have high : offer.desiredRemaining * amount / offer.amountRemaining ≤ offer.desiredRemaining :=
    Int.ediv_le_of_le_mul inTerms.amount.1 (Int.mul_le_mul_of_nonneg_left enough owed.1.le)
  have capped := inTerms.capped
  rw [price, Int.tdiv_eq_ediv_of_nonneg nonneg]
  refine Amount.wrap_of_fits ⟨?_, by omega⟩
  unfold Amount.least
  omega

/-- A buyer never pays more than in proportion. -/
theorem price_mul_le (inTerms : offer.InTerms) (positive : 0 < amount)
    (enough : amount ≤ offer.amountRemaining) :
    offer.price amount * offer.amountRemaining ≤ offer.desiredRemaining * amount := by
  rw [inTerms.price_eq positive enough]
  exact Int.ediv_mul_le _ inTerms.amount.1.ne'

theorem price_nonneg (inTerms : offer.InTerms) (positive : 0 < amount)
    (enough : amount ≤ offer.amountRemaining) : 0 ≤ offer.price amount := by
  rw [inTerms.price_eq positive enough]
  exact Int.ediv_nonneg (Int.mul_nonneg inTerms.desired.1.le positive.le) inTerms.amount.1.le

/-- Part of an offer costs less than all that is left of it. -/
theorem price_lt (inTerms : offer.InTerms) (positive : 0 < amount)
    (part : amount < offer.amountRemaining) : offer.price amount < offer.desiredRemaining := by
  rw [inTerms.price_eq positive part.le]
  exact Int.ediv_lt_of_lt_mul inTerms.amount.1
    (Int.mul_lt_mul_of_pos_left part inTerms.desired.1)

/-- All that is left of an offer costs all that is still to be paid for it. -/
theorem price_all (inTerms : offer.InTerms) :
    offer.price offer.amountRemaining = offer.desiredRemaining := by
  rw [inTerms.price_eq inTerms.amount.1 le_rfl]
  exact Int.mul_ediv_cancel _ inTerms.amount.1.ne'

/-- What is left when part of an offer has been taken is an offer in its terms again. -/
theorem afterAccept (inTerms : offer.InTerms) (positive : 0 < amount)
    (part : amount < offer.amountRemaining) : (OrderBook.afterAccept offer amount).InTerms where
  amount := by
    have bounds := inTerms.amount
    refine ⟨Int.sub_pos_of_lt part, ?_⟩
    change offer.amountRemaining - amount ≤ offer.amountOffered
    omega
  desired := by
    have bounds := inTerms.desired
    have charged := inTerms.price_nonneg positive part.le
    refine ⟨Int.sub_pos_of_lt (inTerms.price_lt positive part), ?_⟩
    change offer.desiredRemaining - offer.price amount ≤ offer.desiredOffered
    omega
  capped := inTerms.capped

end InTerms
end Offer

namespace OrderBook

/-- Every open offer is in its terms. -/
def InTerms (book : OrderBook) : Prop :=
  ∀ seller property offer, book.get? seller property = some offer → offer.InTerms

theorem InTerms.write {book : OrderBook} (inTerms : book.InTerms) {seller : Address}
    {property : PropertyId} {next : Option Offer}
    (own : ∀ offer, next = some offer → offer.InTerms) :
    (book.write seller property next).InTerms := by
  intro other q offer found
  rw [get?_write] at found
  split at found
  · exact own offer found
  · exact inTerms other q offer found

end OrderBook

/-! ## Writes to the order book -/

namespace State

/-- From a state on, the order book is left alone. -/
abbrev still (base : State) : Condition := .ofState fun s => s.orders = base.orders

theorem still_balance {base : State} (address : Address) (property : PropertyId)
    (next : Balance) : base.still.Keeps (Action.edit (.balance address property next)) :=
  .edit fun _ same => same

end State

namespace OrderBook

variable {journal : Journal} {seller : Address} {property : PropertyId}

/-- What is written to a book that was left alone until then. -/
theorem written_of_still {base : State} {between : Journal}
    (same : between.state.orders = base.orders) (next : Option Offer) :
    (between.record (.offer seller property next)).state.orders =
      base.orders.write seller property next :=
  congrArg (fun book : OrderBook => book.write seller property next) same

theorem create_writes (terms : OfferTerms) :
    (create seller property terms).Does (fun _ after => after.state.orders =
      journal.state.orders.write seller property (some (Offer.ofTerms seller property terms)))
      journal := by
  refine .reading .state fun s read => .reading (.guard _ _) fun _ _ => ?_
  have reserves := Condition.keeps_reserve (c := journal.state.still) State.still_balance seller
    property terms.amount
  refine Does.bind (reserves journal rfl) fun _ between same => ?_
  exact yields_edit.mpr (written_of_still same _)

theorem update_writes (sound : journal.state.Sound) (terms : OfferTerms) :
    (update seller property terms).Does (fun _ after => after.state.orders =
      journal.state.orders.write seller property (some (Offer.ofTerms seller property terms)))
      journal := by
  rw [Does, update, yields_bind, yields_existing]
  refine ⟨fun old found => ?_, fun _ => trivial⟩
  rcases sound.keyed seller property old found with ⟨rfl, rfl⟩
  have releases := Condition.keeps_unreserve (c := journal.state.still) State.still_balance
    old.seller old.propertyId old.amountRemaining
  have reserves := Condition.keeps_reserve (c := journal.state.still) State.still_balance
    old.seller old.propertyId terms.amount
  refine Does.bind (releases journal rfl) fun _ released same => ?_
  refine Does.bind (reserves released same) fun _ between same => ?_
  exact yields_edit.mpr (written_of_still same _)

theorem cancel_writes :
    (cancel seller property).Does (fun _ after => after.state.orders =
      journal.state.orders.write seller property none) journal := by
  rw [Does, cancel, yields_bind, yields_existing]
  refine ⟨fun old found => ?_, fun _ => trivial⟩
  have releases := Condition.keeps_unreserve (c := journal.state.still) State.still_balance
    seller property old.amountRemaining
  refine Does.bind (releases journal rfl) fun _ between same => ?_
  exact yields_edit.mpr (written_of_still same none)

/-- Someone else than the seller takes no more than is left, at the price of what is left. -/
theorem accept_writes (sound : journal.state.Sound) (buyer : Address) (amount : Int) :
    (accept buyer seller property amount).Does (fun price after => ∃ old,
      journal.state.orders.get? seller property = some old ∧ amount ≤ old.amountRemaining ∧
      price = old.price amount ∧
      after.state.orders = journal.state.orders.write seller property (old.less amount))
      journal := by
  refine .reading (.guard _ _) fun _ _ => ?_
  rw [Does, yields_bind, yields_existing]
  refine ⟨fun old found => ?_, fun _ => trivial⟩
  refine Does.reading (.guard _ _) fun _ within => ?_
  rcases sound.keyed seller property old found with ⟨rfl, rfl⟩
  have hands := Condition.keeps_transferReserved (c := journal.state.still) State.still_balance
    old.seller buyer old.propertyId amount
  refine Does.bind (hands journal rfl) fun _ between same => ?_
  refine yields_ite.mpr ⟨fun all => ?_, fun part => ?_⟩
  · refine yields_bind.mpr (yields_edit.mpr ⟨old, found, guard_ok within, rfl, ?_⟩)
    rw [Offer.less, if_pos all]
    exact written_of_still same none
  · refine yields_bind.mpr (yields_edit.mpr ⟨old, found, guard_ok within, rfl, ?_⟩)
    rw [Offer.less, if_neg part]
    exact written_of_still same _

end OrderBook

/-! ## Messages -/

namespace Execute

/-- What an accepted message does to the order book, by its kind: a seller writes its own offers,
and whoever accepts an offer does as the order book has it. -/
def Trade (tx : TxContext) (s after : State) : Payload → Prop
  | .sellOffer property _ _ _ _ .cancel => after.orders = s.orders.write tx.sender property none
  | .sellOffer property raw asked _ _ _ => ∃ offer : Offer, offer.InTerms ∧
      offer.amountOffered = raw.toNat ∧ offer.amountRemaining = raw.toNat ∧
      offer.desiredOffered = asked.toNat ∧ offer.desiredRemaining = asked.toNat ∧
      after.orders = s.orders.write tx.sender property (some offer)
  | .acceptOffer property raw => ∃ seller price done, tx.reference = some seller ∧
      0 < (raw.toNat : Int) ∧
      OrderBook.accept tx.sender seller property raw.toNat (.start s) = (.ok price, done) ∧
      after = done.state
  | _ => after.orders = s.orders

variable {tx : TxContext} {s : State}

/-- An offer that is written with the terms of a message has the amounts of the message. -/
theorem termsOf_trades {property : PropertyId} {next : OfferTerms → Action TxDetails}
    (writes : ∀ terms, (next terms).Does (fun _ after => after.state.orders =
      s.orders.write tx.sender property (some (Offer.ofTerms tx.sender property terms)))
      (.start s)) (raw asked : UInt64) (timeLimit : UInt8) (minFee : UInt64) :
    (termsOf tx raw asked timeLimit minFee >>= next).Does
      (fun _ after => Trade tx s after.state
        (.sellOffer property raw asked timeLimit minFee .new)) (.start s) := by
  refine .reading (readsOnly_termsOf tx raw asked timeLimit minFee) fun terms read => ?_
  rcases termsOf_ok read with ⟨⟨amount, some, _⟩, desired, priced, fits⟩
  have inTerms : (Offer.ofTerms tx.sender property terms).InTerms :=
    ⟨⟨some, le_rfl⟩, ⟨priced, le_rfl⟩, fits⟩
  refine (writes terms).mono fun _ _ written => ?_
  exact ⟨_, inTerms, amount, amount, desired, desired, written⟩

theorem sellOffer_trades (sound : s.Sound) (property : PropertyId) (raw asked : UInt64)
    (timeLimit : UInt8) (minFee : UInt64) (action : OfferAction) :
    (sellOffer tx property raw asked timeLimit minFee action).Does
      (fun _ after => Trade tx s after.state
        (.sellOffer property raw asked timeLimit minFee action)) (.start s) := by
  refine .reading (Registry.readsOnly_lookup property) fun _ _ => ?_
  refine .reading (readsOnly_checkTradeable property) fun _ _ => ?_
  cases action with
  | new =>
      refine termsOf_trades (fun terms => ?_) raw asked timeLimit minFee
      exact (OrderBook.create_writes terms).bind fun _ _ written => written
  | update =>
      have start : (Journal.start s).state.Sound := sound
      refine termsOf_trades (fun terms => ?_) raw asked timeLimit minFee
      exact (OrderBook.update_writes start terms).bind fun _ _ written => written
  | cancel => exact OrderBook.cancel_writes.bind fun _ _ written => written

theorem acceptOffer_trades (property : PropertyId) (raw : UInt64) :
    (acceptOffer tx property raw).Does
      (fun _ after => Trade tx s after.state (.acceptOffer property raw)) (.start s) := by
  refine .reading (readsOnly_amountOf raw) fun amount read => ?_
  refine .reading (Registry.readsOnly_lookup property) fun _ _ => ?_
  refine .reading (.require _ _) fun seller named => .running fun price done run => ?_
  rcases amountOf_ok read with ⟨rfl, positive, _⟩
  exact ⟨seller, price, done, require_ok named, positive, run, rfl⟩

/-- In a state whose books are in order an accepted message does to the order book what its kind
says. -/
theorem message_trades (rules : Rules) (sound : s.Sound) (m : Message) :
    (message rules tx m).Does (fun _ after => Trade tx s after.state m.payload) (.start s) := by
  have plain (noSell : ∀ property raw asked timeLimit minFee action,
      m.payload ≠ .sellOffer property raw asked timeLimit minFee action)
      (noAccept : ∀ property raw, m.payload ≠ .acceptOffer property raw) :
      (message rules tx m).Does (fun _ after => after.state.orders = s.orders) (.start s) :=
    ((Condition.onOffers_plain (fun book => book = s.orders) tx).message rules
      (fun _ _ _ _ _ _ kind => absurd kind (noSell _ _ _ _ _ _))
      fun _ _ kind => absurd kind (noAccept _ _)).from_sound sound rfl
  cases kind : m.payload with
  | sellOffer property raw asked timeLimit minFee action =>
      rw [message, kind]
      exact .reading (.guard _ _) fun _ _ =>
        sellOffer_trades sound property raw asked timeLimit minFee action
  | acceptOffer property raw =>
      rw [message, kind]
      exact .reading (.guard _ _) fun _ _ => acceptOffer_trades property raw
  | _ => exact plain (by simp [kind]) (by simp [kind])

end Execute

/-! ## Events -/

namespace Moment

variable {rules : Rules} {moment : Moment}

/-- Nothing happens to the order book, or a transaction is accepted and does to it what its
message says. -/
inductive Trades (rules : Rules) (moment : Moment) : Prop
  | idle (none : ∀ record, ¬ moment.Accepts rules record)
      (same : (moment.after rules).orders = moment.before.orders)
  | accepted (record : TxRecord) (payload : Payload) (accepts : moment.Accepts rules record)
      (carried : record.payload = some payload)
      (trade : Execute.Trade record.context moment.before (moment.after rules) payload)

theorem trades (rules : Rules) (sound : moment.before.Sound) : moment.Trades rules := by
  cases moment.ran rules sound.canonical with
  | started block event none =>
      refine .idle none ?_
      rw [after, event]
      exact Engine.orders_prelude block moment.before
  | refused _ same none => exact .idle none (congrArg State.orders same)
  | accepted _ record m done accepts carried _ _ run state =>
      refine .accepted record m.payload accepts carried ?_
      rw [state]
      exact (Execute.message_trades rules sound m).of_ok run

theorem trade_of_accepts (sound : moment.before.Sound) {record : TxRecord} {payload : Payload}
    (accepts : moment.Accepts rules record) (carried : record.payload = some payload) :
    Execute.Trade record.context moment.before (moment.after rules) payload := by
  cases moment.trades rules sound with
  | idle none => exact absurd accepts (none record)
  | accepted other _ accepts' carried' trade =>
      cases accepts.1.symm.trans accepts'.1
      cases carried.symm.trans carried'
      exact trade

end Moment

/-! ## Open offers are in their terms -/

/-- What is taken out of an offer in its terms leaves an offer in its terms, or none. -/
theorem Offer.InTerms.less {offer left : Offer} {amount : Int} (inTerms : offer.InTerms)
    (positive : 0 < amount) (enough : amount ≤ offer.amountRemaining)
    (found : offer.less amount = some left) :
    left = OrderBook.afterAccept offer amount ∧ left.InTerms := by
  rw [Offer.less] at found
  split at found
  · cases found
  · next part =>
      cases found
      exact ⟨rfl, inTerms.afterAccept positive (by omega)⟩

/-- Accepted messages keep all offers in their terms. -/
theorem Execute.Trade.inTerms {tx : TxContext} {s after : State} {payload : Payload}
    (trade : Trade tx s after payload) (sound : s.Sound) (inTerms : s.orders.InTerms) :
    after.orders.InTerms := by
  cases payload with
  | sellOffer property raw asked timeLimit minFee action =>
      cases action with
      | cancel => exact trade ▸ inTerms.write nofun
      | new | update =>
          rcases trade with ⟨offer, own, _, _, _, _, written⟩
          rw [written]
          refine inTerms.write ?_
          rintro _ ⟨⟩
          exact own
  | acceptOffer property raw =>
      rcases trade with ⟨seller, price, done, _, positive, run, rfl⟩
      have start : (Journal.start s).state.Sound := sound
      rcases (OrderBook.accept_writes start tx.sender raw.toNat).of_ok run with
        ⟨old, found, enough, _, written⟩
      rw [written]
      exact inTerms.write fun left rest =>
        ((inTerms seller property old found).less positive enough rest).2
  | _ =>
      rw [show after.orders = s.orders from trade]
      exact inTerms

/-- Every engine keeps its offers in their terms. -/
def Engine.pricing (rules : Rules) : Law rules where
  holds s := s.orders.InTerms
  genesis := by
    rw [orders_genesisState]
    intro seller property offer found
    cases found
  prelude := by
    intro block s _ inTerms
    rw [orders_prelude]
    exact inTerms
  message := fun _ m _ sound inTerms =>
    (Execute.message_trades rules sound m).mono fun _ _ trade => trade.inTerms sound inTerms
  forget := fun _ _ inTerms => inTerms

end TokenOverlay
