import TokenOverlay.Proofs.Effects
import TokenOverlay.Proofs.Laws

namespace TokenOverlay

/-!
Nobody but the owner can spend.  A transaction takes nothing from an address
other than its sender, and what it may give to such an address can be spent
by it.  The one way into the reserve of somebody else is to accept an open
offer, and that takes what is accepted and no more.
-/

open Attempt TokenOverlay.Action

/-- Nobody but the owner has less to spend than before, or something else in reserve. -/
def State.Spares (base : State) (owner : Address) (after : State) : Prop :=
  ∀ address, address ≠ owner → ∀ property,
    base.ledger.available address property ≤ after.ledger.available address property ∧
      after.ledger.reserved address property = base.ledger.reserved address property

namespace State.Spares

variable {base s after : State} {owner address : Address} {property : PropertyId} {next : Balance}

theorem refl (base : State) (owner : Address) : base.Spares owner base :=
  fun _ _ _ => ⟨Int.le_refl _, rfl⟩

/-- The owner's balance may become any other one. -/
theorem own (spares : base.Spares owner s) (rewritten : s.Rewritten owner property next after) :
    base.Spares owner after := by
  intro other different q
  have same : after.ledger.balance other q = s.ledger.balance other q := by
    rw [rewritten.balance, if_neg fun here => different here.1]
  unfold Ledger.available Ledger.reserved
  rw [same]
  exact spares other different q

/-- Everyone may be given something. -/
theorem given {amount : Int} (spares : base.Spares owner s) (nonneg : 0 ≤ amount)
    (rewritten : s.Rewritten address property
      ⟨s.ledger.available address property + amount, s.ledger.reserved address property⟩ after) :
    base.Spares owner after := by
  intro other different q
  have before := spares other different q
  unfold Ledger.available Ledger.reserved at before ⊢
  rw [rewritten.balance]
  split
  · next here =>
      rw [here.1, here.2] at before ⊢
      exact ⟨Int.le_trans before.1 (Int.le_add_of_nonneg_right nonneg), before.2⟩
  · exact before

end State.Spares

/-! ## Building blocks -/

/-- Others are spared from a state on. -/
abbrev State.sparing (base : State) (owner : Address) : Condition :=
  .ofState (base.Spares owner)

section

variable {base : State} {owner : Address} (property : PropertyId) (amount : Int)

namespace Ledger

theorem credit_spares (address : Address) {amount : Int} (nonneg : 0 ≤ amount) :
    (base.sparing owner).Keeps (credit address property amount) := by
  intro journal spares
  exact credit_effect.mono (fun _ _ effect => State.Spares.given spares nonneg effect)
    fun _ _ _ => trivial

theorem debit_spares : (base.sparing owner).Keeps (debit owner property amount) := by
  intro journal spares
  exact debit_effect.mono (fun _ _ effect => State.Spares.own spares effect.2)
    fun _ _ _ => trivial

theorem reserve_spares : (base.sparing owner).Keeps (reserve owner property amount) := by
  intro journal spares
  exact reserve_effect.mono (fun _ _ effect => State.Spares.own spares effect.2)
    fun _ _ _ => trivial

theorem unreserve_spares : (base.sparing owner).Keeps (unreserve owner property amount) := by
  intro journal spares
  exact unreserve_effect.mono (fun _ _ effect => State.Spares.own spares effect.2)
    fun _ _ _ => trivial

end Ledger

namespace Registry

theorem mint_spares (recipient : Address) :
    (base.sparing owner).Keeps (mint recipient property amount) := by
  refine .guard_bind fun positive => .bind (Condition.keeps_lookup property) fun p => ?_
  refine .bind (.require _ _) fun total => .bind (.edit fun _ spares => spares) fun _ => ?_
  exact Ledger.credit_spares property recipient (Int.le_of_lt positive)

theorem burn_spares : (base.sparing owner).Keeps (burn owner property amount) := by
  refine .bind (.guard _ _) fun _ => .bind (Condition.keeps_lookup property) fun p => ?_
  exact .bind (Ledger.debit_spares property amount) fun _ => .edit fun _ spares => spares

theorem issue_spares (request : IssueRequest) :
    (base.sparing owner).Keeps (issue request) :=
  Condition.keeps_issue request (fun _ _ spares _ => spares)
    fun recipient id amount => mint_spares id amount recipient

end Registry

namespace OrderBook

theorem create_spares (terms : OfferTerms) :
    (base.sparing owner).Keeps (create owner property terms) := by
  refine .bind .state fun _ => .bind (.guard _ _) fun _ => ?_
  exact .bind (Ledger.reserve_spares property terms.amount) fun _ => .edit fun _ spares => spares

theorem update_spares (terms : OfferTerms) :
    (base.sparing owner).Keeps (update owner property terms) := by
  refine .bind (.bind .state fun _ => .require _ _) fun offer => ?_
  refine .bind (Ledger.unreserve_spares property offer.amountRemaining) fun _ => ?_
  exact .bind (Ledger.reserve_spares property terms.amount) fun _ => .edit fun _ spares => spares

theorem cancel_spares : (base.sparing owner).Keeps (cancel owner property) := by
  refine .bind (.bind .state fun _ => .require _ _) fun offer => ?_
  refine .bind (Ledger.unreserve_spares property offer.amountRemaining) fun _ => ?_
  exact .edit fun _ spares => spares

end OrderBook
end

theorem State.sparing_blocks (base : State) (tx : TxContext) :
    (base.sparing tx.sender).OwnBlocks tx := by
  have sale : ∀ next, (base.sparing tx.sender).Keeps (Action.edit (.sale next)) :=
    fun _ => .edit fun _ spares => spares
  have participation : ∀ property p,
      (base.sparing tx.sender).Keeps (Action.edit (.participation property p)) :=
    fun _ _ => .edit fun _ spares => spares
  have feature : ∀ id next, (base.sparing tx.sender).Keeps (Action.edit (.feature id next)) :=
    fun _ _ => .edit fun _ spares => spares
  exact {
    mint := fun recipient id amount => Registry.mint_spares id amount recipient
    burn := Registry.burn_spares
    issue := fun request _ => Registry.issue_spares request
    transfer := fun target property amount positive =>
      .bind (Ledger.debit_spares property amount) fun _ =>
        Ledger.credit_spares property target (Int.le_of_lt positive)
    distribute := fun property amount _ positive _ =>
      .bind (Ledger.debit_spares property amount) fun _ => .forM fun recipient member =>
        Ledger.credit_spares property recipient.address (Int.le_of_lt (positive recipient member))
    createOffer := fun property terms _ => OrderBook.create_spares property terms
    updateOffer := fun property terms _ => OrderBook.update_spares property terms
    cancelOffer := OrderBook.cancel_spares
    createSale := fun opened _ => Condition.keeps_createSale sale opened
    closeSale := fun property => Condition.keeps_closeSale sale _ property _ _
    purchase := Condition.keeps_purchase sale participation
    activate := fun id target version window =>
      Condition.keeps_activate feature id target version _ window _
    deactivate := Condition.keeps_deactivate feature
    receipt := fun _ _ _ spares => spares }

/-! ## Accepting an offer -/

/-- Accepting takes the accepted amount from the seller's reserve, and it has to be on offer. -/
theorem OrderBook.accept_effect {buyer seller : Address} {property : PropertyId} {amount : Int}
    {journal : Journal} (nonneg : 0 ≤ amount) :
    (accept buyer seller property amount).Yields
      (fun _ after => ∃ offer between, buyer ≠ seller ∧
        journal.state.orders.get? seller property = some offer ∧ amount ≤ offer.amountRemaining ∧
        journal.state.Rewritten seller property
          ⟨journal.state.ledger.available seller property,
            journal.state.ledger.reserved seller property - amount⟩ between ∧
        between.Spares buyer after.state)
      (fun _ _ => True) journal := by
  rw [accept, yields_bind, yields_guard]
  refine ⟨fun different => ?_, fun _ => trivial⟩
  rw [yields_bind, yields_existing]
  refine ⟨fun offer found => ?_, fun _ => trivial⟩
  rw [yields_bind, yields_guard]
  refine ⟨fun enough => ?_, fun _ => trivial⟩
  refine Ledger.transferReserved_effect.bind ?_ fun _ _ _ => trivial
  rintro _ handed ⟨_, between, released, credited⟩
  have spares : between.Spares buyer handed.state :=
    (State.Spares.refl between buyer).given nonneg credited
  rw [yields_ite]
  exact ⟨fun _ => ⟨offer, between, different, found, enough, released, spares⟩,
    fun _ => ⟨offer, between, different, found, enough, released, spares⟩⟩

/-! ## Transactions -/

/-- What the recorded transaction took from the offer of a seller; nothing, unless it is a valid
accept of that offer. -/
def TxRecord.taken (record : TxRecord) (seller : Address) (property : PropertyId) : Int :=
  match record.payload with
  | some (.acceptOffer id amount) =>
      if record.valid = true ∧ record.reference = some seller ∧ id = property then amount.toNat
      else 0
  | _ => 0

theorem TxRecord.taken_of_invalid {record : TxRecord} (invalid : record.valid = false)
    (seller : Address) (property : PropertyId) : record.taken seller property = 0 := by
  unfold taken
  split
  · simp [invalid]
  · rfl

/-- A message that is no accept takes nothing from any offer. -/
theorem TxRecord.taken_of_other {record : TxRecord} {payload : Payload}
    (recorded : record.payload = some payload)
    (own : ∀ property amount, payload ≠ .acceptOffer property amount)
    (seller : Address) (property : PropertyId) : record.taken seller property = 0 := by
  unfold taken
  rw [recorded]
  split
  · next id amount same => exact absurd (Option.some.inj same) (own id amount)
  · rfl

namespace Execute

/-- What an accepted accept takes from others, it takes from the offer it names. -/
theorem acceptOffer_effect (tx : TxContext) (property : PropertyId) (raw : UInt64)
    {journal : Journal} :
    (acceptOffer tx property raw).Yields
      (fun _ after => ∃ seller offer between, tx.reference = some seller ∧ tx.sender ≠ seller ∧
        journal.state.orders.get? seller property = some offer ∧
        (raw.toNat : Int) ≤ offer.amountRemaining ∧
        journal.state.Rewritten seller property
          ⟨journal.state.ledger.available seller property,
            journal.state.ledger.reserved seller property - raw.toNat⟩ between ∧
        between.Spares tx.sender after.state)
      (fun _ _ => True) journal := by
  rw [acceptOffer, amountOf, bind_assoc, yields_bind, yields_guard]
  refine ⟨fun _ => ?_, fun _ => trivial⟩
  rw [pure_bind, yields_bind, Registry.yields_lookup]
  refine ⟨fun _ _ => ?_, fun _ => trivial⟩
  rw [referenceOf, yields_bind, yields_require]
  refine ⟨fun seller named => ?_, fun _ => trivial⟩
  refine (OrderBook.accept_effect (Int.natCast_nonneg _)).bind ?_ fun _ _ _ => trivial
  rintro _ after ⟨offer, between, different, found, enough, released, spares⟩
  exact ⟨seller, offer, between, named, different, found, enough, released, spares⟩

theorem message_of_acceptOffer (rules : Rules) (tx : TxContext) {m : Message}
    {property : PropertyId} {raw : UInt64} (kind : m.payload = .acceptOffer property raw)
    {journal : Journal} {accepted : TxDetails → Journal → Prop}
    (yields : (acceptOffer tx property raw).Yields accepted (fun _ _ => True) journal) :
    (message rules tx m).Yields accepted (fun _ _ => True) journal := by
  rw [message, yields_bind, yields_guard, kind]
  exact ⟨fun _ => yields, fun _ => trivial⟩

end Execute

namespace Engine

variable {rules : Rules} {journal : Journal}

/-- In every state that an engine passes through, a transaction of any kind leaves every address
but its sender at least as much to spend as before, of every property.  It takes from the
reserve of such an address what it accepts of an open offer of that address if it is a valid
accept, and otherwise nothing. -/
theorem processTransaction_spares_others (reached : journal.state.Reached rules) (block : Block)
    (position : Nat) (tx : Tx) {address : Address} (other : address ≠ tx.sender)
    (property : PropertyId) :
    journal.state.ledger.available address property ≤
      (processTransaction rules block position tx journal).2.state.ledger.available
        address property ∧
    (processTransaction rules block position tx journal).2.state.ledger.reserved
        address property =
      journal.state.ledger.reserved address property -
        (processTransaction rules block position tx journal).1.taken address property ∧
    ((processTransaction rules block position tx journal).1.taken address property ≠ 0 →
      ∃ offer, journal.state.orders.get? address property = some offer ∧
        (processTransaction rules block position tx journal).1.taken address property ≤
          offer.amountRemaining) := by
  rcases processTransaction_outcome rules block position tx reached.sound.canonical with
    ⟨invalid, same⟩ | ⟨m, details, after, _, run, outcome⟩
  · rw [TxRecord.taken_of_invalid invalid, same, Int.sub_zero]
    exact ⟨Int.le_refl _, rfl, fun taken => absurd rfl taken⟩
  · rw [outcome]
    by_cases accepts : ∃ id raw, m.payload = .acceptOffer id raw
    · rcases accepts with ⟨id, raw, kind⟩
      have taking := (Execute.message_of_acceptOffer rules (contextOf block tx) kind
        (Execute.acceptOffer_effect (contextOf block tx) id raw)).of_ok run
      rcases taking with ⟨seller, offer, between, named, _, found, enough, released, spares⟩
      have kept := spares address other property
      have balance := released.balance address property
      have reference : tx.reference = some seller := named
      unfold Ledger.available Ledger.reserved at kept ⊢
      rw [balance] at kept
      by_cases here : address = seller ∧ property = id
      · rcases here with ⟨rfl, rfl⟩
        rw [if_pos ⟨rfl, rfl⟩] at kept
        simp only [TxRecord.taken, kind, TxRecord.opening, reference, and_self, if_true]
        exact ⟨kept.1, kept.2, fun _ => ⟨offer, found, enough⟩⟩
      · rw [if_neg here] at kept
        have elsewhere : ¬ (seller = address ∧ id = property) :=
          fun same => here ⟨same.1.symm, same.2.symm⟩
        simp only [TxRecord.taken, kind, TxRecord.opening, reference, true_and, Option.some.injEq,
          elsewhere, if_false, Int.sub_zero, ne_eq, not_true_eq_false, false_implies, and_true]
        exact kept
    · have own : ∀ id raw, m.payload ≠ .acceptOffer id raw :=
        fun id raw kind => accepts ⟨id, raw, kind⟩
      have spares := ((State.sparing_blocks journal.state (contextOf block tx)).message rules own
        (.start journal.state) (State.Spares.refl _ _)).of_ok run
      have kept : _ ∧ _ := spares address other property
      rw [TxRecord.taken_of_other rfl own, Int.sub_zero]
      exact ⟨kept.1, kept.2, fun taken => absurd rfl taken⟩

/-- A block in which an owner offers some of its tokens. -/
def offering : Block :=
  ⟨0, "x", "", 0, [⟨"t", "a", none, Message.encode (Payload.sellOffer 1 4 8 10 0 .new).toMessage⟩]⟩

/-- Another owner takes part of the offer. -/
def accepting : Tx := ⟨"u", "b", some "a", Message.encode (Payload.acceptOffer 1 3).toMessage⟩

/-- The journal of the block after the offer. -/
def offered : Journal :=
  (processFrom Session.twoOwners offering 0
    (prelude offering (.start (Session.run Session.twoOwners []).engine.state)).2
    offering.transactions).2

theorem processTransaction_spares_others_accepting :
    offered.state.Reached Session.twoOwners ∧ "a" ≠ accepting.sender ∧
    (processTransaction Session.twoOwners offering 1 accepting offered).1.taken "a" 1 = 3 ∧
    offered.state.ledger.available "a" 1 ≤
      (processTransaction Session.twoOwners offering 1 accepting offered).2.state.ledger.available
        "a" 1 ∧
    (processTransaction Session.twoOwners offering 1 accepting offered).2.state.ledger.reserved
        "a" 1 = offered.state.ledger.reserved "a" 1 - 3 := by
  have reached : offered.state.Reached Session.twoOwners := .amid [] offering offering.transactions
  have other : "a" ≠ accepting.sender := by decide
  have taken : (processTransaction Session.twoOwners offering 1 accepting offered).1.taken "a" 1 =
      3 := by
    decide +kernel
  have spared := processTransaction_spares_others reached offering 1 accepting other 1
  rw [taken] at spared
  exact ⟨reached, other, taken, spared.1, spared.2.1⟩

end Engine
end TokenOverlay
