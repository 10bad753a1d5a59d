import TokenOverlay.Proofs.Posting
import TokenOverlay.Proofs.Withdrawal

namespace TokenOverlay

/-!
A send to owners as a whole.  The property that is sent, the one whose owners
are paid and the protocol token of the fee may be one, two or three properties.
The fee is known before anything is moved: it depends on how many owners get a
share, and those are known from the state in which the message is checked.
-/

open Attempt TokenOverlay.Action

/-! ## Holders -/

namespace Ledger

variable {l : Ledger} {property : PropertyId} {address : Address} {amount : Int}

/-- The holders are listed with all that they can spend. -/
theorem mem_holders : (address, amount) ∈ l.holders property ↔
    0 < amount ∧ l.available address property = amount := by
  have listed : ∀ table, (address, table) ∈ l.balances.entries ↔
      l.balances.get? address = some table := fun table => SortedMap.get?_eq_some_iff.symm
  unfold holders
  rw [List.mem_filterMap]
  constructor
  · rintro ⟨⟨other, table⟩, member, kept⟩
    rcases Option.map_eq_some_iff.mp kept with ⟨b, spendable, same⟩
    rcases Option.filter_eq_some_iff.mp spendable with ⟨stored, positive⟩
    cases same
    refine ⟨of_decide_eq_true positive, ?_⟩
    rw [available, balance, (listed table).mp member, Option.bind_some, stored, Option.getD_some]
  · rintro ⟨positive, rfl⟩
    unfold available balance at *
    cases row : l.balances.get? address with
    | none =>
        rw [row] at positive
        exact absurd positive (Int.lt_irrefl 0)
    | some table =>
        rw [row, Option.bind_some] at positive
        cases stored : table.get? property with
        | none =>
            rw [stored] at positive
            exact absurd positive (Int.lt_irrefl 0)
        | some b =>
            rw [stored, Option.getD_some] at positive
            refine ⟨(address, table), (listed table).mpr row, ?_⟩
            simp [stored, positive]

theorem holders_distinct (l : Ledger) (property : PropertyId) :
    ((l.holders property).map Prod.fst).Nodup := by
  apply List.pairwise_map.mpr
  apply List.pairwise_filterMap.mpr
  refine l.balances.ascending.imp ?_
  rintro ⟨address, table⟩ ⟨other, later⟩ before entry kept otherEntry otherKept same
  rcases Option.map_eq_some_iff.mp kept with ⟨b, _, rfl⟩
  rcases Option.map_eq_some_iff.mp otherKept with ⟨c, _, rfl⟩
  have apart : compare address other = .lt := before
  have equal : compare address other = .eq := Std.LawfulEqCmp.compare_eq_iff_eq.mpr same
  rw [equal] at apart
  cases apart

end Ledger

/-! ## Who is paid, and for what fee -/

namespace Execute

/-- Who gets how much when an address sends an amount to the owners of a property. -/
def recipientsOf (s : State) (sender : Address) (owned : PropertyId) (amount : Int) :
    List Recipient :=
  Distribution.distribute (Distribution.eligibleOwners (s.ledger.holders owned) sender) amount

/-- The protocol token of the ecosystem of a property. -/
def feeToken (s : State) (property : PropertyId) : PropertyId :=
  ((s.registry.ecosystemOf? property).getD .main).protocolToken

/-- The fee for so many recipients, but no more than there can be tokens. -/
def feeOf (rules : Rules) (recipients : List Recipient) : Int :=
  min maxTokens (rules.config.distributionFee * recipients.length)

theorem feeToken_of_registered {s : State} {property : PropertyId} {p : Property}
    (registered : s.registry.get? property = some p) :
    feeToken s property = p.ecosystem.protocolToken := by
  rw [feeToken, Registry.ecosystemOf?, registered, Option.map_some, Option.getD_some]

section

variable {s : State} {sender : Address} {owned : PropertyId} {amount : Int}

theorem recipients_distinct :
    ((recipientsOf s sender owned amount).map Recipient.address).Nodup :=
  (Distribution.eligibleOwners_distinct (s.ledger.holders_distinct owned) sender).sublist
    Distribution.ordered_distribute

/-- Nobody pays himself. -/
theorem sender_not_recipient : sender ∉ (recipientsOf s sender owned amount).map Recipient.address := by
  intro member
  have owner := Distribution.ordered_distribute.subset member
  rcases List.mem_map.mp owner with ⟨entry, eligible, same⟩
  exact (Distribution.mem_eligibleOwners.mp eligible).2.1 same

/-- There is somebody to pay exactly if somebody else can spend the property. -/
theorem recipients_ne_nil (inRange : 1 ≤ amount ∧ amount ≤ maxTokens) :
    recipientsOf s sender owned amount ≠ [] ↔
      ∃ other, other ≠ sender ∧ 0 < s.ledger.available other owned := by
  constructor
  · intro served
    rcases List.exists_mem_of_ne_nil _ (Distribution.owners_of_served served).1 with
      ⟨⟨other, balance⟩, eligible⟩
    rcases Distribution.mem_eligibleOwners.mp eligible with ⟨holder, different, positive⟩
    refine ⟨other, different, ?_⟩
    rw [(Ledger.mem_holders.mp holder).2]
    exact positive
  · rintro ⟨other, different, positive⟩ nobody
    have eligible : (other, s.ledger.available other owned) ∈
        Distribution.eligibleOwners (s.ledger.holders owned) sender :=
      Distribution.mem_eligibleOwners.mpr
        ⟨Ledger.mem_holders.mpr ⟨positive, rfl⟩, different, positive⟩
    have whole := Distribution.total_distribute_owners Distribution.eligibleOwners_positive
      (List.ne_nil_of_mem eligible) (by omega : 0 < amount) inRange.2
    rw [show Distribution.distribute _ _ = [] from nobody] at whole
    rw [List.map_nil, Amount.total_nil] at whole
    omega

/-- Everybody who is paid gets something, so there are no more of them than there is to pay. -/
theorem recipients_length_le (fits : amount ≤ maxTokens) :
    ((recipientsOf s sender owned amount).length : Int) ≤ maxTokens := by
  by_cases served : recipientsOf s sender owned amount = []
  · rw [served]
    decide
  · have whole := Distribution.total_distribute Distribution.eligibleOwners_positive fits served
    have positive : ∀ n ∈ (recipientsOf s sender owned amount).map Recipient.amount, 0 < n := by
      intro n member
      rcases List.mem_map.mp member with ⟨recipient, paid, rfl⟩
      exact Distribution.distribute_positive paid
    have each := Amount.length_le_total positive
    rw [List.length_map] at each
    exact (each.trans (Int.le_of_eq whole)).trans fits

theorem fee_eq_feeOf {rules : Rules} (feeNonneg : 0 ≤ rules.config.distributionFee)
    (s : State) (sender : Address) (owned : PropertyId) (fits : amount ≤ maxTokens) :
    Distribution.fee rules.config.distributionFee (recipientsOf s sender owned amount).length =
      feeOf rules (recipientsOf s sender owned amount) := by
  have count : Amount.Fits ((recipientsOf s sender owned amount).length : Int) :=
    ⟨Int.le_trans (by decide) (Int.natCast_nonneg _), recipients_length_le fits⟩
  have product := Int.mul_nonneg feeNonneg
    (Int.natCast_nonneg (recipientsOf s sender owned amount).length)
  rw [Distribution.fee, Amount.wrap_of_fits count, Amount.saturate, feeOf]
  apply max_eq_right
  apply le_min
  · decide
  · exact Int.le_trans (by decide) product

theorem feeOf_nonneg {rules : Rules} (feeNonneg : 0 ≤ rules.config.distributionFee)
    (recipients : List Recipient) : 0 ≤ feeOf rules recipients :=
  le_min (by decide) (Int.mul_nonneg feeNonneg (Int.natCast_nonneg _))

end

/-! ## When it is accepted -/

/-- An address can send an amount of one property to all other owners of another one. -/
structure CanDistribute (rules : Rules) (s : State) (sender : Address)
    (property owned : PropertyId) (amount : Int) : Prop where
  inRange : 1 ≤ amount ∧ amount ≤ maxTokens
  sent : s.registry.exists? property = true
  registered : s.registry.exists? owned = true
  covered : amount ≤ s.ledger.available sender property
  owners : ∃ other, other ≠ sender ∧ 0 < s.ledger.available other owned
  fee : feeOf rules (recipientsOf s sender owned amount) +
      (if feeToken s property = property then amount else 0) ≤
    s.ledger.available sender (feeToken s property)

variable {rules : Rules} {tx : TxContext} {journal : Journal}

/-- The fee is needed on top of what is sent, if it is paid in the same property. -/
theorem needed_eq (own : Prop) [Decidable own] (amount fee : Int) :
    (if own then amount + fee else fee) = fee + if own then amount else 0 := by
  split <;> omega

theorem passes_sendToOwners (feeNonneg : 0 ≤ rules.config.distributionFee) (property : PropertyId)
    (raw : UInt64) (distribution : Option PropertyId) :
    (payloadChecks rules tx (.sendToOwners property raw distribution)).Passes journal ↔
      (distribution = none ∨
        journal.state.features.isActive FeatureId.crossPropertySend = true) ∧
      CanDistribute rules journal.state tx.sender property (distribution.getD property)
        raw.toNat := by
  rw [payloadChecks, passes_state, passes_guard_bind, passes_amountOf_bind, passes_lookup_bind]
  simp only [passes_lookup_bind, passes_state, passes_guard_bind, passes_guard]
  apply and_congr_right
  intro _
  constructor
  · rintro ⟨inRange, p, sent, q, registered, covered, served, fee⟩
    have charged := fee_eq_feeOf feeNonneg journal.state tx.sender (distribution.getD property)
      inRange.2
    unfold recipientsOf at charged
    rw [charged, ← feeToken_of_registered sent, needed_eq] at fee
    exact ⟨inRange, Registry.exists?_iff_get?.mpr ⟨p, sent⟩,
      Registry.exists?_iff_get?.mpr ⟨q, registered⟩, covered, (recipients_ne_nil inRange).mp served,
      fee⟩
  · intro can
    rcases Registry.exists?_iff_get?.mp can.sent with ⟨p, sent⟩
    rcases Registry.exists?_iff_get?.mp can.registered with ⟨q, registered⟩
    have charged := fee_eq_feeOf feeNonneg journal.state tx.sender (distribution.getD property)
      can.inRange.2
    unfold recipientsOf at charged
    refine ⟨can.inRange, p, sent, q, registered, can.covered,
      (recipients_ne_nil can.inRange).mpr can.owners, ?_⟩
    rw [charged, ← feeToken_of_registered sent, needed_eq]
    exact can.fee

/-! ## What it does -/

/-- The receipt of a send to owners. -/
def distributionReceipt (rules : Rules) (tx : TxContext) (s : State) (property owned : PropertyId)
    (amount : Int) : DistributionReceipt where
  txid := tx.txid
  sender := tx.sender
  block := tx.block
  propertyId := property
  distributionProperty := owned
  amount := amount
  feeProperty := feeToken s property
  fee := feeOf rules (recipientsOf s tx.sender owned amount)
  recipients := recipientsOf s tx.sender owned amount

theorem sendToOwners_posts (feeNonneg : 0 ≤ rules.config.distributionFee) (property : PropertyId)
    (raw : UInt64) (distribution : Option PropertyId) :
    let s := journal.state
    let receipt := distributionReceipt rules tx s property (distribution.getD property) raw.toNat
    (sendToOwners rules tx property raw distribution).Does
      (fun details after =>
        details = { TxDetails.none with
          distributionRecipients := some receipt.recipients.length
          distributionFee := some receipt.fee } ∧
        ∃ between, s.Posted (cell tx.sender property (-raw.toNat) +
            payout property receipt.recipients + cell tx.sender receipt.feeProperty (-receipt.fee))
            receipt.feeProperty (-receipt.fee) between ∧
          after.state = between.apply (.receipt receipt)) journal := by
  intro s receipt
  refine .reading .state fun _ _ => .reading (.guard _ _) fun _ _ => ?_
  refine .reading (readsOnly_amountOf raw) fun amount read => ?_
  rcases amountOf_ok read with ⟨rfl, positive, fits⟩
  refine .reading (Registry.readsOnly_lookup property) fun sent found => ?_
  refine .reading (Registry.readsOnly_lookup _) fun _ _ => .reading .state fun _ here => ?_
  cases here
  refine .reading (.guard _ _) fun _ _ => .reading (.guard _ _) fun _ _ => ?_
  refine .reading (.guard _ _) fun _ _ => ?_
  have token : sent.ecosystem.protocolToken = receipt.feeProperty :=
    (feeToken_of_registered (Registry.lookup_ok found)).symm
  have charged : Distribution.fee rules.config.distributionFee receipt.recipients.length =
      receipt.fee := fee_eq_feeOf feeNonneg _ _ _ fits
  change (Ledger.debit tx.sender property raw.toNat >>= fun _ =>
    creditAll property receipt.recipients >>= fun _ =>
      burnFee tx.sender sent.ecosystem.protocolToken
        (Distribution.fee rules.config.distributionFee receipt.recipients.length) >>= fun _ =>
      Action.edit (.receipt { receipt with
        feeProperty := sent.ecosystem.protocolToken
        fee := Distribution.fee rules.config.distributionFee receipt.recipients.length }) >>=
          fun _ => pure { TxDetails.none with
            distributionRecipients := some receipt.recipients.length
            distributionFee := some
              (Distribution.fee rules.config.distributionFee receipt.recipients.length) }).Does _ _
  rw [token, charged]
  refine (Ledger.debit_posts tx.sender property receipt.feeProperty _).bind fun _ _ debited => ?_
  refine (creditAll_posts receipt.feeProperty property receipt.recipients).bind
    fun _ _ credited => ?_
  refine (burnFee_posts receipt.feeProperty tx.sender (feeOf_nonneg feeNonneg _)).bind
    fun _ after burnt => yields_bind.mpr (yields_edit.mpr ?_)
  have posted := (debited.trans credited).trans burnt
  rw [Int.zero_add, Int.zero_add] at posted
  exact ⟨rfl, after.state, posted, rfl⟩

end Execute

/-- What a send to owners has done, as its receipt says. -/
structure State.Distributed (s : State) (receipt : DistributionReceipt) (after : State) : Prop where
  credited : ∀ recipient ∈ receipt.recipients,
    after.ledger.available recipient.address receipt.propertyId =
      s.ledger.available recipient.address receipt.propertyId + recipient.amount
  charged : ∀ property, after.ledger.available receipt.sender property =
    s.ledger.available receipt.sender property -
      (if property = receipt.propertyId then receipt.amount else 0) -
      (if property = receipt.feeProperty then receipt.fee else 0)
  spared : ∀ address property, address ≠ receipt.sender →
    (property = receipt.propertyId → address ∉ receipt.recipients.map Recipient.address) →
      after.ledger.available address property = s.ledger.available address property
  reserved : ∀ address property,
    after.ledger.reserved address property = s.ledger.reserved address property
  burnt : s.registry.Grown receipt.feeProperty (-receipt.fee) after.registry
  numbers : ∀ ecosystem, after.registry.nextId ecosystem = s.registry.nextId ecosystem
  others : after = { s with
    ledger := after.ledger
    registry := after.registry
    receipts := s.receipts.insert receipt.txid receipt }

/-- Recipients are paid once each, and the sender is not among them. -/
theorem State.Posted.distributed {s between : State} {receipt : DistributionReceipt}
    (posted : s.Posted (cell receipt.sender receipt.propertyId (-receipt.amount) +
        Execute.payout receipt.propertyId receipt.recipients +
        cell receipt.sender receipt.feeProperty (-receipt.fee)) receipt.feeProperty (-receipt.fee)
      between)
    (distinct : (receipt.recipients.map Recipient.address).Nodup)
    (own : receipt.sender ∉ receipt.recipients.map Recipient.address) :
    s.Distributed receipt (between.apply (.receipt receipt)) := by
  have change : ∀ address property, between.ledger.available address property =
      s.ledger.available address property +
        ((if address = receipt.sender ∧ property = receipt.propertyId then -receipt.amount else 0) +
          (if property = receipt.propertyId then
            Distribution.paid receipt.recipients address else 0) +
          if address = receipt.sender ∧ property = receipt.feeProperty then -receipt.fee else 0) := by
    intro address property
    rw [posted.available, Pi.add_apply, Pi.add_apply, Pi.add_apply, Pi.add_apply, cell_apply,
      cell_apply, Execute.payout]
  constructor
  · intro recipient member
    have other : recipient.address ≠ receipt.sender :=
      fun same => own (same ▸ List.mem_map_of_mem member)
    have paid := Distribution.paid_member distinct member
    refine (change _ _).trans ?_
    simp only [other, false_and, if_false, if_true, paid, Int.zero_add, Int.add_zero]
  · intro property
    have unpaid := Distribution.paid_absent own
    refine (change _ _).trans ?_
    simp only [true_and, unpaid, ite_self, Int.add_zero]
    split <;> split <;> omega
  · intro address property other apart
    have unpaid : (if property = receipt.propertyId then
        Distribution.paid receipt.recipients address else 0) = 0 := by
      split
      · next here => exact Distribution.paid_absent (apart here)
      · rfl
    refine (change _ _).trans ?_
    simp only [other, false_and, if_false, unpaid, Int.add_zero]
  · exact posted.reserved
  · exact posted.supply
  · exact posted.numbers
  · rw [State.apply, posted.others]

namespace Engine

variable {rules : Rules} {journal : Journal}

/-- In every state that an engine passes through, and for a fee that is not negative, a send to
owners is valid exactly if it counts in its block, a property of its own is named only while that
is switched on, and the sender can pay for everything.  Then it has done what its receipt says,
with the numbers that its record has. -/
theorem processTransaction_distributes (reached : journal.state.Reached rules)
    (feeNonneg : 0 ≤ rules.config.distributionFee) {tx : Tx} {m : Message}
    (decoded : Message.decode tx.payload = .ok m) {property : PropertyId} {raw : UInt64}
    {distribution : Option PropertyId}
    (kind : m.payload = .sendToOwners property raw distribution) (block : Block)
    (position : Nat) :
    let s := journal.state
    let owned := distribution.getD property
    let receipt := Execute.distributionReceipt rules (contextOf block tx) s property owned raw.toNat
    let outcome := processTransaction rules block position tx journal
    (outcome.1.valid = true ↔
      rules.params.permits block.height property 3 m.version = true ∧
      (m.version = 1 → s.features.isActive FeatureId.crossPropertySend = true) ∧
      Execute.CanDistribute rules s tx.sender property owned raw.toNat) ∧
    (outcome.1.valid = true →
      outcome.1 = { TxRecord.opening block position tx with
        payload := some (.sendToOwners property raw distribution)
        valid := true
        details := { TxDetails.none with
          distributionRecipients := some receipt.recipients.length
          distributionFee := some receipt.fee } } ∧
      s.Distributed receipt outcome.2.state) ∧
    (outcome.1.valid = false → outcome.2 = journal) := by
  intro s owned receipt outcome
  rcases processTransaction_verdict reached decoded kind block position
    (Execute.sendToOwners_posts feeNonneg property raw distribution) with
    ⟨verdict, untouched, result⟩
  -- The second version is the one that names a property of its own.
  have named : distribution = none ↔ ¬ m.version = 1 := by
    have version : m.version ∈ m.payload.versions := (Message.decode_eq_ok.mp decoded).1
    rw [kind] at version
    cases distribution with
    | none =>
        rw [List.mem_singleton.mp version]
        decide
    | some other =>
        rw [List.mem_singleton.mp version]
        exact ⟨nofun, fun same => absurd rfl same⟩
  refine ⟨verdict.trans ?_, fun valid => ?_, untouched⟩
  · rw [Execute.passes_sendToOwners feeNonneg, named, ← imp_iff_not_or]
    exact Iff.rfl
  · rcases result valid with ⟨details, after, record, state, same, between, posted, done⟩
    rw [record, same, state, done]
    exact ⟨rfl, posted.distributed Execute.recipients_distinct Execute.sender_not_recipient⟩

end Engine

namespace Session

/-- One owner issues a property and another one a second one, and sends may name a property of
their own from the next block on. -/
def twoIssues : List Call := [
  .apply ⟨0, "0", "", 0, [
    ⟨"i", "a", none, Message.encode
      (Payload.issueFixed ⟨1, 1, 0, ⟨"", "", "n", "", ""⟩⟩ 10).toMessage⟩,
    ⟨"j", "b", none, Message.encode
      (Payload.issueFixed ⟨1, 1, 0, ⟨"", "", "m", "", ""⟩⟩ 7).toMessage⟩,
    ⟨"f", "a", none, Message.encode (Payload.activate 10 1 0).toMessage⟩]⟩,
  .apply ⟨1, "1", "0", 0, []⟩]

/-- Some of the first property for the owners of the second one. -/
def acrossProperties : Tx :=
  ⟨"d", "a", none, Message.encode (Payload.sendToOwners 3 5 (some 4)).toMessage⟩

def sharing : Block := ⟨2, "2", "1", 0, [acrossProperties]⟩

end Session

/-- What is sent, whose owners are paid and what the fee is paid in are three properties here. -/
theorem Engine.processTransaction_distributes_across :
    let s := (Session.run Session.traders Session.twoIssues).engine.state
    let outcome := processTransaction Session.traders Session.sharing 0
      Session.acrossProperties (.start s)
    s.Reached Session.traders ∧ outcome.1.valid = true ∧
      outcome.1.details.distributionFee = some 1 ∧
      outcome.2.state.ledger.available "b" 3 = 5 ∧ outcome.2.state.ledger.available "a" 3 = 5 ∧
      outcome.2.state.ledger.available "a" 1 = 9 ∧ outcome.2.state.registry.supplyOf 1 = 14 := by
  intro s outcome
  have reached : (Journal.start s).state.Reached Session.traders := .idle Session.twoIssues
  have decoded : Message.decode Session.acrossProperties.payload =
      .ok ⟨1, .sendToOwners 3 5 (some 4)⟩ := by decide +kernel
  have holders : s.ledger.holders 4 = [("b", 7)] := by decide +kernel
  have served : Execute.recipientsOf s "a" 4 5 = [⟨"b", 5⟩] := by
    rw [Execute.recipientsOf, holders]
    cbv
  have token : Execute.feeToken s 3 = 1 := by decide +kernel
  have fee : Execute.feeOf Session.traders [⟨"b", 5⟩] = 1 := by decide
  have receipt : Execute.distributionReceipt Session.traders
      (contextOf Session.sharing Session.acrossProperties) s 3 4 5 =
        ⟨"d", "a", 2, 3, 4, 5, 1, 1, [⟨"b", 5⟩]⟩ := by
    change (⟨"d", "a", 2, 3, 4, 5, Execute.feeToken s 3,
      Execute.feeOf Session.traders (Execute.recipientsOf s "a" 4 5),
      Execute.recipientsOf s "a" 4 5⟩ : DistributionReceipt) = _
    rw [served, token, fee]
  rcases processTransaction_distributes reached (by decide) decoded rfl Session.sharing 0 with
    ⟨verdict, result, _⟩
  have payable : Execute.CanDistribute Session.traders s "a" 3 4 5 := by
    refine ⟨by decide, by decide +kernel, by decide +kernel, by decide +kernel,
      ⟨"b", by decide, by decide +kernel⟩, ?_⟩
    rw [served, fee, token]
    decide +kernel
  have valid : outcome.1.valid = true :=
    verdict.mpr ⟨by decide +kernel, fun _ => by decide +kernel, payable⟩
  rcases result valid with ⟨record, distributed⟩
  have noted : outcome.1.details.distributionFee = some (Execute.distributionReceipt Session.traders
      (contextOf Session.sharing Session.acrossProperties) s 3 4 5).fee :=
    congrArg (TxDetails.distributionFee ∘ TxRecord.details) record
  have done : s.Distributed (Execute.distributionReceipt Session.traders
      (contextOf Session.sharing Session.acrossProperties) s 3 4 5) outcome.2.state := distributed
  rw [receipt] at noted done
  have spendable : s.ledger.available "b" 3 = 0 ∧ s.ledger.available "a" 3 = 10 ∧
    s.ledger.available "a" 1 = 10 ∧ (s.registry.get? 1).map Property.totalTokens = some 15 := by
    decide +kernel
  rcases Option.map_eq_some_iff.mp spendable.2.2.2 with ⟨main, registered, supply⟩
  refine ⟨reached, valid, noted, ?_, ?_, ?_, ?_⟩
  · rw [done.credited ⟨"b", 5⟩ List.mem_cons_self, spendable.1]
    rfl
  · rw [done.charged 3, spendable.2.1]
    rfl
  · rw [done.charged 1, spendable.2.2.1]
    rfl
  · rw [done.burnt.supplyOf_self registered, supply]
    rfl

end TokenOverlay
