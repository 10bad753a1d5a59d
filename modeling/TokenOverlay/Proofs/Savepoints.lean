import TokenOverlay.Proofs.Undoable

namespace TokenOverlay

/-!
Going back to a savepoint.  The operations of the tables can be called with any
arguments and in any order, and a call that is rejected half way keeps what it
has done until then.  Whatever was called since a savepoint, its entries take
the state back to it, as long as the tables were in form at first; nothing that
a message checks before it calls an operation is needed for that.
-/

/-- The last number of an ecosystem. -/
def Ecosystem.lastId : Ecosystem → PropertyId
  | .main => lastMainId
  | .test => 4294967295

/-- Nothing empty is stored, a property is stored under its own number, and the next number of an
ecosystem lies behind all that it has registered and no further than just past its last one. -/
structure State.InForm (s : State) : Prop where
  rows : ∀ address row, s.ledger.balances.get? address = some row → row ≠ .empty
  balances : ∀ address row property b, s.ledger.balances.get? address = some row →
    row.get? property = some b → b ≠ .zero
  offers : ∀ seller row, s.orders.offers.get? seller = some row → row ≠ .empty
  contributions : ∀ property list,
    s.crowdsales.participations.get? property = some list → list ≠ []
  keyed : ∀ id p, s.registry.get? id = some p → p.id = id
  counters : ∀ ecosystem : Ecosystem,
    ecosystem.firstId.toNat ≤ (s.registry.nextId ecosystem).toNat ∧
      (s.registry.nextId ecosystem).toNat ≤ ecosystem.lastId.toNat + 1
  behind : ∀ (ecosystem : Ecosystem) id p, s.registry.get? id = some p →
    ecosystem.firstId.toNat ≤ id.toNat → id.toNat ≤ ecosystem.lastId.toNat →
      id.toNat < (s.registry.nextId ecosystem).toNat

namespace Ecosystem

theorem toNat_lastId_test : test.lastId.toNat = 4294967295 := rfl

/-- The numbers of an ecosystem lie in its half. -/
theorem half_of_range {ecosystem : Ecosystem} {id : PropertyId}
    (low : ecosystem.firstId.toNat ≤ id.toNat) (high : id.toNat ≤ ecosystem.lastId.toNat) :
    half id = ecosystem := by
  cases ecosystem with
  | main => exact half_eq_main.mpr high
  | test => exact half_eq_test.mpr low

/-- The last number of an ecosystem is the last one of its half. -/
theorem le_lastId_half (id : PropertyId) : id.toNat ≤ (half id).lastId.toNat := by
  cases which : half id with
  | main => exact half_eq_main.mp which
  | test =>
      rw [toNat_lastId_test]
      have bound := id.toNat_lt
      omega

end Ecosystem

namespace State

/-- The counter of an ecosystem is never below its first number, so a property of its half that is
numbered below that one is below the counter as well. -/
theorem InForm.canonical {s : State} (formed : s.InForm) : s.Canonical where
  registry := {
    keyed := formed.keyed
    first := fun ecosystem => (formed.counters ecosystem).1
    mainLast := (formed.counters .main).2
    below := by
      intro id p found
      by_cases early : id.toNat < (Ecosystem.half id).firstId.toNat
      · exact early.trans_le (formed.counters _).1
      · exact formed.behind _ id p found (Nat.not_lt.mp early) (Ecosystem.le_lastId_half id) }
  ledger := {
    compact := formed.rows
    nonzero := by
      intro address property b found
      rcases Option.bind_eq_some_iff.mp found with ⟨row, there, stored⟩
      exact formed.balances address row property b there stored }
  crowdsales := formed.contributions
  orders := formed.offers

theorem Canonical.inForm {s : State} (canonical : s.Canonical) : s.InForm where
  rows := canonical.ledger.compact
  balances := by
    intro address row property b there stored
    apply canonical.ledger.nonzero address property b
    rw [Cells.read, there]
    exact stored
  offers := canonical.orders
  contributions := canonical.crowdsales
  keyed := canonical.registry.keyed
  counters := by
    intro ecosystem
    refine ⟨canonical.registry.first ecosystem, ?_⟩
    cases ecosystem with
    | main => exact canonical.registry.mainLast
    | test =>
        rw [Ecosystem.toNat_lastId_test]
        exact (s.registry.nextId .test).toNat_lt.le
  behind := by
    intro ecosystem id p found low high
    have bound := canonical.registry.below id p found
    rw [Ecosystem.half_of_range low high] at bound
    exact bound

end State

/-! ## Calls -/

/-- A call of an operation that changes tables. -/
inductive Command where
  | credit (address : Address) (property : PropertyId) (amount : Int)
  | debit (address : Address) (property : PropertyId) (amount : Int)
  | reserve (address : Address) (property : PropertyId) (amount : Int)
  | unreserve (address : Address) (property : PropertyId) (amount : Int)
  | transferReserved (source target : Address) (property : PropertyId) (amount : Int)
  | issue (request : IssueRequest)
  | mint (recipient : Address) (property : PropertyId) (amount : Int)
  | burn (holder : Address) (property : PropertyId) (amount : Int)
  | grant (sender : Address) (property : PropertyId) (amount : Int) (recipient : Address)
  | revoke (sender : Address) (property : PropertyId) (amount : Int)
  | createSale (sale : Crowdsale)
  | closeSale (sender : Address) (property : PropertyId) (txid : String) (block : Nat)
  | recordPurchase (property : PropertyId) (quote : Quote) (p : Participation)
  | expire (time : Int) (block : Nat)
  | createOffer (seller : Address) (property : PropertyId) (terms : OfferTerms)
  | updateOffer (seller : Address) (property : PropertyId) (terms : OfferTerms)
  | cancelOffer (seller : Address) (property : PropertyId)
  | acceptOffer (buyer seller : Address) (property : PropertyId) (amount : Int)
  | activate (id : FeatureId) (target : Nat) (clientVersion : UInt32) (height : Nat)
      (window : GraceWindow) (txid : String)
  | deactivate (id : FeatureId)
  | completePending (height : Nat)

/-- What a call leaves behind, accepted or rejected. -/
def Command.run (journal : Journal) : Command → Journal
  | credit address property amount => (Ledger.credit address property amount journal).2
  | debit address property amount => (Ledger.debit address property amount journal).2
  | reserve address property amount => (Ledger.reserve address property amount journal).2
  | unreserve address property amount => (Ledger.unreserve address property amount journal).2
  | transferReserved source target property amount =>
      (Ledger.transferReserved source target property amount journal).2
  | issue request => (Registry.issue request journal).2
  | mint recipient property amount => (Registry.mint recipient property amount journal).2
  | burn holder property amount => (Registry.burn holder property amount journal).2
  | grant sender property amount recipient =>
      (Registry.grant sender property amount recipient journal).2
  | revoke sender property amount => (Registry.revoke sender property amount journal).2
  | createSale sale => (CrowdsaleBook.create sale journal).2
  | closeSale sender property txid block =>
      (CrowdsaleBook.close sender property txid block journal).2
  | recordPurchase property quote p => (CrowdsaleBook.recordPurchase property quote p journal).2
  | expire time block => (CrowdsaleBook.expire time block journal).2
  | createOffer seller property terms => (OrderBook.create seller property terms journal).2
  | updateOffer seller property terms => (OrderBook.update seller property terms journal).2
  | cancelOffer seller property => (OrderBook.cancel seller property journal).2
  | acceptOffer buyer seller property amount =>
      (OrderBook.accept buyer seller property amount journal).2
  | activate id target clientVersion height window txid =>
      (FeatureTable.activate id target clientVersion height window txid journal).2
  | deactivate id => (FeatureTable.deactivate id journal).2
  | completePending height => (FeatureTable.completePending height journal).2

namespace Journal

/-- Make some calls one after the other. -/
def perform (journal : Journal) (commands : List Command) : Journal :=
  commands.foldl Command.run journal

theorem perform_append (journal : Journal) (earlier later : List Command) :
    journal.perform (earlier ++ later) = (journal.perform earlier).perform later :=
  List.foldl_append

variable {first journal : Journal}

/-- Every call goes on by edits that can be taken back, whether it is accepted or not. -/
theorem Extends.command (run : first.Extends journal) (command : Command) :
    first.Extends (command.run journal) := by
  have sale : ∀ sale, (first.reached "").Keeps (Action.edit (.sale sale)) :=
    fun _ => reached_edit fun _ => trivial
  have participation : ∀ property p,
      (first.reached "").Keeps (Action.edit (.participation property p)) :=
    fun _ _ => reached_edit fun _ => trivial
  have feature : ∀ id feature, (first.reached "").Keeps (Action.edit (.feature id feature)) :=
    fun _ _ => reached_edit fun _ => trivial
  have offer : ∀ seller property next,
      (first.reached "").Keeps (Action.edit (.offer seller property next)) := reached_offer
  have ends {α : Type} {action : Action α} : (first.reached "").Keeps action →
      first.Extends (action journal).2 := run.action ""
  cases command with
  | credit address property amount =>
      exact ends (Condition.keeps_credit reached_balance address property amount)
  | debit address property amount =>
      exact ends (Condition.keeps_debit reached_balance address property amount)
  | reserve address property amount =>
      exact ends (Condition.keeps_reserve reached_balance address property amount)
  | unreserve address property amount =>
      exact ends (Condition.keeps_unreserve reached_balance address property amount)
  | transferReserved source target property amount =>
      exact ends
        (Condition.keeps_transferReserved reached_balance source target property amount)
  | issue request => exact ends (reached_issue request)
  | mint recipient property amount => exact ends (reached_mint recipient property amount)
  | burn holder property amount =>
      exact ends (Condition.keeps_burn reached_balance reached_supply holder property amount)
  | grant sender property amount recipient =>
      exact ends (.bind (Condition.keeps_checkManager sender property) fun _ =>
        reached_mint recipient property amount)
  | revoke sender property amount =>
      exact ends (.bind (Condition.keeps_checkManager sender property) fun _ =>
        Condition.keeps_burn reached_balance reached_supply sender property amount)
  | createSale opened => exact ends (Condition.keeps_createSale sale opened)
  | closeSale sender property txid block =>
      exact ends (Condition.keeps_closeSale sale sender property txid block)
  | recordPurchase property quote p =>
      exact ends (Condition.keeps_purchase sale participation property quote p)
  | expire time block =>
      exact ends (Condition.keeps_expire_of time (Condition.keeps_expireOne sale block))
  | createOffer seller property terms =>
      exact ends (Condition.keeps_createOffer reached_balance (offer _ _ _))
  | updateOffer seller property terms =>
      exact ends (Condition.keeps_updateOffer reached_balance fun _ _ => offer _ _ _)
  | cancelOffer seller property =>
      exact ends (Condition.keeps_cancelOffer reached_balance (offer _ _ _))
  | acceptOffer buyer seller property amount =>
      exact ends (Condition.keeps_takeOffer reached_balance (offer _ _ _)
        fun _ _ _ => offer _ _ _)
  | activate id target clientVersion height window txid =>
      exact ends
        (Condition.keeps_activate feature id target clientVersion height window txid)
  | deactivate id => exact ends (Condition.keeps_deactivate feature id)
  | completePending height => exact ends (Condition.keeps_completePending feature height)

theorem Extends.perform (run : first.Extends journal) (commands : List Command) :
    first.Extends (journal.perform commands) := by
  induction commands generalizing journal with
  | nil => exact run
  | cons command rest ih => exact ih (run.command command)

/-- Calls leave the tables in form. -/
theorem inForm_perform (formed : journal.state.InForm) (commands : List Command) :
    (journal.perform commands).state.InForm :=
  ((Extends.refl.perform commands).canonical formed.canonical).inForm

/-- Whatever is called after a savepoint, in whatever way the calls end, going back to the
savepoint restores the journal as it was there. -/
theorem revertTo_perform (formed : journal.state.InForm) (earlier later : List Command) :
    (journal.perform (earlier ++ later)).revertTo (journal.perform earlier).entries.length =
      journal.perform earlier := by
  have saved := inForm_perform formed earlier
  rw [perform_append]
  exact (Extends.refl.perform later).revertTo saved.canonical

/-- An offer is open, and somebody holds all that there can be of a property that is still to be
issued. -/
def crowded : Journal :=
  (start State.initial).perform [.credit "b" 3 maxTokens, .credit "a" 1 6,
    .createOffer "a" 1 ⟨4, 8, 10, 0, "t", 0⟩]

/-- The first tokens of this property do not fit on the balance of its issuer. -/
def oversized : IssueRequest :=
  ⟨.fixed, .main, false, "b", 1, ⟨"", "", "", "", ""⟩, "u", 1⟩

theorem revertTo_perform_crowded :
    crowded.state.InForm ∧
    (Registry.issue oversized (crowded.perform [.mint "a" 2 7])).1 = .error .supplyOverflow ∧
    (Registry.issue oversized (crowded.perform [.mint "a" 2 7])).2.state.registry.supplyOf 3 = 1 ∧
    (crowded.perform [.mint "a" 2 7, .issue oversized, .acceptOffer "b" "a" 1 4]).revertTo
        (crowded.perform [.mint "a" 2 7]).entries.length =
      crowded.perform [.mint "a" 2 7] := by
  have formed : crowded.state.InForm := inForm_perform State.Canonical.initial.inForm _
  have rejected : (Registry.issue oversized (crowded.perform [.mint "a" 2 7])).1 =
      .error .supplyOverflow := by
    decide +kernel
  have begun :
      (Registry.issue oversized (crowded.perform [.mint "a" 2 7])).2.state.registry.supplyOf 3 =
        1 := by
    decide +kernel
  have restored := revertTo_perform formed [.mint "a" 2 7]
    [.issue oversized, .acceptOffer "b" "a" 1 4]
  exact ⟨formed, rejected, begun, restored⟩

end Journal
end TokenOverlay
