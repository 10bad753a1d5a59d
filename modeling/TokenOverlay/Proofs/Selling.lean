import TokenOverlay.Proofs.Checks
import TokenOverlay.Proofs.Laws

namespace TokenOverlay

/-!
The life of a sale keeps its books.  A purchase goes through once its payment
has: what it creates fits below the supply ceiling, and the counters of the
sale are no larger than the supply they add up to.
-/

open Attempt TokenOverlay.Action

/-! ## Which sale is meant -/

namespace CrowdsaleBook

variable {book : CrowdsaleBook} {issuer : Address} {sale : Crowdsale}

theorem mem_active_iff : sale ∈ book.active ↔
    (∃ id, book.get? id = some sale) ∧ sale.active = true := by
  rw [active, all, List.mem_filter, SortedMap.mem_values_iff]
  rfl

theorem activeOf?_eq_some (found : book.activeOf? issuer = some sale) :
    (∃ id, book.get? id = some sale) ∧ sale.active = true ∧ sale.issuer = issuer := by
  have member := mem_active_iff.mp (List.mem_of_find?_eq_some found)
  have named := List.find?_some found
  exact ⟨member.1, member.2, of_decide_eq_true named⟩

theorem activeOf?_eq_none (missing : book.activeOf? issuer = none) {id : PropertyId}
    (stored : book.get? id = some sale) (active : sale.active = true) : sale.issuer ≠ issuer := by
  have other := List.find?_eq_none.mp missing sale (mem_active_iff.mpr ⟨⟨id, stored⟩, active⟩)
  exact fun same => other (decide_eq_true same)

theorem target?_eq_some {recipient : Address} {property : PropertyId}
    (found : book.target? recipient property = some sale) :
    (∃ id, book.get? id = some sale) ∧ sale.active = true := by
  have running := activeOf?_eq_some (Option.filter_eq_some_iff.mp found).1
  exact ⟨running.1, running.2.1⟩

end CrowdsaleBook

/-! ## One step of a sale -/

/-- A sale after a contribution, which may be the last one. -/
def Crowdsale.accounting (sale : Crowdsale) (p : Participation) (capped : Bool) : Crowdsale :=
  let counted := { sale with
    tokensIssued := sale.tokensIssued + p.participantTokens
    issuerTokens := sale.issuerTokens + p.issuerTokens }
  if capped then CrowdsaleBook.closedAtCap counted p else counted

theorem Crowdsale.accounting_same (sale : Crowdsale) (p : Participation) (capped : Bool) :
    (sale.accounting p capped).propertyId = sale.propertyId ∧
      (sale.accounting p capped).issuer = sale.issuer ∧
      (sale.accounting p capped).desiredProperty = sale.desiredProperty := by
  cases capped <;> exact ⟨rfl, rfl, rfl⟩

namespace State.Trading

variable {s after : State} (trading : s.Trading) {id : PropertyId} {sale : Crowdsale}
  {sold : Property}

include trading

theorem total_le (registered : s.registry.get? id = some sold) : sold.totalTokens ≤ maxTokens := by
  rw [← Registry.supplyOf_of_get? registered]
  exact trading.registry.capped id

/-- A stored sale may be written anew without a contribution. -/
theorem rewritten (registered : s.registry.get? id = some sold) (keyed : sale.propertyId = id)
    (desired : s.registry.ecosystemOf? sale.desiredProperty = some sold.ecosystem)
    (agrees : sale.Agrees sold (s.crowdsales.participationsOf id))
    (alone : sale.active = true → ∀ other rival, s.crowdsales.get? other = some rival →
      rival.active = true → rival.issuer = sale.issuer → other = id) :
    (s.apply (.sale sale)).Trading := by
  subst keyed
  have same : { sold with totalTokens := sold.totalTokens + 0 } = sold := by
    rw [Int.add_zero]
  refine trading.written (Registry.Grown.refl s.registry sale.propertyId) registered ?_
    (fun other => s.crowdsales.get?_withSale sale.propertyId other sale) (fun _ _ => rfl) rfl
    desired ?_ alone
  · rw [Int.add_zero]
    exact trading.total_le registered
  · rw [same]
    exact agrees

/-- A new sale starts with nothing issued, if its issuer has no other one. -/
theorem opened (registered : s.registry.get? id = some sold) (keyed : sale.propertyId = id)
    (unsold : s.crowdsales.get? id = none)
    (desired : s.registry.ecosystemOf? sale.desiredProperty = some sold.ecosystem)
    (agrees : sale.Agrees sold []) (alone : s.crowdsales.activeOf? sale.issuer = none) :
    (s.apply (.sale sale)).Trading := by
  refine trading.rewritten registered keyed desired ?_ fun _ other rival stored active same => ?_
  · rw [CrowdsaleBook.participationsOf, trading.contributed id unsold]
    exact agrees
  · exact absurd same (CrowdsaleBook.activeOf?_eq_none alone stored active)

theorem closed (stored : s.crowdsales.get? id = some sale) (txid : Option String) (block : Nat) :
    (s.apply (.sale { sale with
      active := false, closeTxid := txid, closeBlock := some block })).Trading := by
  rcases trading.sales id sale stored with ⟨sold, registered, keyed, desired, agrees⟩
  refine trading.rewritten registered keyed desired (agrees.closed txid block) ?_
  intro impossible
  cases impossible

/-- A contribution, the counters of the sale and the supply change together. -/
theorem purchased (stored : s.crowdsales.get? id = some sale) (active : sale.active = true)
    (registered : s.registry.get? id = some sold) {p : Participation} {capped : Bool}
    (nonneg : 0 ≤ p.participantTokens ∧ 0 ≤ p.issuerTokens)
    (within : sold.totalTokens + (p.participantTokens + p.issuerTokens) ≤ maxTokens)
    (exhausted : capped = true →
      sold.totalTokens + (p.participantTokens + p.issuerTokens) = maxTokens)
    (grown : s.registry.Grown id (p.participantTokens + p.issuerTokens) after.registry)
    (books : after.crowdsales =
      (s.crowdsales.withSale id (some (sale.accounting p capped))).addParticipation id p) :
    after.Trading := by
  rcases trading.sales id sale stored with ⟨property, found, keyed, desired, agrees⟩
  rw [registered] at found
  cases found
  rcases sale.accounting_same p capped with ⟨number, issuer, wanted⟩
  have counting := agrees.counted active nonneg
  refine trading.written grown registered within ?_ ?_ (number.trans keyed) ?_ ?_ ?_
  · intro other
    rw [books]
    exact s.crowdsales.get?_withSale id other _
  · intro other elsewhere
    rw [books]
    exact SortedMap.get?_insert_of_ne _ _ elsewhere
  · rw [wanted]
    exact desired
  · rw [books, CrowdsaleBook.participationsOf_addParticipation]
    cases capped with
    | false => exact counting
    | true => exact counting.closedAtCap p (exhausted rfl)
  · intro _ other rival found running same
    exact trading.single other id rival sale found stored running active (same.trans issuer)

end State.Trading

theorem CrowdsaleBook.create_succeeds {sale : Crowdsale} {journal : Journal}
    (alone : journal.state.crowdsales.activeOf? sale.issuer = none) :
    (create sale).Yields (fun _ after => after.state = journal.state.apply (.sale sale))
      (fun _ _ => False) journal := by
  rw [create, yields_bind, yields_state, yields_bind, yields_guard, alone]
  exact ⟨fun _ => rfl, fun refused => refused rfl⟩

/-! ## Purchases -/

namespace Execute

variable {journal : Journal} {id : PropertyId} {amount : Int} {sold : Property} {sale : Crowdsale}

theorem mintIfAny_succeeds (sound : journal.state.Sound) (recipient : Address)
    (nonneg : 0 ≤ amount) (registered : journal.state.registry.get? id = some sold)
    (room : sold.totalTokens + amount ≤ maxTokens) :
    (mintIfAny recipient id amount).Yields
      (fun _ after => journal.state.Supplied id amount after.state) (fun _ _ => False) journal := by
  rw [mintIfAny, yields_ite]
  constructor
  · intro positive
    exact Registry.mint_succeeds sound recipient positive registered room
  · intro notPositive
    have nothing : amount = 0 := by omega
    rw [nothing]
    exact ⟨sound, Registry.Grown.refl _ _, rfl⟩

/-- A contribution is accounted for as long as the counters of the sale have room for it. -/
theorem recordPurchase_succeeds {quote : Quote} {p : Participation}
    (stored : journal.state.crowdsales.get? id = some sale) (keyed : sale.propertyId = id)
    (worth : p.participantTokens = quote.participantTokens ∧ p.issuerTokens = quote.issuerTokens)
    (issued : Amount.Fits (sale.tokensIssued + p.participantTokens))
    (issuer : Amount.Fits (sale.issuerTokens + p.issuerTokens)) :
    (CrowdsaleBook.recordPurchase id quote p).Yields
      (fun _ after => after.state.registry = journal.state.registry ∧
        after.state.crowdsales = (journal.state.crowdsales.withSale id
          (some (sale.accounting p quote.reachedCap))).addParticipation id p)
      (fun _ _ => False) journal := by
  have number := (sale.accounting_same p quote.reachedCap).1.trans keyed
  rw [CrowdsaleBook.recordPurchase, yields_bind, yields_state, yields_bind, yields_require]
  refine ⟨fun next found => ?_, fun missing => ?_⟩
  · rw [stored] at found
    cases found
    rw [← worth.1, ← worth.2, yields_bind, yields_add]
    refine ⟨fun _ => ?_, fun overflow => overflow issued⟩
    rw [yields_bind, yields_add]
    refine ⟨fun _ => ?_, fun overflow => overflow issuer⟩
    rw [yields_bind, yields_edit, yields_edit]
    refine ⟨rfl, ?_⟩
    rw [← number]
    rfl
  · rw [stored] at missing
    cases missing

/-- What a contribution to a running sale is worth can be created and accounted for. -/
theorem creditPurchase_succeeds (tx : TxContext) {quote : Quote}
    (sound : journal.state.Sound) (trading : journal.state.Trading)
    (stored : journal.state.crowdsales.get? id = some sale) (active : sale.active = true)
    (registered : journal.state.registry.get? id = some sold)
    (nonneg : 0 ≤ quote.participantTokens ∧ 0 ≤ quote.issuerTokens)
    (within : sold.totalTokens + (quote.participantTokens + quote.issuerTokens) ≤ maxTokens)
    (exhausted : quote.reachedCap = true →
      sold.totalTokens + (quote.participantTokens + quote.issuerTokens) = maxTokens) :
    (creditPurchase tx sale amount quote).Yields (fun _ after => after.state.Trading)
      (fun _ _ => False) journal := by
  rcases trading.sales id sale stored with ⟨property, found, keyed, _, agrees⟩
  rw [registered] at found
  cases found
  have supply := agrees.supply
  have counters := agrees.nonneg
  have fits : ∀ n : Int, 0 ≤ n → n ≤ maxTokens → Amount.Fits n := fun n low high =>
    ⟨Int.le_trans (by decide) low, high⟩
  rw [creditPurchase, keyed]
  refine (mintIfAny_succeeds sound tx.sender nonneg.1 registered (by omega)).bind ?_
    fun _ _ impossible => impossible
  intro _ between first
  refine (mintIfAny_succeeds first.sound sale.issuer nonneg.2
    (first.grown.get?_self registered) (by dsimp only; omega)).bind ?_
    fun _ _ impossible => impossible
  intro _ minted second
  have sales := second.crowdsales.trans first.crowdsales
  refine (recordPurchase_succeeds (sales ▸ stored) keyed ⟨rfl, rfl⟩
    (fits _ (Int.add_nonneg counters.1 nonneg.1) (by dsimp only; omega))
    (fits _ (Int.add_nonneg counters.2 nonneg.2) (by dsimp only; omega))).bind ?_
    fun _ _ impossible => impossible
  rintro _ after ⟨registry, books⟩
  have grown := first.grown.trans second.grown
  rw [← registry] at grown
  rw [sales] at books
  exact trading.purchased stored active registered nonneg within exhausted grown books

/-- A contribution to a running sale never fails. -/
theorem contribute_succeeds (rules : Rules) (tx : TxContext) (property : PropertyId)
    (sound : journal.state.Sound) (trading : journal.state.Trading)
    (stored : journal.state.crowdsales.get? id = some sale) (active : sale.active = true) :
    (contribute rules tx sale property amount).Yields (fun _ after => after.state.Trading)
      (fun _ _ => False) journal := by
  rcases trading.sales id sale stored with ⟨sold, registered, keyed, _, agrees⟩
  have bounds := (contributionOf rules tx journal.state sale property amount sold).quote_bounds
    agrees.total_nonneg (trading.total_le registered)
  rw [contribute, keyed, yields_bind, Registry.yields_lookup]
  refine ⟨fun q found => ?_, fun missing => ?_⟩
  · rw [registered] at found
    cases found
    rw [yields_bind, yields_state, yields_ite]
    refine ⟨fun _ => trading, fun _ => ?_⟩
    exact creditPurchase_succeeds tx sound trading stored active registered
      ⟨bounds.1, bounds.2.1⟩ bounds.2.2.1 bounds.2.2.2
  · rw [registered] at missing
    cases missing

end Execute

/-! ## The start of a block -/

namespace State

/-- The registry and the sales are in order, whatever happens. -/
abbrev trade : Condition := .throughout Trading

/-- A sale that is over stays in order. -/
theorem Trading.keeps_expireOne (block : Nat) (property : PropertyId) :
    trade.Keeps (CrowdsaleBook.expireOne block property) := by
  intro journal trading
  rw [CrowdsaleBook.expireOne, yields_bind, yields_state]
  cases stored : journal.state.crowdsales.get? property with
  | some sale => exact Trading.closed trading stored sale.closeTxid block
  | none => exact trading

end State

/-! ## Before the first block -/

namespace Engine

variable {s : State}

/-- No sale is there yet when the first tokens are allocated. -/
theorem allocate_trading (sound : s.Sound) (trading : s.Trading) (empty : s.crowdsales = .empty)
    (allocation : Allocation) :
    (allocate s allocation).Trading ∧ (allocate s allocation).crowdsales = .empty := by
  have start : (Journal.start s).state.Sound := sound
  have minted := Registry.mint_yields allocation.address allocation.property allocation.amount
    start
  unfold allocate
  rcases run : Registry.mint allocation.address allocation.property allocation.amount
    (.start s) with ⟨reason | _, after⟩
  · rw [minted.of_error run]
    exact ⟨trading, empty⟩
  · have positive : 0 < allocation.amount := by
      by_contra notPositive
      rw [Registry.mint, bind_run, guard_run_false notPositive] at run
      cases run
    rcases (Registry.mint_decided start allocation.address allocation.property positive).of_ok run
      with ⟨passed, supplied⟩
    rcases Registry.checkRoom_ok passed with ⟨p, registered, room⟩
    have crowdsales := supplied.crowdsales.trans empty
    refine ⟨trading.supplied supplied.grown supplied.crowdsales registered ?_ (by omega),
      crowdsales⟩
    rw [empty]
    rfl

theorem foldl_allocate_trading (allocations : List Allocation) (sound : s.Sound)
    (trading : s.Trading) (empty : s.crowdsales = .empty) :
    (allocations.foldl allocate s).Trading := by
  induction allocations generalizing s with
  | nil => exact trading
  | cons allocation rest ih =>
      have first := allocate_trading sound trading empty allocation
      exact ih (allocate_sound sound allocation) first.1 first.2

theorem genesisState_trading (config : EngineConfig) : (genesisState config).Trading :=
  foldl_allocate_trading config.allocations State.Sound.initial State.Trading.initial rfl

theorem prelude_trading (trading : s.Trading) (block : Block) :
    (prelude block (.start s)).2.state.Trading := by
  have feature : ∀ id next, State.trade.Keeps (Action.edit (.feature id next)) :=
    fun id next => .edit fun journal held => held.of_same rfl rfl
  have kept := Condition.keeps_prelude_of feature block
    (State.Trading.keeps_expireOne block.height)
  exact kept.state_after trading

end Engine
end TokenOverlay
