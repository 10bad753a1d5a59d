import TokenOverlay.Proofs.Crowdsales

namespace TokenOverlay

/-!
The two ecosystems do not touch each other.  A message acts on properties of one
ecosystem only, also where it does so indirectly: a sale sells in the ecosystem
it is paid in, and a fee is paid in the protocol token of the property that is
sent.  So what it writes, it writes in that ecosystem.
-/

open Attempt TokenOverlay.Action

/-- A byte that names an ecosystem is the number of its protocol token. -/
theorem Ecosystem.of_ofByte {byte : UInt8} {ecosystem : Ecosystem}
    (named : ofByte byte = some ecosystem) : of byte.toUInt32 = some ecosystem := by
  unfold ofByte at named
  split at named <;> cases named <;> rfl

namespace State

/-- Nothing that belongs to an ecosystem differs between two states. -/
structure AgreesIn (s : State) (ecosystem : Ecosystem) (after : State) : Prop where
  balance : ∀ address id, Ecosystem.of id = some ecosystem →
    after.ledger.balance address id = s.ledger.balance address id
  property : ∀ id, Ecosystem.of id = some ecosystem → after.registry.get? id = s.registry.get? id
  nextId : after.registry.nextId ecosystem = s.registry.nextId ecosystem
  sale : ∀ id, Ecosystem.of id = some ecosystem → after.crowdsales.get? id = s.crowdsales.get? id
  participations : ∀ id, Ecosystem.of id = some ecosystem →
    after.crowdsales.participations.get? id = s.crowdsales.participations.get? id
  offer : ∀ seller id, Ecosystem.of id = some ecosystem →
    after.orders.get? seller id = s.orders.get? seller id

namespace AgreesIn

variable {s between after : State} {ecosystem : Ecosystem}

theorem refl (s : State) (ecosystem : Ecosystem) : s.AgreesIn ecosystem s where
  balance := fun _ _ _ => rfl
  property := fun _ _ => rfl
  nextId := rfl
  sale := fun _ _ => rfl
  participations := fun _ _ => rfl
  offer := fun _ _ _ => rfl

theorem trans (first : s.AgreesIn ecosystem between) (second : between.AgreesIn ecosystem after) :
    s.AgreesIn ecosystem after where
  balance := fun address id here =>
    (second.balance address id here).trans (first.balance address id here)
  property := fun id here => (second.property id here).trans (first.property id here)
  nextId := second.nextId.trans first.nextId
  sale := fun id here => (second.sale id here).trans (first.sale id here)
  participations := fun id here =>
    (second.participations id here).trans (first.participations id here)
  offer := fun seller id here => (second.offer seller id here).trans (first.offer seller id here)

end AgreesIn

/-- Everything is kept under the number it belongs to, and a sale is paid in the ecosystem it
sells in. -/
structure Located (s : State) : Prop where
  numbered : s.registry.Numbered
  property : ∀ id p, s.registry.get? id = some p → Ecosystem.of id = some p.ecosystem
  sale : ∀ id sale, s.crowdsales.get? id = some sale →
    sale.propertyId = id ∧ Ecosystem.of sale.desiredProperty = Ecosystem.of id
  offer : ∀ seller id offer, s.orders.get? seller id = some offer →
    offer.seller = seller ∧ offer.propertyId = id

theorem Reached.located {rules : Rules} {s : State} (reached : s.Reached rules) : s.Located where
  numbered := reached.sound.canonical.registry
  property := reached.trading.registry.located
  sale := by
    intro id sale stored
    have trading := reached.trading
    rcases trading.sales id sale stored with ⟨sold, registered, keyed, payable, _⟩
    rcases Option.map_eq_some_iff.mp payable with ⟨desired, found, same⟩
    rw [trading.registry.located _ desired found, trading.registry.located id sold registered, same]
    exact ⟨keyed, rfl⟩
  offer := reached.sound.keyed

end State

/-! ## Edits -/

/-- The edit writes to what belongs to the ecosystem, or to what belongs to none. -/
def Edit.Within (ecosystem : Ecosystem) (s : State) : Edit → Prop
  | .balance _ property _ => Ecosystem.of property = some ecosystem
  | .supply property _ => Ecosystem.of property = some ecosystem
  | .register p next => p.ecosystem = ecosystem ∧ s.registry.Admits p next
  | .sale next => Ecosystem.of next.propertyId = some ecosystem ∧
      Ecosystem.of next.desiredProperty = some ecosystem
  | .participation property _ => Ecosystem.of property = some ecosystem
  | .offer seller property next => Ecosystem.of property = some ecosystem ∧
      ∀ o, next = some o → o.seller = seller ∧ o.propertyId = property
  | .feature .. => True
  | .receipt _ => True

namespace State

variable {s : State} {ecosystem : Ecosystem} {change : Edit}

theorem Located.apply (located : s.Located) (within : change.Within ecosystem s) :
    (s.apply change).Located := by
  cases change with
  | balance address property next => exact { located with }
  | supply property total =>
      refine { located with numbered := located.numbered.withSupply property total, property := ?_ }
      intro id p found
      change (s.registry.withSupply property total).get? id = some p at found
      rw [Registry.get?_withSupply] at found
      split at found
      · next same =>
          rcases Option.map_eq_some_iff.mp found with ⟨old, before, rfl⟩
          exact same ▸ located.property property old before
      · exact located.property id p found
  | register p next =>
      have numbered : (s.registry.added p next).Numbered := located.numbered.added within.2
      refine { located with numbered, property := ?_ }
      intro id q found
      change (s.registry.added p next).get? id = some q at found
      rw [Registry.get?_added] at found
      split at found
      · next same =>
          cases found
          rw [same]
          exact located.numbered.of_admits within.2
      · exact located.property id q found
  | sale opened =>
      refine { located with sale := ?_ }
      intro id sale found
      change (s.crowdsales.withSale opened.propertyId (some opened)).get? id = some sale at found
      rw [CrowdsaleBook.get?_withSale] at found
      split at found
      · next same =>
          cases found
          rw [same, within.1, within.2]
          exact ⟨rfl, rfl⟩
      · exact located.sale id sale found
  | participation property p => exact { located with }
  | offer seller property next =>
      refine { located with offer := ?_ }
      intro other id offer found
      change (s.orders.write seller property next).get? other id = some offer at found
      rw [OrderBook.get?_write] at found
      split at found
      · next same =>
          rw [same.1, same.2]
          exact within.2 offer found
      · exact located.offer other id offer found
  | feature id feature => exact { located with }
  | receipt receipt => exact { located with }

theorem agreesIn_apply (located : s.Located) (within : change.Within ecosystem s)
    {other : Ecosystem} (elsewhere : other ≠ ecosystem) : s.AgreesIn other (s.apply change) := by
  have apart : ∀ {id written : PropertyId}, Ecosystem.of id = some other →
      Ecosystem.of written = some ecosystem → id ≠ written := by
    rintro id _ there here rfl
    exact elsewhere (Option.some.inj (there.symm.trans here))
  have base := AgreesIn.refl s other
  cases change with
  | balance address property next =>
      refine { base with balance := fun holder id there => ?_ }
      have different : id ≠ property := apart there within
      change (s.ledger.write address property next).balance holder id = _
      rw [Ledger.balance_write, if_neg fun same => different same.2]
  | supply property total =>
      refine { base with property := fun id there => ?_, nextId := ?_ }
      · have different : id ≠ property := apart there within
        change (s.registry.withSupply property total).get? id = _
        rw [Registry.get?_withSupply, if_neg different]
      · exact Registry.nextId_withSupply s.registry property total other
  | register p next =>
      have here := located.numbered.of_admits within.2
      rw [within.1] at here
      refine { base with property := fun id there => ?_, nextId := ?_ }
      · change (s.registry.added p next).get? id = _
        rw [Registry.get?_added, if_neg (apart there here)]
      · change (s.registry.added p next).nextId other = _
        rw [Registry.nextId_added, within.1, if_neg elsewhere]
  | sale sale =>
      refine { base with sale := fun id there => ?_ }
      change (s.crowdsales.withSale sale.propertyId (some sale)).get? id = _
      rw [CrowdsaleBook.get?_withSale, if_neg (apart there within.1)]
  | participation property p =>
      refine { base with participations := fun id there => ?_ }
      have different : id ≠ property := apart there within
      change (s.crowdsales.addParticipation property p).participations.get? id = _
      rw [CrowdsaleBook.addParticipation, SortedMap.get?_insert, if_neg different]
  | offer seller property next =>
      refine { base with offer := fun holder id there => ?_ }
      have different := apart there within.1
      change (s.orders.write seller property next).get? holder id = _
      rw [OrderBook.get?_write, if_neg fun same => different same.2]
  | feature id feature => exact { base with }
  | receipt receipt => exact { base with }

end State

/-! ## What an action answers -/

namespace Condition

variable {c : Condition} {α β : Type}

/-- The action keeps the condition, and something is known about what it answers. -/
def Answers (c : Condition) (action : Action α) (known : α → Prop) : Prop :=
  ∀ journal, c.kept journal →
    action.Yields (fun value after => known value ∧ c.kept after) (fun _ => c.failed) journal

theorem Answers.bind {action : Action α} {known : α → Prop} {next : α → Action β}
    (first : c.Answers action known) (later : ∀ value, known value → c.Keeps (next value)) :
    c.Keeps (action >>= next) := by
  intro journal held
  refine (first journal held).bind ?_ fun _ _ failing => failing
  rintro value between ⟨holds, stillHeld⟩
  exact later value holds between stillHeld

/-- What is known about the answer is decided by the last step. -/
theorem Answers.after {action : Action α} {known : β → Prop} {next : α → Action β}
    (first : c.Keeps action) (later : ∀ value, c.Answers (next value) known) :
    c.Answers (action >>= next) known := by
  intro journal held
  refine (first journal held).bind ?_ fun _ _ failing => failing
  intro value between stillHeld
  exact later value between stillHeld

theorem Answers.ite {condition : Prop} [Decidable condition] {yes no : Action α}
    {known : α → Prop} (whenTrue : c.Answers yes known) (whenFalse : c.Answers no known) :
    c.Answers (if condition then yes else no) known := by
  split
  · exact whenTrue
  · exact whenFalse

theorem answers_pure {value : α} {known : α → Prop} (holds : known value) :
    c.Answers (Pure.pure value : Action α) known :=
  fun _ held => ⟨holds, held⟩

theorem answers_require (reason : Rejection) (value : Option α) :
    c.Answers (Action.require reason value) fun found => value = some found := by
  intro journal held
  rw [Action.yields_require]
  exact ⟨fun _ found => ⟨found, held⟩, fun _ => c.weaken journal held⟩

theorem answers_state {holds : State → Prop} :
    (Condition.ofState holds).Answers Action.state holds :=
  fun _ held => ⟨held, held⟩

end Condition

/-! ## Building blocks -/

namespace State

/-- From a state on, nothing is written outside of an ecosystem. -/
def Isolates (base : State) (ecosystem : Ecosystem) (s : State) : Prop :=
  s.Located ∧ ∀ other, other ≠ ecosystem → base.AgreesIn other s

abbrev isolating (base : State) (ecosystem : Ecosystem) : Condition :=
  .ofState (base.Isolates ecosystem)

variable {base : State} {ecosystem : Ecosystem}

theorem Isolates.apply {s : State} {change : Edit} (isolates : base.Isolates ecosystem s)
    (within : change.Within ecosystem s) : base.Isolates ecosystem (s.apply change) := by
  rcases isolates with ⟨located, agrees⟩
  exact ⟨located.apply within, fun other elsewhere =>
    (agrees other elsewhere).trans (agreesIn_apply located within elsewhere)⟩

theorem edit_isolates {change : Edit} (within : ∀ s : State, change.Within ecosystem s) :
    (base.isolating ecosystem).Keeps (Action.edit change) :=
  .edit fun journal isolates => isolates.apply (within journal.state)

end State

section Blocks

variable {base : State} {ecosystem : Ecosystem} {property : PropertyId}
  (inside : Ecosystem.of property = some ecosystem)

include inside

namespace Ledger

theorem set_isolates (address : Address) (next : Balance) :
    (base.isolating ecosystem).Keeps (set address property next) := by
  refine .bind .state fun _ => .ite (.pure _) ?_
  exact State.edit_isolates fun _ => inside

theorem credit_isolates (address : Address) (amount : Int) :
    (base.isolating ecosystem).Keeps (credit address property amount) :=
  .bind .state fun _ => .bind (.require _ _) fun _ => set_isolates inside address _

theorem debit_isolates (address : Address) (amount : Int) :
    (base.isolating ecosystem).Keeps (debit address property amount) :=
  .bind .state fun _ => .bind (.guard _ _) fun _ => set_isolates inside address _

theorem reserve_isolates (address : Address) (amount : Int) :
    (base.isolating ecosystem).Keeps (reserve address property amount) := by
  refine .bind .state fun _ => .bind (.guard _ _) fun _ => .bind (.require _ _) fun _ => ?_
  exact set_isolates inside address _

theorem unreserve_isolates (address : Address) (amount : Int) :
    (base.isolating ecosystem).Keeps (unreserve address property amount) := by
  refine .bind .state fun _ => .bind (.guard _ _) fun _ => .bind (.require _ _) fun _ => ?_
  exact set_isolates inside address _

theorem transferReserved_isolates (source target : Address) (amount : Int) :
    (base.isolating ecosystem).Keeps (transferReserved source target property amount) := by
  refine .bind .state fun _ => .bind (.guard _ _) fun _ => ?_
  exact .bind (set_isolates inside source _) fun _ => credit_isolates inside target amount

end Ledger

namespace Registry

theorem mint_isolates (recipient : Address) (amount : Int) :
    (base.isolating ecosystem).Keeps (mint recipient property amount) := by
  refine .bind (.guard _ _) fun _ => .bind (Condition.keeps_lookup property) fun _ => ?_
  refine .bind (.require _ _) fun total => ?_
  refine .bind (State.edit_isolates fun _ => inside) fun _ => ?_
  exact Ledger.credit_isolates inside recipient amount

theorem burn_isolates (holder : Address) (amount : Int) :
    (base.isolating ecosystem).Keeps (burn holder property amount) := by
  refine .bind (.guard _ _) fun _ => .bind (Condition.keeps_lookup property) fun _ => ?_
  refine .bind (Ledger.debit_isolates inside holder amount) fun _ => ?_
  exact State.edit_isolates fun _ => inside

end Registry

namespace OrderBook

omit inside in
/-- An offer is found where it belongs. -/
theorem answers_existing (seller : Address) (property : PropertyId) :
    (base.isolating ecosystem).Answers (existing seller property)
      fun offer => offer.seller = seller ∧ offer.propertyId = property := by
  intro journal held
  rw [yields_existing]
  exact ⟨fun offer found => ⟨held.1.offer seller property offer found, held⟩, fun _ => trivial⟩

theorem create_isolates (seller : Address) (terms : OfferTerms) :
    (base.isolating ecosystem).Keeps (create seller property terms) := by
  refine .bind .state fun _ => .bind (.guard _ _) fun _ => ?_
  refine .bind (Ledger.reserve_isolates inside seller _) fun _ => ?_
  exact State.edit_isolates fun _ => ⟨inside, keyed_ofTerms terms⟩

theorem update_isolates (seller : Address) (terms : OfferTerms) :
    (base.isolating ecosystem).Keeps (update seller property terms) := by
  refine (answers_existing seller property).bind fun offer keyed => ?_
  refine .bind (Ledger.unreserve_isolates inside seller _) fun _ => ?_
  refine .bind (Ledger.reserve_isolates inside seller _) fun _ => ?_
  rcases keyed with ⟨rfl, rfl⟩
  exact State.edit_isolates fun _ => ⟨inside, keyed_ofTerms terms⟩

theorem cancel_isolates (seller : Address) :
    (base.isolating ecosystem).Keeps (cancel seller property) := by
  refine .bind (Condition.Keeps.bind .state fun _ => .require _ _) fun offer => ?_
  refine .bind (Ledger.unreserve_isolates inside seller _) fun _ => ?_
  exact State.edit_isolates fun _ => ⟨inside, keyed_none⟩

theorem accept_isolates (buyer seller : Address) (amount : Int) :
    (base.isolating ecosystem).Keeps (accept buyer seller property amount) := by
  refine .bind (.guard _ _) fun _ => (answers_existing seller property).bind fun offer keyed => ?_
  refine .bind (.guard _ _) fun _ => ?_
  refine .bind (Ledger.transferReserved_isolates inside seller buyer amount) fun _ => ?_
  rcases keyed with ⟨rfl, rfl⟩
  refine .ite (.bind (State.edit_isolates fun _ => ⟨inside, keyed_none⟩) fun _ => .pure _) ?_
  refine .bind (State.edit_isolates fun _ => ⟨inside, fun o same => ?_⟩) fun _ => .pure _
  cases same
  exact ⟨rfl, rfl⟩

end OrderBook

namespace CrowdsaleBook

/-- What is paid for a sale is of the ecosystem that the sale sells in. -/
theorem target_inside {s : State} (located : s.Located) {recipient : Address} {sale : Crowdsale}
    (found : s.crowdsales.target? recipient property = some sale) :
    Ecosystem.of sale.propertyId = some ecosystem := by
  rcases (target?_eq_some found).1 with ⟨id, stored⟩
  have payable : sale.desiredProperty = property :=
    of_decide_eq_true (Option.filter_eq_some_iff.mp found).2
  rcases located.sale id sale stored with ⟨rfl, same⟩
  rw [← same, payable]
  exact inside

omit inside in
theorem create_isolates {sale : Crowdsale} (sold : Ecosystem.of sale.propertyId = some ecosystem)
    (paid : Ecosystem.of sale.desiredProperty = some ecosystem) :
    (base.isolating ecosystem).Keeps (create sale) := by
  refine .bind .state fun _ => .bind (.guard _ _) fun _ => ?_
  exact State.edit_isolates fun _ => ⟨sold, paid⟩

/-- A stored sale may be written back with other contents. -/
theorem rewritten_within {s : State} (located : s.Located) {sale next : Crowdsale}
    (stored : s.crowdsales.get? property = some sale) (sold : next.propertyId = sale.propertyId)
    (paid : next.desiredProperty = sale.desiredProperty) :
    Edit.Within ecosystem s (.sale next) := by
  rcases located.sale property sale stored with ⟨keyed, same⟩
  change Ecosystem.of next.propertyId = _ ∧ Ecosystem.of next.desiredProperty = _
  rw [sold, paid, keyed, same]
  exact ⟨inside, inside⟩

theorem close_isolates (sender : Address) (txid : String) (block : Nat) :
    (base.isolating ecosystem).Keeps (close sender property txid block) := by
  refine Condition.answers_state.bind fun s held => ?_
  refine (Condition.answers_require _ _).bind fun sale stored => ?_
  refine .bind (.guard _ _) fun _ => .bind (.guard _ _) fun _ => ?_
  exact State.edit_isolates fun _ => rewritten_within inside held.1 stored rfl rfl

theorem recordPurchase_isolates (quote : Quote) (p : Participation) :
    (base.isolating ecosystem).Keeps (recordPurchase property quote p) := by
  refine Condition.answers_state.bind fun s held => ?_
  refine (Condition.answers_require _ _).bind fun sale stored => ?_
  refine .bind (.require _ _) fun issued => .bind (.require _ _) fun issuer => ?_
  refine .bind (State.edit_isolates fun _ => ?_) fun _ => State.edit_isolates fun _ => inside
  apply rewritten_within inside held.1 stored
  · split <;> rfl
  · split <;> rfl

end CrowdsaleBook
end Blocks

namespace Registry

variable {base : State} {ecosystem : Ecosystem}

/-- A property is found where it belongs. -/
theorem answers_lookup (id : PropertyId) :
    (base.isolating ecosystem).Answers (lookup id) fun p => Ecosystem.of id = some p.ecosystem := by
  intro journal isolates
  rw [yields_lookup]
  exact ⟨fun p found => ⟨isolates.1.property id p found, isolates⟩, fun _ => trivial⟩

/-- A new property lies in the ecosystem it is asked for. -/
theorem issue_isolates (request : IssueRequest) (asked : request.ecosystem = ecosystem) :
    (base.isolating ecosystem).Answers (issue request)
      fun id => Ecosystem.of id = some ecosystem := by
  refine .after (.guard _ _) fun _ => ?_
  intro journal isolates
  rw [yields_bind, yields_state]
  dsimp only
  split
  · trivial
  · next next follows =>
      have admits : journal.state.registry.Admits
          (request.property (journal.state.registry.nextId request.ecosystem)) next :=
        ⟨rfl, follows⟩
      have within : Edit.Within ecosystem journal.state (.register
          (request.property (journal.state.registry.nextId request.ecosystem)) next) :=
        ⟨asked, admits⟩
      have inside : Ecosystem.of (journal.state.registry.nextId request.ecosystem) =
          some ecosystem := asked ▸ isolates.1.numbered.of_admits admits
      have minted : (base.isolating ecosystem).Answers (do
          if 0 < request.initialAmount then
            mint request.issuer (journal.state.registry.nextId request.ecosystem)
              request.initialAmount
          return journal.state.registry.nextId request.ecosystem)
          fun id => Ecosystem.of id = some ecosystem :=
        .ite (.after (mint_isolates inside _ _) fun _ => Condition.answers_pure inside)
          (Condition.answers_pure inside)
      rw [yields_bind, yields_edit]
      exact minted _ (isolates.apply within)

end Registry

/-! ## Messages -/

namespace Ledger

/-- What is listed as available in an ecosystem belongs to it. -/
theorem inside_of_mem_availableIn {l : Ledger} {address : Address} {ecosystem : Ecosystem}
    {move : PropertyId × Int} (member : move ∈ l.availableIn address ecosystem) :
    Ecosystem.of move.1 = some ecosystem := by
  rcases List.mem_map.mp member with ⟨entry, kept, rfl⟩
  exact of_decide_eq_true (Bool.and_eq_true_iff.mp (List.mem_filter.mp kept).2).1

end Ledger

namespace Execute

variable {base : State} {ecosystem : Ecosystem} {property : PropertyId} (rules : Rules)
  (tx : TxContext)

theorem issuance_inside (issuance : Issuance)
    (inside : Ecosystem.of issuance.ecosystem.toUInt32 = some ecosystem) :
    (base.isolating ecosystem).Answers (checkIssuance issuance)
      fun asked => asked.1 = ecosystem := by
  intro journal isolates
  rw [checkIssuance, yields_bind, yields_require]
  refine ⟨fun named byte => ?_, fun _ => trivial⟩
  have same := (Ecosystem.of_ofByte byte).symm.trans inside
  have rest : (base.isolating ecosystem).Answers (do
      let divisible ← Action.require .invalidPropertyType (divisibilityOf? issuance.propertyType)
      Action.guard (issuance.previousProperty = 0) .unsupportedPreviousProperty
      Action.guard (issuance.description.name ≠ "") .emptyName
      return (named, divisible)) fun asked => asked.1 = ecosystem :=
    .after (.require _ _) fun _ => .after (.guard _ _) fun _ => .after (.guard _ _) fun _ =>
      Condition.answers_pure (Option.some.inj same)
  exact rest journal isolates

section

variable (inside : Ecosystem.of property = some ecosystem)

include inside

theorem mintIfAny_isolates (recipient : Address) (amount : Int) :
    (base.isolating ecosystem).Keeps (mintIfAny recipient property amount) :=
  .ite (Registry.mint_isolates inside recipient amount) (.pure ())

theorem burnFee_isolates (holder : Address) (fee : Int) :
    (base.isolating ecosystem).Keeps (burnFee holder property fee) :=
  .ite (Registry.burn_isolates inside holder fee) (.pure ())

omit inside in
theorem contribute_isolates {sale : Crowdsale}
    (sold : Ecosystem.of sale.propertyId = some ecosystem) (amount : Int) :
    (base.isolating ecosystem).Keeps (contribute rules tx sale property amount) := by
  refine .bind (Condition.keeps_lookup _) fun _ => .bind .state fun s => .ite (.pure _) ?_
  refine .bind (mintIfAny_isolates sold _ _) fun _ => ?_
  refine .bind (mintIfAny_isolates sold _ _) fun _ => ?_
  exact .bind (CrowdsaleBook.recordPurchase_isolates sold _ _) fun _ => .pure _

theorem simpleSend_isolates (raw : UInt64) :
    (base.isolating ecosystem).Keeps (simpleSend rules tx property raw) := by
  refine Condition.amountOf_bind fun amount _ _ => ?_
  refine .bind (Condition.keeps_lookup property) fun _ => .bind (.require _ _) fun recipient => ?_
  refine .bind (Ledger.debit_isolates inside tx.sender amount) fun _ => ?_
  refine .bind (Ledger.credit_isolates inside recipient amount) fun _ => ?_
  refine Condition.answers_state.bind fun s isolates => ?_
  split
  · next sale found =>
      have paid := (Option.filter_eq_some_iff.mp found).1
      exact contribute_isolates rules tx (CrowdsaleBook.target_inside inside isolates.1 paid) amount
  · exact .pure _

/-- The fee is paid in the ecosystem of what is sent, whoever it is sent to. -/
theorem sendToOwners_isolates (raw : UInt64) (distribution : Option PropertyId) :
    (base.isolating ecosystem).Keeps (sendToOwners rules tx property raw distribution) := by
  refine .bind .state fun _ => .bind (.guard _ _) fun _ => ?_
  refine Condition.amountOf_bind fun amount _ _ => ?_
  refine (Registry.answers_lookup property).bind fun sent located => ?_
  have fee : Ecosystem.of sent.ecosystem.protocolToken = some ecosystem := by
    rw [Ecosystem.of_protocolToken, ← located, inside]
  refine .bind (Condition.keeps_lookup _) fun _ => .bind .state fun s => ?_
  refine .bind (.guard _ _) fun _ => .bind (.guard _ _) fun _ => .bind (.guard _ _) fun _ => ?_
  refine .bind (Ledger.debit_isolates inside tx.sender amount) fun _ => ?_
  refine .bind (.forM fun recipient _ => Ledger.credit_isolates inside _ _) fun _ => ?_
  refine .bind (burnFee_isolates fee _ _) fun _ => ?_
  exact .bind (State.edit_isolates fun _ => trivial) fun _ => .pure _

theorem closeCrowdsale_isolates :
    (base.isolating ecosystem).Keeps (closeCrowdsale tx property) := by
  refine .bind (Condition.keeps_lookup property) fun _ => ?_
  exact .bind (CrowdsaleBook.close_isolates inside _ _ _) fun _ => .pure _

theorem grant_isolates (raw : UInt64) :
    (base.isolating ecosystem).Keeps (grant tx property raw) := by
  refine Condition.amountOf_bind fun amount _ _ => ?_
  refine .bind (.bind (Condition.keeps_checkManager _ property) fun _ => ?_) fun _ => .pure _
  exact Registry.mint_isolates inside _ amount

theorem revoke_isolates (raw : UInt64) :
    (base.isolating ecosystem).Keeps (revoke tx property raw) := by
  refine Condition.amountOf_bind fun amount _ _ => ?_
  refine .bind (.bind (Condition.keeps_checkManager _ property) fun _ => ?_) fun _ => .pure _
  exact Registry.burn_isolates inside _ amount

theorem sellOffer_isolates (raw desired : UInt64) (timeLimit : UInt8) (minFee : UInt64)
    (action : OfferAction) :
    (base.isolating ecosystem).Keeps
      (sellOffer tx property raw desired timeLimit minFee action) := by
  refine .bind (Condition.keeps_lookup property) fun _ => ?_
  refine .bind (.bind .state fun _ => .guard _ _) fun _ => ?_
  cases action with
  | new =>
      refine Condition.termsOf_bind fun terms _ => ?_
      exact .bind (OrderBook.create_isolates inside tx.sender terms) fun _ => .pure _
  | update =>
      refine Condition.termsOf_bind fun terms _ => ?_
      exact .bind (OrderBook.update_isolates inside tx.sender terms) fun _ => .pure _
  | cancel => exact .bind (OrderBook.cancel_isolates inside tx.sender) fun _ => .pure _

theorem acceptOffer_isolates (raw : UInt64) :
    (base.isolating ecosystem).Keeps (acceptOffer tx property raw) := by
  refine Condition.amountOf_bind fun amount _ _ => ?_
  refine .bind (Condition.keeps_lookup property) fun _ => .bind (.require _ _) fun seller => ?_
  exact .bind (OrderBook.accept_isolates inside tx.sender seller amount) fun _ => .pure _

end

theorem sendAll_isolates {byte : UInt8} (inside : Ecosystem.of byte.toUInt32 = some ecosystem) :
    (base.isolating ecosystem).Keeps (sendAll tx byte) := by
  refine (Condition.answers_require _ _).bind fun named byte => ?_
  have same := Option.some.inj ((Ecosystem.of_ofByte byte).symm.trans inside)
  refine .bind (.require _ _) fun recipient => .bind .state fun s => .bind (.guard _ _) fun _ => ?_
  refine .bind (.forM fun move member => ?_) fun _ => .pure _
  have here := Ledger.inside_of_mem_availableIn member
  rw [same] at here
  exact .bind (Ledger.debit_isolates here _ _) fun _ => Ledger.credit_isolates here _ _

theorem issueFixed_isolates {issuance : Issuance}
    (inside : Ecosystem.of issuance.ecosystem.toUInt32 = some ecosystem) (raw : UInt64) :
    (base.isolating ecosystem).Keeps (issueFixed tx issuance raw) := by
  refine (issuance_inside issuance inside).bind fun asked same => ?_
  refine Condition.amountOf_bind fun amount _ _ => ?_
  exact (Registry.issue_isolates _ same).bind fun _ _ => .pure _

theorem issueManaged_isolates {issuance : Issuance}
    (inside : Ecosystem.of issuance.ecosystem.toUInt32 = some ecosystem) :
    (base.isolating ecosystem).Keeps (issueManaged tx issuance) := by
  refine (issuance_inside issuance inside).bind fun asked same => ?_
  exact (Registry.issue_isolates _ same).bind fun _ _ => .pure _

theorem issueCrowdsale_isolates {issuance : Issuance}
    (inside : Ecosystem.of issuance.ecosystem.toUInt32 = some ecosystem) (desired : PropertyId)
    (rate rawDeadline : UInt64) (earlyBonus issuerPercent : UInt8) :
    (base.isolating ecosystem).Keeps
      (issueCrowdsale tx issuance desired rate rawDeadline earlyBonus issuerPercent) := by
  refine (issuance_inside issuance inside).bind fun asked same => ?_
  refine .bind (Condition.keeps_lookup desired) fun _ => .guard_bind fun payable => ?_
  refine Condition.amountOf_bind fun tokensPerUnit _ _ => .bind (.guard _ _) fun _ => ?_
  refine .bind .state fun _ => .bind (.guard _ _) fun _ => ?_
  refine (Registry.issue_isolates _ same).bind fun id sold => ?_
  rw [same] at payable
  exact .bind (CrowdsaleBook.create_isolates sold payable) fun _ => .pure _

/-- A message on a property of one ecosystem writes to that ecosystem only. -/
theorem payload_isolates (p : Payload) (inside : Ecosystem.of p.primaryProperty = some ecosystem) :
    (base.isolating ecosystem).Keeps (payload rules tx p) := by
  cases p with
  | simpleSend property amount => exact simpleSend_isolates rules tx inside amount
  | sendToOwners property amount distribution =>
      exact sendToOwners_isolates rules tx inside amount distribution
  | sendAll byte => exact sendAll_isolates tx inside
  | sellOffer property amount desired timeLimit minFee action =>
      exact sellOffer_isolates tx inside amount desired timeLimit minFee action
  | acceptOffer property amount => exact acceptOffer_isolates tx inside amount
  | issueFixed issuance amount => exact issueFixed_isolates tx inside amount
  | issueCrowdsale issuance desired rate deadline earlyBonus issuerPercent =>
      exact issueCrowdsale_isolates tx inside desired rate deadline earlyBonus issuerPercent
  | closeCrowdsale property => exact closeCrowdsale_isolates tx inside
  | issueManaged issuance => exact issueManaged_isolates tx inside
  | grant property amount memo => exact grant_isolates tx inside amount
  | revoke property amount memo => exact revoke_isolates tx inside amount
  | deactivate id => cases inside
  | activate id target clientVersion => cases inside

/-- From a state on, only features are switched. -/
abbrev switching (base : State) : Condition :=
  .ofState fun s => s = { base with features := s.features }

theorem payload_switches (p : Payload)
    (control : (∃ id, p = .deactivate id) ∨ ∃ id target version, p = .activate id target version) :
    (switching base).Keeps (payload rules tx p) := by
  have feature : ∀ id next, (switching base).Keeps (Action.edit (.feature id next)) := by
    refine fun id next => .edit fun journal same => ?_
    exact congrArg (fun s : State =>
      { s with features := journal.state.features.withFeature id next }) same
  rcases control with ⟨id, rfl⟩ | ⟨id, target, version, rfl⟩
  · exact .bind (.guard _ _) fun _ => .bind (Condition.keeps_deactivate feature id) fun _ => .pure _
  · exact .bind (.guard _ _) fun _ =>
      .bind (Condition.keeps_activate feature id _ _ _ _ _) fun _ => .pure _

/-- Before its block has come, a message counts in the test ecosystem only. -/
theorem test_of_permitted {m : Message} (allowed : permitted rules tx m = true)
    (early : ∀ entry ∈ rules.params.restrictions, entry.type = m.payload.messageType →
      entry.version = m.version → tx.block < entry.block) :
    Ecosystem.of m.payload.primaryProperty = some .test := by
  rcases ConsensusParams.permits_iff.mp allowed with
    ⟨entry, listed, type, version, inTest | reached⟩
  · exact inTest
  · exact absurd (early entry listed type version) (Nat.not_lt.mpr reached)

end Execute

namespace Engine

variable {rules : Rules} {journal : Journal}

/-- In every state that an engine passes through, a message on a property of one ecosystem leaves
the other as it is: balances, properties with their supplies, numbering, sales with their
contributions and offers.  A message on features changes nothing but the table of features.
Hence a message whose block has not come leaves the main ecosystem as it is. -/
theorem processTransaction_isolates (reached : journal.state.Reached rules) (block : Block)
    (position : Nat) (tx : Tx) {m : Message} (decoded : Message.decode tx.payload = .ok m) :
    (∀ ecosystem, Ecosystem.of m.payload.primaryProperty = some ecosystem →
      ∀ other, other ≠ ecosystem → journal.state.AgreesIn other
        (processTransaction rules block position tx journal).2.state) ∧
    ((∃ id, m.payload = .deactivate id) ∨
        (∃ id target version, m.payload = .activate id target version) →
      (processTransaction rules block position tx journal).2.state =
        { journal.state with
          features := (processTransaction rules block position tx journal).2.state.features }) ∧
    ((∀ entry ∈ rules.params.restrictions, entry.type = m.payload.messageType →
        entry.version = m.version → block.height < entry.block) →
      journal.state.AgreesIn .main
        (processTransaction rules block position tx journal).2.state) := by
  rcases processTransaction_outcome rules block position tx reached.sound.canonical with
    ⟨_, same⟩ | ⟨m', details, after, decoded', run, outcome⟩
  · rw [same]
    exact ⟨fun _ _ other _ => .refl _ other, fun _ => rfl, fun _ => .refl _ .main⟩
  · rw [decoded] at decoded'
    cases decoded'
    rw [outcome]
    have start : ∀ ecosystem,
        journal.state.Isolates ecosystem (Journal.start journal.state).state :=
      fun _ => ⟨reached.located, fun other _ => .refl _ other⟩
    refine ⟨fun ecosystem inside other elsewhere => ?_, fun control => ?_, fun early => ?_⟩
    · have isolates : (journal.state.isolating ecosystem).Keeps
          (Execute.message rules (contextOf block tx) m) :=
        .bind (.guard _ _) fun _ => Execute.payload_isolates rules _ m.payload inside
      exact ((isolates _ (start ecosystem)).of_ok run).2 other elsewhere
    · have switches : (Execute.switching journal.state).Keeps
          (Execute.message rules (contextOf block tx) m) :=
        .bind (.guard _ _) fun _ => Execute.payload_switches rules _ m.payload control
      have switched : after.state = { journal.state with features := after.state.features } :=
        (switches (.start journal.state) rfl).of_ok run
      exact switched
    · have isolates : (journal.state.isolating .test).Keeps
          (Execute.message rules (contextOf block tx) m) :=
        .guard_bind fun allowed => Execute.payload_isolates rules _ m.payload
          (Execute.test_of_permitted rules _ allowed early)
      exact ((isolates _ (start .test)).of_ok run).2 .main (by decide)

/-- A contribution to the sale that was opened just before it. -/
def contributing : Tx := ⟨"u", "b", some "a", Message.encode (Payload.simpleSend 1 2).toMessage⟩

/-- The journal of the block after the sale was opened. -/
def opened : Journal :=
  (processFrom Session.twoOwners State.Reached.selling 0
    (prelude State.Reached.selling (.start (Session.run Session.twoOwners []).engine.state)).2
    (State.Reached.selling.transactions.take 1)).2

theorem processTransaction_isolates_contributing :
    opened.state.Reached Session.twoOwners ∧
    Message.decode contributing.payload = .ok ⟨0, .simpleSend 1 2⟩ ∧
    (processTransaction Session.twoOwners State.Reached.selling 1 contributing
      opened).2.state.ledger.available "b" 3 = 2 ∧
    opened.state.AgreesIn .test
      (processTransaction Session.twoOwners State.Reached.selling 1 contributing
        opened).2.state := by
  have reached : opened.state.Reached Session.twoOwners := .amid [] State.Reached.selling _
  have decoded : Message.decode contributing.payload = .ok ⟨0, .simpleSend 1 2⟩ := by
    decide +kernel
  have isolated := processTransaction_isolates reached State.Reached.selling 1 contributing decoded
  exact ⟨reached, decoded, by decide +kernel, isolated.1 .main rfl .test (by decide)⟩

end Engine
end TokenOverlay
