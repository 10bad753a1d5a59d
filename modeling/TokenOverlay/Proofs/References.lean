import TokenOverlay.Proofs.Numbering
import TokenOverlay.Proofs.Offers
import TokenOverlay.Proofs.Replay
import TokenOverlay.Engine.Query

namespace TokenOverlay

/-!
References to properties.  Whatever names a property in a state that an engine
passes through names a registered one, so the questions that look properties up
along the way leave nothing out.

A balance that is kept is part of a supply, and an open offer is backed by such a
balance.  A receipt names what its distribution looked up, and properties are
only unregistered together with the block that registered them.
-/

open Attempt TokenOverlay.Action

/-! ## Balances and offers -/

namespace State.Sound

variable {s : State}

/-- An offer of which something is left is backed by a balance, so its property is registered. -/
theorem registered_of_offer (sound : s.Sound) (offering : s.orders.Offering) {seller : Address}
    {property : PropertyId} {offer : Offer}
    (found : s.orders.get? seller property = some offer) :
    s.registry.exists? property = true := by
  have reserve := OrderBook.reserved_eq_remaining sound found
  have positive := offering seller property offer found
  rw [Ledger.reserved, Ledger.balance_eq_read] at reserve
  cases read : Cells.read s.ledger.balances seller property with
  | none =>
      rw [read] at reserve
      change 0 = offer.amountRemaining at reserve
      omega
  | some b => exact sound.registered_of_read read

end State.Sound

/-! ## Receipts -/

/-- The properties that a receipt names. -/
def DistributionReceipt.properties (receipt : DistributionReceipt) : List PropertyId :=
  [receipt.propertyId, receipt.distributionProperty, receipt.feeProperty]

/-- Every receipt names registered properties only. -/
def State.Receipted (s : State) : Prop :=
  ∀ txid receipt, s.receipts.get? txid = some receipt →
    ∀ id ∈ receipt.properties, s.registry.exists? id = true

namespace Journal

/-- What keeps to edits that can be taken back extends the journal by such edits. -/
theorem Extends.does {α : Type} {first between : Journal} (run : first.Extends between)
    {action : Action α} (keeps : (first.reached "").Keeps action) :
    action.Does (fun _ after => first.Extends after) between :=
  (keeps between run).mono (fun _ _ extended => extended) fun _ _ _ => trivial

/-- Nothing that was registered is unregistered on the way. -/
theorem Extends.exists? {s : State} {after : Journal} (run : (start s).Extends after)
    (formed : s.Canonical) {id : PropertyId} (known : s.registry.exists? id = true) :
    after.state.registry.exists? id = true :=
  ((run.issues formed).registered id).mpr (Or.inl known)

end Journal

namespace Execute

variable (rules : Rules) (tx : TxContext)

/-- The receipt of a distribution is its last edit, and names what was looked up before. -/
theorem sendToOwners_receipt (property : PropertyId) (raw : UInt64)
    (distribution : Option PropertyId) {journal : Journal}
    (tokens : ∀ ecosystem : Ecosystem,
      journal.state.registry.exists? ecosystem.protocolToken = true) :
    (sendToOwners rules tx property raw distribution).Does
      (fun _ after => ∃ between receipt, journal.Extends between ∧
        after = between.record (.receipt receipt) ∧
        ∀ id ∈ receipt.properties, journal.state.registry.exists? id = true) journal := by
  refine .reading .state fun _ _ => .reading (.guard _ _) fun _ _ => ?_
  refine .reading (readsOnly_amountOf raw) fun amount _ => ?_
  refine .reading (Registry.readsOnly_lookup property) fun sent sentFound => ?_
  refine .reading (Registry.readsOnly_lookup _) fun owned ownedFound => ?_
  refine .reading .state fun s _ => .reading (.guard _ _) fun _ _ => ?_
  refine .reading (.guard _ _) fun _ _ => .reading (.guard _ _) fun _ _ => ?_
  have known : ∀ {id p}, Registry.lookup id journal = (.ok p, journal) →
      journal.state.registry.exists? id = true := by
    intro id p found
    exact Registry.exists?_iff_get?.mpr ⟨p, Registry.lookup_ok found⟩
  have unchanged : journal.Extends journal := .refl
  refine (unchanged.does
    (Condition.keeps_debit Journal.reached_balance _ _ _)).bind fun _ debited first => ?_
  refine (first.does (.forM fun recipient _ =>
    Condition.keeps_credit Journal.reached_balance _ _ _)).bind fun _ credited second => ?_
  refine (second.does (.ite
    (Condition.keeps_burn Journal.reached_balance Journal.reached_supply _ _ _)
    (.pure _))).bind fun _ settled third => ?_
  refine yields_bind.mpr (yields_edit.mpr ⟨settled, _, third, rfl, ?_⟩)
  simp only [DistributionReceipt.properties, List.mem_cons, List.not_mem_nil, or_false,
    forall_eq_or_imp, forall_eq]
  exact ⟨known sentFound, known ownedFound, tokens sent.ecosystem⟩

/-- An accepted message keeps the receipts there are, and adds at most one that names registered
properties. -/
theorem message_receipted {s : State} (formed : s.Canonical)
    (tokens : ∀ ecosystem : Ecosystem, s.registry.exists? ecosystem.protocolToken = true)
    (receipted : s.Receipted) (m : Message) :
    (message rules tx m).Does (fun _ after => after.state.Receipted) (.start s) := by
  refine .reading (.guard _ _) fun _ _ => ?_
  by_cases distributes : ∃ property raw distribution,
      m.payload = .sendToOwners property raw distribution
  · rcases distributes with ⟨property, raw, distribution, kind⟩
    rw [kind]
    refine (sendToOwners_receipt rules tx property raw distribution tokens).mono ?_
    rintro _ after ⟨between, receipt, run, rfl, named⟩ txid other found id member
    refine run.exists? formed ?_
    rw [Journal.record, State.get?_receipts_apply, run.receipts] at found
    split at found
    · cases found
      exact named id member
    · exact receipted txid other found id member
  · have undistributed : ∀ property raw distribution,
        m.payload ≠ .sendToOwners property raw distribution :=
      fun property raw distribution kind => distributes ⟨property, raw, distribution, kind⟩
    have edits := (Journal.reached_blocks (.start s) tx).payload rules undistributed
    refine Yields.mono (edits (.start s) .refl) ?_ fun _ _ _ => trivial
    intro _ after run txid receipt found id member
    rw [run.receipts] at found
    exact run.exists? formed (receipted txid receipt found id member)

end Execute

namespace Engine

/-- No engine keeps a receipt that names an unregistered property. -/
def receipting (rules : Rules) : Law rules where
  holds s := s.Trading ∧ s.Receipted
  genesis := by
    refine ⟨(trading rules).genesis, ?_⟩
    intro txid receipt found
    rw [receipts_genesisState] at found
    cases found
  prelude := by
    rintro block s sound ⟨orderly, receipted⟩
    refine ⟨(trading rules).prelude block s sound orderly, ?_⟩
    intro txid receipt found id member
    have run := prelude_extends block s
    rw [run.receipts] at found
    exact run.exists? sound.canonical (receipted txid receipt found id member)
  message := by
    rintro tx m s sound ⟨orderly, receipted⟩
    have tokens : ∀ ecosystem : Ecosystem,
        s.registry.exists? ecosystem.protocolToken = true := by
      intro ecosystem
      rcases orderly.registry.protocolToken ecosystem with ⟨token, found, _⟩
      exact Registry.exists?_iff_get?.mpr ⟨token, found⟩
    have traded := (trading rules).message tx m s sound orderly
    exact traded.and (Execute.message_receipted rules tx sound.canonical tokens receipted m)
      |>.mono (fun _ _ both => both) fun _ _ _ => trivial
  forget := by
    rintro s gone ⟨orderly, receipted⟩
    refine ⟨(trading rules).forget s gone orderly, ?_⟩
    intro txid receipt found id member
    rw [State.get?_receipts_forget] at found
    split at found
    · cases found
    · exact receipted txid receipt found id member

end Engine

/-! ## All references -/

/-- Whatever names a property names a registered one. -/
structure State.Resolved (s : State) : Prop where
  balances : ∀ address property b, Cells.read s.ledger.balances address property = some b →
    s.registry.exists? property = true
  offers : ∀ seller property offer, s.orders.get? seller property = some offer →
    offer.propertyId = property ∧ s.registry.exists? property = true
  sales : ∀ id sale, s.crowdsales.get? id = some sale → sale.propertyId = id ∧
    s.registry.exists? id = true ∧ s.registry.exists? sale.desiredProperty = true
  receipts : ∀ txid receipt, s.receipts.get? txid = some receipt →
    s.registry.exists? receipt.propertyId = true ∧
      s.registry.exists? receipt.distributionProperty = true ∧
      s.registry.exists? receipt.feeProperty = true

theorem State.Reached.resolved {rules : Rules} {s : State} (reached : s.Reached rules) :
    s.Resolved where
  balances := fun _ _ _ found => reached.sound.registered_of_read found
  offers := fun seller property offer found =>
    ⟨(reached.sound.keyed seller property offer found).2,
      reached.sound.registered_of_offer reached.offering found⟩
  sales := by
    intro id sale stored
    rcases reached.trading.sales id sale stored with ⟨sold, registered, keyed, payable, _⟩
    rcases Option.map_eq_some_iff.mp payable with ⟨desired, found, _⟩
    exact ⟨keyed, Registry.exists?_iff_get?.mpr ⟨sold, registered⟩,
      Registry.exists?_iff_get?.mpr ⟨desired, found⟩⟩
  receipts := by
    intro txid receipt found
    have named := ((Engine.receipting rules).of_reached reached).2.2 txid receipt found
    exact ⟨named _ (by simp [DistributionReceipt.properties]),
      named _ (by simp [DistributionReceipt.properties]),
      named _ (by simp [DistributionReceipt.properties])⟩

/-! ## Lists that look properties up -/

/-- A look-up that succeeds for every entry drops none: what can be told of the results is what
can be told of the entries. -/
theorem map_filterMap_of_found {α β γ : Type} {find : α → Option β} {tell : β → γ} {of : α → γ}
    {entries : List α}
    (found : ∀ entry ∈ entries, ∃ value, find entry = some value ∧ tell value = of entry) :
    (entries.filterMap find).map tell = entries.map of := by
  induction entries with
  | nil => rfl
  | cons entry rest ih =>
      rcases found entry List.mem_cons_self with ⟨value, here, same⟩
      have later := ih fun other member => found other (List.mem_cons_of_mem entry member)
      rw [List.filterMap_cons_some here, List.map_cons, List.map_cons, same, later]

/-- What an address holds is listed as it is kept. -/
theorem Ledger.mem_balancesOf {l : Ledger} {address : Address} {property : PropertyId}
    {b : Balance} :
    (property, b) ∈ l.balancesOf address ↔ Cells.read l.balances address property = some b := by
  unfold balancesOf Cells.read
  cases l.balances.get? address with
  | none => simp
  | some row => exact SortedMap.get?_eq_some_iff.symm

theorem Ledger.balancesOf_ascending (l : Ledger) (address : Address) :
    (l.balancesOf address).Pairwise fun a b => a.1 < b.1 := by
  unfold balancesOf
  cases l.balances.get? address with
  | none => exact List.Pairwise.nil
  | some row => exact row.ascending.imp compareOfLessAndEq_eq_lt.mp

/-- An address holds something of a property exactly if the list has it. -/
theorem Ledger.Canonical.ne_zero_iff {l : Ledger} (canonical : l.Canonical) {address : Address}
    {property : PropertyId} :
    l.balance address property ≠ Balance.zero ↔
      (property, l.balance address property) ∈ l.balancesOf address := by
  rw [mem_balancesOf, canonical.read_eq]
  by_cases nothing : l.balance address property = Balance.zero
  · simp [nothing]
  · simp [nothing]

namespace Engine

variable {e : Engine}

section Balances

variable (sound : e.state.Sound)

include sound

/-- Every balance that is kept comes with its property. -/
theorem map_balancesFor (address : Address) :
    (e.balancesFor address).map (fun entry => (entry.1.id, entry.2)) =
      e.state.ledger.balancesOf address := by
  refine Eq.trans (map_filterMap_of_found ?_) (List.map_id _)
  rintro ⟨id, b⟩ listed
  have registered := sound.registered_of_read (Ledger.mem_balancesOf.mp listed)
  rcases Registry.exists?_iff_get?.mp registered with ⟨p, found⟩
  refine ⟨(p, b), ?_, ?_⟩
  · change Option.map (fun property => (property, b)) (e.state.registry.get? id) = some (p, b)
    rw [found]
    rfl
  · rw [sound.canonical.registry.keyed id p found]
    rfl

theorem balancesFor_ascending (address : Address) :
    (e.balancesFor address).Pairwise fun a b => a.1.id < b.1.id := by
  have ascending := e.state.ledger.balancesOf_ascending address
  rw [← map_balancesFor sound, List.pairwise_map] at ascending
  exact ascending

/-- What the list says about a property is what asking for that property alone answers. -/
theorem propertyBalance?_of_mem {address : Address} {entry : Property × Balance}
    (listed : entry ∈ e.balancesFor address) :
    e.propertyBalance? address entry.1.id = some entry := by
  rcases List.mem_filterMap.mp listed with ⟨⟨id, b⟩, kept, here⟩
  rcases Option.map_eq_some_iff.mp here with ⟨p, found, rfl⟩
  have held := Ledger.mem_balancesOf.mp kept
  have named : p.id = id := sound.canonical.registry.keyed id p found
  change Option.map (fun property => (property, e.state.ledger.balance address p.id))
    (e.state.registry.get? p.id) = some (p, b)
  rw [named, found, Ledger.balance_eq_read, held]
  rfl

theorem balanceOf_ne_zero_iff (address : Address) (id : PropertyId) :
    e.balanceOf address id ≠ Balance.zero ↔
      ∃ entry ∈ e.balancesFor address, entry.1.id = id := by
  rw [balanceOf, sound.canonical.ledger.ne_zero_iff, ← map_balancesFor sound, List.mem_map]
  constructor
  · rintro ⟨entry, listed, same⟩
    exact ⟨entry, listed, congrArg Prod.fst same⟩
  · rintro ⟨entry, listed, rfl⟩
    have answer := propertyBalance?_of_mem sound listed
    rcases Option.map_eq_some_iff.mp answer with ⟨p, _, same⟩
    exact ⟨entry, listed, by rw [← congrArg Prod.snd same]⟩

end Balances

section Listings

variable (resolved : e.state.Resolved)

include resolved

/-- A sale that is kept is listed with the two properties it connects. -/
theorem listingOf?_of_found {id : PropertyId} {sale : Crowdsale}
    (stored : e.state.crowdsales.get? id = some sale) :
    ∃ listing, e.listingOf? id sale = some listing ∧
      listing.view = ⟨sale, e.state.crowdsales.participationsOf id⟩ := by
  rcases resolved.sales id sale stored with ⟨keyed, sold, desired⟩
  rw [← keyed] at sold
  rcases Registry.exists?_iff_get?.mp sold with ⟨property, foundProperty⟩
  rcases Registry.exists?_iff_get?.mp desired with ⟨other, foundOther⟩
  refine ⟨⟨⟨sale, e.state.crowdsales.participationsOf id⟩, property, other⟩, ?_, rfl⟩
  rw [listingOf?, foundProperty, foundOther]
  rfl

/-- A sale is listed exactly if it is known. -/
theorem map_crowdsaleListing? (id : PropertyId) :
    (e.crowdsaleListing? id).map CrowdsaleListing.view = e.crowdsaleInfo? id := by
  unfold crowdsaleListing? crowdsaleInfo?
  cases stored : e.state.crowdsales.get? id with
  | none => rfl
  | some sale =>
      rcases listingOf?_of_found resolved stored with ⟨listing, found, same⟩
      rw [Option.bind_some, found, Option.map_some, Option.map_some, same]

/-- Every sale that is open is listed, in the order of the sales. -/
theorem map_activeCrowdsaleListings :
    e.activeCrowdsaleListings.map CrowdsaleListing.view =
      e.activeCrowdsales.map fun sale =>
        ⟨sale, e.state.crowdsales.participationsOf sale.propertyId⟩ := by
  apply map_filterMap_of_found
  intro sale member
  rcases (CrowdsaleBook.mem_active_iff.mp member).1 with ⟨id, stored⟩
  have keyed := (resolved.sales id sale stored).1
  rw [keyed]
  exact listingOf?_of_found resolved stored

/-- A distribution is answered for with its divisibility exactly if it is known. -/
theorem map_distributionWithDivisibility? (txid : String) :
    (e.distributionWithDivisibility? txid).map Prod.fst = e.distributionInfo? txid := by
  unfold distributionWithDivisibility? distributionInfo?
  cases stored : e.state.receipts.get? txid with
  | none => rfl
  | some receipt =>
      have registered := (resolved.receipts txid receipt stored).1
      rcases Registry.exists?_iff_get?.mp registered with ⟨property, found⟩
      change Option.map Prod.fst ((e.state.registry.get? receipt.propertyId).bind
        fun property => some (receipt, property.divisible)) = some receipt
      rw [found]
      rfl

end Listings

end Engine

/-- After any calls, whatever names a property names a registered one, and the questions that look
properties up along the way leave nothing out. -/
theorem Session.run_resolves_references (rules : Rules) (calls : List Call) :
    let e := (run rules calls).engine
    e.state.Resolved ∧
      (∀ address,
        (e.balancesFor address).Pairwise (fun a b => a.1.id < b.1.id) ∧
        (∀ id, e.balanceOf address id ≠ Balance.zero ↔
          ∃ entry ∈ e.balancesFor address, entry.1.id = id) ∧
        ∀ entry ∈ e.balancesFor address,
          e.propertyBalance? address entry.1.id = some entry) ∧
      (∀ id, (e.crowdsaleListing? id).map Engine.CrowdsaleListing.view = e.crowdsaleInfo? id) ∧
      e.activeCrowdsaleListings.map Engine.CrowdsaleListing.view =
        e.activeCrowdsales.map (fun sale =>
          ⟨sale, e.state.crowdsales.participationsOf sale.propertyId⟩) ∧
      ∀ txid, (e.distributionWithDivisibility? txid).map Prod.fst = e.distributionInfo? txid := by
  intro e
  have reached : e.state.Reached rules := .idle calls
  have sound := reached.sound
  have resolved := reached.resolved
  refine ⟨resolved, ?_, Engine.map_crowdsaleListing? resolved,
    Engine.map_activeCrowdsaleListings resolved,
    Engine.map_distributionWithDivisibility? resolved⟩
  intro address
  exact ⟨Engine.balancesFor_ascending sound address, Engine.balanceOf_ne_zero_iff sound address,
    fun _ listed => Engine.propertyBalance?_of_mem sound listed⟩

end TokenOverlay
