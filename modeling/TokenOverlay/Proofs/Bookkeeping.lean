import TokenOverlay.Proofs.Balanced
import TokenOverlay.Proofs.Keeps

namespace TokenOverlay

/-!
Every message keeps the books.  The actions of the ledger put tokens on their
way or take them up again; the actions of the registry and of the order book,
and with them all messages, end with nothing on its way.  What a rejected
message leaves behind is taken back, so nothing is said about it here.
-/

open Attempt TokenOverlay.Action

/-- A state with the given books, reached by writing balances only. -/
structure State.Moved (s : State) (loose : PropertyId → Int)
    (unbacked : Address → PropertyId → Int) (after : State) : Prop where
  balanced : after.Balanced loose unbacked
  registry : after.registry = s.registry
  orders : after.orders = s.orders
  crowdsales : after.crowdsales = s.crowdsales

theorem State.Moved.trans {s between after : State} {loose loose' : PropertyId → Int}
    {unbacked unbacked' : Address → PropertyId → Int} (first : s.Moved loose unbacked between)
    (second : between.Moved loose' unbacked' after) : s.Moved loose' unbacked' after where
  balanced := second.balanced
  registry := second.registry.trans first.registry
  orders := second.orders.trans first.orders
  crowdsales := second.crowdsales.trans first.crowdsales

/-! ## The ledger -/

namespace Ledger

variable {journal : Journal} {loose : PropertyId → Int} {unbacked : Address → PropertyId → Int}
  {address : Address} {property : PropertyId} {amount : Int}

/-- A stored balance takes from what is on its way what it holds more. -/
theorem set_yields (address : Address) (property : PropertyId) (gained shifted : Int)
    (balanced : journal.state.Balanced loose unbacked)
    {available reserved : Int} (nonneg : 0 ≤ available ∧ 0 ≤ reserved)
    (gain : available + reserved = held (journal.state.ledger.balance address property) + gained)
    (shift : reserved = (journal.state.ledger.balance address property).reserved + shifted) :
    (set address property ⟨available, reserved⟩).Yields
      (fun _ after => journal.state.Moved (loose - Pi.single property gained)
        (unbacked + cell address property shifted) after.state)
      (fun _ _ => False) journal := by
  have gainedEq : gained = held ⟨available, reserved⟩ -
      held (journal.state.ledger.balance address property) := by
    change gained = available + reserved - _
    omega
  have shiftedEq : shifted =
      reserved - (journal.state.ledger.balance address property).reserved := by
    omega
  rw [gainedEq, shiftedEq, set, yields_bind, yields_state, yields_ite]
  constructor
  · intro same
    rw [yields_pure, same, Int.sub_self, Int.sub_self, Pi.single_zero, cell_zero,
      sub_zero, add_zero]
    exact ⟨balanced, rfl, rfl, rfl⟩
  · intro _
    rw [yields_edit]
    exact ⟨balanced.balance nonneg, rfl, rfl, rfl⟩

/-- What is credited is taken from what is on its way. -/
theorem credit_yields (balanced : journal.state.Balanced loose unbacked) (nonneg : 0 ≤ amount) :
    (credit address property amount).Yields
      (fun _ after => journal.state.Moved (loose - Pi.single property amount) unbacked after.state)
      (fun _ _ => ¬ Amount.Fits
        ((journal.state.ledger.balance address property).available + amount))
      journal := by
  have parts := balanced.balance_nonneg address property
  rw [credit, yields_bind, yields_state, yields_bind, yields_require]
  constructor
  · intro sum fitting
    rcases Amount.add?_eq_some.mp fitting with ⟨rfl, _⟩
    have stored := set_yields address property amount 0 balanced
      ⟨Int.add_nonneg parts.1 nonneg, parts.2⟩ (by simp only [held]; omega) (Int.add_zero _).symm
    rw [cell_zero, add_zero] at stored
    exact stored.mono (fun _ _ moved => moved) fun _ _ impossible => impossible.elim
  · intro overflow fits
    rw [Amount.add?_eq_some.mpr ⟨rfl, fits⟩] at overflow
    cases overflow

/-- What is debited is on its way. -/
theorem debit_yields (balanced : journal.state.Balanced loose unbacked) :
    (debit address property amount).Yields
      (fun _ after => journal.state.Moved (loose + Pi.single property amount) unbacked after.state)
      (fun _ _ => True) journal := by
  have parts := balanced.balance_nonneg address property
  rw [debit, yields_bind, yields_state, yields_bind, yields_guard]
  constructor
  · intro enough
    have stored := set_yields address property (-amount) 0 balanced
      ⟨Int.sub_nonneg_of_le enough, parts.2⟩ (by simp only [held]; omega) (Int.add_zero _).symm
    rw [cell_zero, add_zero, Pi.single_neg, sub_neg_eq_add] at stored
    exact stored.mono (fun _ _ moved => moved) fun _ _ impossible => impossible.elim
  · intro _
    trivial

theorem reserve_yields (balanced : journal.state.Balanced loose unbacked) (nonneg : 0 ≤ amount) :
    (reserve address property amount).Yields
      (fun _ after => journal.state.Moved loose (unbacked + cell address property amount)
        after.state)
      (fun _ _ => True) journal := by
  have parts := balanced.balance_nonneg address property
  rw [reserve, yields_bind, yields_state, yields_bind, yields_guard]
  constructor
  · intro enough
    rw [yields_bind, yields_require]
    constructor
    · intro sum fitting
      rcases Amount.add?_eq_some.mp fitting with ⟨rfl, _⟩
      have stored := set_yields address property 0 amount balanced
        ⟨Int.sub_nonneg_of_le enough, Int.add_nonneg parts.2 nonneg⟩
        (by simp only [held]; omega) rfl
      rw [Pi.single_zero, sub_zero] at stored
      exact stored.mono (fun _ _ moved => moved) fun _ _ impossible => impossible.elim
    · intro _
      trivial
  · intro _
    trivial

theorem unreserve_yields (balanced : journal.state.Balanced loose unbacked) (nonneg : 0 ≤ amount) :
    (unreserve address property amount).Yields
      (fun _ after => journal.state.Moved loose (unbacked + cell address property (-amount))
        after.state)
      (fun _ _ => True) journal := by
  have parts := balanced.balance_nonneg address property
  rw [unreserve, yields_bind, yields_state, yields_bind, yields_guard]
  constructor
  · intro enough
    rw [yields_bind, yields_require]
    constructor
    · intro sum fitting
      rcases Amount.add?_eq_some.mp fitting with ⟨rfl, _⟩
      have stored := set_yields address property 0 (-amount) balanced
        ⟨Int.add_nonneg parts.1 nonneg, Int.sub_nonneg_of_le enough⟩
        (by simp only [held]; omega) rfl
      rw [Pi.single_zero, sub_zero] at stored
      exact stored.mono (fun _ _ moved => moved) fun _ _ impossible => impossible.elim
    · intro _
      trivial
  · intro _
    trivial

theorem transferReserved_yields {target : Address}
    (balanced : journal.state.Balanced loose unbacked) (nonneg : 0 ≤ amount) :
    (transferReserved address target property amount).Yields
      (fun _ after => journal.state.Moved loose (unbacked + cell address property (-amount))
        after.state)
      (fun _ _ => True) journal := by
  have parts := balanced.balance_nonneg address property
  rw [transferReserved, yields_bind, yields_state, yields_bind, yields_guard]
  constructor
  · intro enough
    have released := set_yields address property (-amount) (-amount) balanced
      ⟨parts.1, Int.sub_nonneg_of_le enough⟩ (by simp only [held]; omega) rfl
    refine released.bind ?_ fun _ _ impossible => impossible.elim
    intro _ between moved
    refine (credit_yields moved.balanced nonneg).mono ?_ fun _ _ _ => trivial
    intro _ after credited
    rw [Pi.single_neg, sub_neg_eq_add, add_sub_cancel_right] at credited
    exact moved.trans credited
  · intro _
    trivial

end Ledger

/-! ## Actions that end with nothing on its way -/

/-- Accepted messages keep the books. -/
abbrev State.books : Condition := .ofState State.Sound

open State (books)

/-- Sales, contributions, features and receipts are not on the books. -/
theorem State.Sound.sale {s : State} (sound : s.Sound) (sale : Crowdsale) :
    (s.apply (.sale sale)).Sound :=
  sound.of_same (sound.canonical.apply (.sale sale) trivial) rfl rfl rfl

theorem State.Sound.participation {s : State} (sound : s.Sound) (property : PropertyId)
    (p : Participation) : (s.apply (.participation property p)).Sound :=
  sound.of_same (sound.canonical.apply (.participation property p) trivial) rfl rfl rfl

theorem State.Sound.feature {s : State} (sound : s.Sound) (id : FeatureId)
    (feature : Option Feature) : (s.apply (.feature id feature)).Sound :=
  sound.of_same (sound.canonical.apply (.feature id feature) trivial) rfl rfl rfl

theorem State.Sound.receipt {s : State} (sound : s.Sound) (receipt : DistributionReceipt) :
    (s.apply (.receipt receipt)).Sound :=
  sound.of_same (sound.canonical.apply_receipt receipt) rfl rfl rfl

/-! ## The registry -/

namespace Registry

theorem yields_lookup {id : PropertyId} {accepted : Property → Journal → Prop}
    {failed : Rejection → Journal → Prop} {journal : Journal} :
    (lookup id).Yields accepted failed journal ↔
      (∀ p, journal.state.registry.get? id = some p → accepted p journal) ∧
        (journal.state.registry.get? id = none → failed (.unknownProperty id) journal) := by
  rw [lookup, yields_bind, yields_state, yields_require]

/-- A refused mint has not touched anything: when the supply fits so does every balance. -/
theorem mint_yields (recipient : Address) (id : PropertyId) (amount : Int) {journal : Journal}
    (sound : journal.state.Sound) :
    (mint recipient id amount).Yields (fun _ after => after.state.Sound)
      (fun _ after => after = journal) journal := by
  rw [mint, yields_bind, yields_guard]
  refine ⟨fun positive => ?_, fun _ => rfl⟩
  rw [yields_bind, yields_lookup]
  refine ⟨fun p registered => ?_, fun _ => rfl⟩
  rw [yields_bind, yields_require]
  refine ⟨fun total fitting => ?_, fun _ => rfl⟩
  rcases Amount.add?_eq_some.mp fitting with ⟨rfl, fits⟩
  rw [yields_bind, yields_edit]
  have funded : (journal.record (.supply id (p.totalTokens + amount))).state.Balanced _ _ :=
    sound.changeSupply (p.totalTokens + amount) registered
  refine (Ledger.credit_yields funded (Int.le_of_lt positive)).mono ?_ ?_
  · intro _ after credited
    have balanced := credited.balanced
    rw [add_sub_cancel_left, add_sub_cancel_right] at balanced
    exact balanced
  · intro _ after overflow
    have bound := sound.available_le_supply recipient id
    have part := (sound.balance_nonneg recipient id).1
    have supply : journal.state.registry.supplyOf id = p.totalTokens := by
      simp [supplyOf, registered]
    refine absurd ?_ overflow
    change Amount.Fits ((journal.state.ledger.balance recipient id).available + amount)
    rw [Pi.zero_apply] at bound
    unfold Amount.Fits Amount.least at fits ⊢
    omega

theorem mint_keeps (recipient : Address) (id : PropertyId) (amount : Int) :
    books.Keeps (mint recipient id amount) := by
  intro journal sound
  exact (mint_yields recipient id amount sound).mono (fun _ _ held => held) fun _ _ _ => trivial

theorem burn_keeps (holder : Address) (id : PropertyId) (amount : Int) :
    books.Keeps (burn holder id amount) := by
  refine .bind (.guard _ _) fun _ => ?_
  intro journal sound
  rw [yields_bind, yields_lookup]
  refine ⟨fun p registered => ?_, fun _ => trivial⟩
  refine (Ledger.debit_yields sound).bind ?_ fun _ _ _ => trivial
  intro _ between debited
  rw [yields_edit]
  have stillRegistered : between.state.registry.get? id = some p := by
    rw [debited.registry]
    exact registered
  have burnt := debited.balanced.changeSupply (p.totalTokens - amount) stillRegistered
  rw [add_assoc, ← Pi.single_add, sub_sub_cancel_left, add_neg_cancel, Pi.single_zero,
    add_zero] at burnt
  exact burnt

/-- The new property comes without tokens, and its first tokens are minted. -/
theorem issue_keeps (request : IssueRequest) : books.Keeps (issue request) :=
  Condition.keeps_issue request
    (fun _ _ sound follows => State.Balanced.register sound ⟨rfl, follows⟩ rfl) mint_keeps

end Registry

/-! ## The order book -/

namespace OrderBook

variable {seller : Address} {property : PropertyId}

theorem yields_existing {accepted : Offer → Journal → Prop} {failed : Rejection → Journal → Prop}
    {journal : Journal} :
    (existing seller property).Yields accepted failed journal ↔
      (∀ offer, journal.state.orders.get? seller property = some offer →
          accepted offer journal) ∧
        (journal.state.orders.get? seller property = none → failed .noActiveOffer journal) := by
  rw [existing, yields_bind, yields_state, yields_require]

/-- An open offer offers no less than nothing, because that much is reserved. -/
theorem remaining_nonneg {s : State} (sound : s.Sound) {offer : Offer}
    (found : s.orders.get? seller property = some offer) : 0 ≤ offer.amountRemaining := by
  have reserve := sound.escrow seller property
  have part := (sound.nonneg seller property).2
  rw [found, remaining_some, Pi.zero_apply, Pi.zero_apply, Int.add_zero] at reserve
  omega

/-- An offer written last settles the reserve that was moved for it. -/
theorem settled {s after : State} {shift : Int} {next : Option Offer}
    (moved : s.Moved 0 (0 + cell seller property shift) after)
    (left : remaining next = remaining (s.orders.get? seller property) + shift)
    (keyed : ∀ o, next = some o → o.seller = seller ∧ o.propertyId = property) :
    (after.apply (.offer seller property next)).Sound := by
  have written := moved.balanced.offer keyed
  have nothing : shift + (remaining (after.orders.get? seller property) - remaining next) = 0 := by
    rw [left, moved.orders]
    omega
  rw [add_assoc, cell_add, nothing, cell_zero, add_zero] at written
  exact written

theorem keyed_ofTerms (terms : OfferTerms) :
    ∀ o, some (Offer.ofTerms seller property terms) = some o →
      o.seller = seller ∧ o.propertyId = property := by
  rintro _ ⟨rfl⟩
  exact ⟨rfl, rfl⟩

theorem keyed_none : ∀ o : Offer, none = some o → o.seller = seller ∧ o.propertyId = property := by
  intro _ impossible
  cases impossible

theorem create_keeps {terms : OfferTerms} (nonneg : 0 ≤ terms.amount) :
    books.Keeps (create seller property terms) := by
  intro journal sound
  rw [create, yields_bind, yields_state, yields_bind, yields_guard]
  refine ⟨fun vacant => ?_, fun _ => trivial⟩
  refine (Ledger.reserve_yields sound nonneg).bind ?_ fun _ _ _ => trivial
  intro _ between reserving
  rw [yields_edit]
  refine settled reserving ?_ (keyed_ofTerms terms)
  rw [Option.isNone_iff_eq_none.mp vacant, remaining_none, remaining_some, Int.zero_add]
  rfl

theorem update_keeps {terms : OfferTerms} (nonneg : 0 ≤ terms.amount) :
    books.Keeps (update seller property terms) := by
  intro journal sound
  rw [update, yields_bind, yields_existing]
  refine ⟨fun offer found => ?_, fun _ => trivial⟩
  rcases sound.keyed seller property offer found with ⟨rfl, rfl⟩
  refine (Ledger.unreserve_yields sound (remaining_nonneg sound found)).bind ?_ fun _ _ _ => trivial
  intro _ released releasing
  refine (Ledger.reserve_yields releasing.balanced nonneg).bind ?_ fun _ _ _ => trivial
  intro _ between reserving
  rw [yields_edit]
  have moved := releasing.trans reserving
  rw [add_assoc, cell_add] at moved
  refine settled moved ?_ (keyed_ofTerms terms)
  rw [found, remaining_some, remaining_some, Int.add_neg_cancel_left]
  rfl

theorem cancel_keeps : books.Keeps (cancel seller property) := by
  intro journal sound
  rw [cancel, yields_bind, yields_existing]
  refine ⟨fun offer found => ?_, fun _ => trivial⟩
  refine (Ledger.unreserve_yields sound (remaining_nonneg sound found)).bind ?_ fun _ _ _ => trivial
  intro _ between releasing
  rw [yields_edit]
  refine settled releasing ?_ keyed_none
  rw [found, remaining_some, remaining_none, Int.add_right_neg]

theorem accept_keeps {buyer : Address} {amount : Int} (nonneg : 0 ≤ amount) :
    books.Keeps (accept buyer seller property amount) := by
  refine .bind (.guard _ _) fun _ => ?_
  intro journal sound
  rw [yields_bind, yields_existing]
  refine ⟨fun offer found => ?_, fun _ => trivial⟩
  rcases sound.keyed seller property offer found with ⟨rfl, rfl⟩
  rw [yields_bind, yields_guard]
  refine ⟨fun _ => ?_, fun _ => trivial⟩
  refine (Ledger.transferReserved_yields sound nonneg).bind ?_ fun _ _ _ => trivial
  intro _ between handing
  rw [yields_ite]
  constructor
  · intro exhausted
    rw [yields_bind, yields_edit, yields_pure]
    refine settled handing ?_ keyed_none
    rw [found, remaining_some, remaining_none]
    exact exhausted.symm
  · intro _
    rw [yields_bind, yields_edit, yields_pure]
    refine settled handing ?_ ?_
    · rw [found, remaining_some, remaining_some]
      rfl
    · rintro _ ⟨rfl⟩
      exact ⟨rfl, rfl⟩

end OrderBook

/-! ## Messages -/

namespace Ledger

/-- Moving spendable tokens leaves nothing on its way. -/
theorem transfer_keeps (source target : Address) (property : PropertyId) {amount : Int}
    (nonneg : 0 ≤ amount) :
    books.Keeps (do
      debit source property amount
      credit target property amount) := by
  intro journal sound
  refine (debit_yields sound).bind ?_ fun _ _ _ => trivial
  intro _ between debited
  refine (credit_yields debited.balanced nonneg).mono ?_ fun _ _ _ => trivial
  intro _ after credited
  have balanced := credited.balanced
  rw [add_sub_cancel_right] at balanced
  exact balanced

/-- Crediting the recipients takes up exactly what was handed out to them. -/
theorem creditAll_yields {property : PropertyId} {recipients : List Recipient} {journal : Journal}
    (positive : ∀ r ∈ recipients, 0 < r.amount)
    (balanced : journal.state.Balanced
      (Pi.single property (Amount.total (recipients.map Recipient.amount))) 0) :
    (Execute.creditAll property recipients).Yields (fun _ after => after.state.Sound)
      (fun _ _ => True) journal := by
  induction recipients generalizing journal with
  | nil =>
      rw [List.map_nil, Amount.total_nil, Pi.single_zero] at balanced
      exact balanced
  | cons recipient rest ih =>
      have first := positive recipient List.mem_cons_self
      change (credit recipient.address property recipient.amount >>= fun _ =>
        Execute.creditAll property rest).Yields _ _ _
      refine (credit_yields balanced (Int.le_of_lt first)).bind ?_ fun _ _ _ => trivial
      intro _ between credited
      apply ih fun other member => positive other (List.mem_cons_of_mem recipient member)
      have left := credited.balanced
      rw [List.map_cons, Amount.total_cons, ← Pi.single_sub, add_sub_cancel_left] at left
      exact left

theorem distribute_keeps (source : Address) (property : PropertyId) (recipients : List Recipient)
    (positive : ∀ r ∈ recipients, 0 < r.amount) :
    books.Keeps (do
      debit source property (Amount.total (recipients.map Recipient.amount))
      Execute.creditAll property recipients) := by
  intro journal sound
  refine (debit_yields sound).bind ?_ fun _ _ _ => trivial
  intro _ between debited
  have handedOut := debited.balanced
  rw [zero_add] at handedOut
  exact creditAll_yields positive handedOut

end Ledger

theorem State.books_blocks (tx : TxContext) : books.Blocks tx := by
  have sale : ∀ next, books.Keeps (Action.edit (.sale next)) := fun next _ sound => sound.sale next
  have participation : ∀ property p, books.Keeps (Action.edit (.participation property p)) :=
    fun property p _ sound => sound.participation property p
  have feature : ∀ id next, books.Keeps (Action.edit (.feature id next)) :=
    fun id next _ sound => sound.feature id next
  exact {
    mint := Registry.mint_keeps
    burn := Registry.burn_keeps tx.sender
    issue := fun request _ => Registry.issue_keeps request
    transfer := fun target property _ positive =>
      Ledger.transfer_keeps tx.sender target property (Int.le_of_lt positive)
    distribute := by
      rintro property _ recipients positive rfl
      exact Ledger.distribute_keeps tx.sender property recipients positive
    createOffer := fun _ _ positive => OrderBook.create_keeps (Int.le_of_lt positive)
    updateOffer := fun _ _ positive => OrderBook.update_keeps (Int.le_of_lt positive)
    cancelOffer := fun _ => OrderBook.cancel_keeps
    acceptOffer := fun _ _ _ positive => OrderBook.accept_keeps (Int.le_of_lt positive)
    createSale := fun opened _ => Condition.keeps_createSale sale opened
    closeSale := fun property => Condition.keeps_closeSale sale _ property _ _
    purchase := Condition.keeps_purchase sale participation
    activate := fun id target version window =>
      Condition.keeps_activate feature id target version _ window _
    deactivate := Condition.keeps_deactivate feature
    receipt := fun receipt _ _ sound => sound.receipt receipt }

/-- Every accepted message keeps the books. -/
theorem Execute.message_keeps_books (rules : Rules) (tx : TxContext) (m : Message)
    {journal : Journal} (sound : journal.state.Sound) :
    (Execute.message rules tx m).Yields (fun _ after => after.state.Sound) (fun _ _ => True)
      journal :=
  (State.books_blocks tx).message rules m journal sound

theorem Engine.prelude_keeps_books (block : Block) :
    (Condition.throughout State.Sound).Keeps (Engine.prelude block) := by
  refine Condition.keeps_prelude ?_ ?_ block
  · exact fun next _ sound => sound.sale next
  · exact fun id next _ sound => sound.feature id next

end TokenOverlay
