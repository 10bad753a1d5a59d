import TokenOverlay.Proofs.Payments

namespace TokenOverlay

/-!
What an accepted message does to the registry, the sales and the features.  Most
kinds leave all three alone, as they move tokens or change offers only; the
others are listed here one by one, each with what it writes and with what it has
checked by then.  Whatever is to be said about supplies, sales or features over
time is read off this list.
-/

open Attempt TokenOverlay.Action

/-! ## States that differ in some tables only -/

/-- The supply of one property is more by an amount, which may be negative; the rest of the
registry, the sales and the features are the same. -/
structure State.Resupplied (s : State) (id : PropertyId) (amount : Int) (after : State) : Prop where
  grown : s.registry.Grown id amount after.registry
  crowdsales : after.crowdsales = s.crowdsales
  features : after.features = s.features

/-- A property has been registered under a number that was free. -/
structure State.Gains (s : State) (p : Property) (after : State) : Prop where
  free : s.registry.get? p.id = none
  registered : after.registry.get? p.id = some p
  others : ∀ other, other ≠ p.id → after.registry.get? other = s.registry.get? other
  features : after.features = s.features

namespace State

variable {s between after : State} {id : PropertyId} {amount later : Int}

namespace Resupplied

theorem of_aside (aside : s.Aside after) (id : PropertyId) : s.Resupplied id 0 after where
  grown := aside.registry ▸ Registry.Grown.refl s.registry id
  crowdsales := aside.crowdsales
  features := aside.features

theorem after_aside (aside : s.Aside between) (supplied : between.Resupplied id amount after) :
    s.Resupplied id amount after where
  grown := aside.registry ▸ supplied.grown
  crowdsales := supplied.crowdsales.trans aside.crowdsales
  features := supplied.features.trans aside.features

theorem before_aside (supplied : s.Resupplied id amount between) (aside : between.Aside after) :
    s.Resupplied id amount after where
  grown := aside.registry ▸ supplied.grown
  crowdsales := aside.crowdsales.trans supplied.crowdsales
  features := aside.features.trans supplied.features

end Resupplied

theorem Posted.resupplied {change : Address → PropertyId → Int}
    (posted : s.Posted change id amount after) : s.Resupplied id amount after where
  grown := posted.supply
  crowdsales := posted.crowdsales
  features := by rw [posted.others]

/-- A new property gets its first tokens. -/
theorem Gains.supplied {p : Property} (gains : s.Gains p between)
    (first : between.Resupplied p.id amount after) :
    s.Gains { p with totalTokens := p.totalTokens + amount } after where
  free := gains.free
  registered := first.grown.get?_self gains.registered
  others := fun other different =>
    (first.grown.get?_of_ne different).trans (gains.others other different)
  features := first.features.trans gains.features

end State

/-! ## Supplies -/

namespace Registry

variable {journal : Journal} {id : PropertyId} {amount : Int}

theorem mint_does (recipient : Address) :
    (mint recipient id amount).Does
      (fun _ after => journal.state.Resupplied id amount after.state) journal :=
  (mint_posts id amount recipient).mono fun _ _ posted => posted.resupplied

theorem burn_does (holder : Address) :
    (burn holder id amount).Does
      (fun _ after => journal.state.Resupplied id (-amount) after.state) journal :=
  (burn_posts id amount holder).mono fun _ _ posted => posted.resupplied

/-- A property is registered under the next number of its ecosystem, with its first tokens. -/
theorem issue_does (numbered : journal.state.registry.Numbered) (request : IssueRequest) :
    (issue request).Does
      (fun id after => after.state.crowdsales = journal.state.crowdsales ∧
        journal.state.Gains { request.property id with totalTokens := request.initialAmount }
          after.state) journal := by
  refine .reading (.guard _ _) fun _ inRange => .reading .state fun s read => ?_
  cases read
  dsimp only
  split
  · trivial
  · next next follows =>
      have admits : journal.state.registry.Admits
          (request.property (journal.state.registry.nextId request.ecosystem)) next :=
        ⟨rfl, follows⟩
      have free := numbered.free_of_admits admits
      have found := journal.state.registry.get?_added
        (request.property (journal.state.registry.nextId request.ecosystem)) next
      generalize journal.state.registry.nextId request.ecosystem = id at free found
      have gains : journal.state.Gains (request.property id)
          (journal.record (.register (request.property id) next)).state :=
        { free
          registered := (found id).trans (if_pos rfl)
          others := fun other different => (found other).trans (if_neg different)
          features := rfl }
      refine yields_bind.mpr (yields_edit.mpr (yields_ite.mpr ⟨fun _ => ?_, fun none => ?_⟩))
      · refine (mint_does request.issuer).bind fun _ after minted => ?_
        have supplied := gains.supplied minted
        rw [show (request.property id).totalTokens + request.initialAmount =
          request.initialAmount from Int.zero_add _] at supplied
        exact ⟨minted.crowdsales, supplied⟩
      · have nothing : request.initialAmount = 0 := by
          have nonneg := (guard_ok inRange).1
          omega
        rw [nothing]
        exact ⟨rfl, gains⟩

end Registry

/-! ## Purchases -/

/-- A payment to the issuer of a running sale, by someone else and in the property that the sale
asks for, has bought what it is worth. -/
structure State.Sells (s : State) (rules : Rules) (tx : TxContext) (property : PropertyId)
    (raw : UInt64) (details : TxDetails) (after : State) (sale : Crowdsale) (sold : Property)
    (quote : Quote) (p : Participation) : Prop where
  stored : s.crowdsales.get? sale.propertyId = some sale
  active : sale.active = true
  desired : sale.desiredProperty = property
  recipient : tx.reference = some sale.issuer
  other : tx.sender ≠ sale.issuer
  registered : s.registry.get? sale.propertyId = some sold
  quoted : quote =
    (Execute.contributionOf rules tx s sale property raw.toNat sold).quote
  worth : p.participantTokens = quote.participantTokens ∧ p.issuerTokens = quote.issuerTokens
  nonneg : 0 ≤ quote.participantTokens ∧ 0 ≤ quote.issuerTokens
  reported : details.purchase =
    some ⟨sale.propertyId, quote.participantTokens, quote.issuerTokens⟩
  grown : s.registry.Grown sale.propertyId (quote.participantTokens + quote.issuerTokens)
    after.registry
  book : after.crowdsales = (s.crowdsales.withSale sale.propertyId
    (some (sale.accounting p quote.reachedCap))).addParticipation sale.propertyId p
  features : after.features = s.features

/-- A payment that has bought something is a sale of what it is worth. -/
theorem State.Bought.sells {s after : State} {rules : Rules} {tx : TxContext} {recipient : Address}
    {property : PropertyId} {raw : UInt64} {sale : Crowdsale} {quote : Quote}
    (bought : s.Bought tx property raw.toNat sale quote after) (trading : s.Trading)
    (named : tx.reference = some recipient)
    (buys : Execute.Buys rules tx s recipient property raw.toNat sale quote) :
    ∃ sold, s.Sells rules tx property raw { TxDetails.none with
        purchase := some ⟨sale.propertyId, quote.participantTokens, quote.issuerTokens⟩ }
      after sale sold quote (Execute.participationOf tx raw.toNat quote) := by
  rcases buys.quoted with ⟨sold, registered, quoted⟩
  have agrees := trading.agrees buys.stored registered
  have bounds := (Execute.contributionOf rules tx s sale property raw.toNat sold).quote_bounds
    agrees.total_nonneg (trading.total_le registered)
  rw [← quoted] at bounds
  have features := congrArg State.features bought.posted.others
  exact ⟨sold, {
    stored := buys.stored
    active := buys.active
    desired := buys.desired
    recipient := by rw [named, buys.issuer]
    other := by
      rw [buys.issuer]
      exact buys.other
    registered, quoted
    worth := ⟨rfl, rfl⟩
    nonneg := ⟨bounds.1, bounds.2.1⟩
    reported := rfl
    grown := bought.posted.supply
    book := bought.book
    features }⟩

namespace Execute

variable {journal : Journal}

/-! ## The list -/

/-- What an accepted message does to the registry, the sales and the features, by its kind. -/
def Deed (rules : Rules) (tx : TxContext) (s : State) (details : TxDetails) (after : State) :
    Payload → Prop
  | .simpleSend property raw => s.Aside after ∨
      ∃ sale sold quote p, s.Sells rules tx property raw details after sale sold quote p
  | .sendToOwners property _ _ => ∃ sent fee, s.registry.get? property = some sent ∧
      details.distributionFee = some fee ∧
      s.Resupplied sent.ecosystem.protocolToken (-max 0 fee) after
  | .sendAll _ => s.Aside after
  | .sellOffer .. => s.Aside after
  | .acceptOffer .. => s.Aside after
  | .issueFixed _ raw => ∃ p : Property, p.kind = .fixed ∧ p.totalTokens = raw.toNat ∧
      after.crowdsales = s.crowdsales ∧ s.Gains p after
  | .issueManaged _ => ∃ p : Property, p.kind = .managed ∧ p.totalTokens = 0 ∧
      after.crowdsales = s.crowdsales ∧ s.Gains p after
  | .issueCrowdsale .. => ∃ (p : Property) (sale : Crowdsale), p.kind = .crowdsale ∧
      p.totalTokens = 0 ∧ s.Gains p after ∧ sale.propertyId = p.id ∧ sale.active = true ∧
      sale.issuer = tx.sender ∧
      tx.blockTime ≤ sale.deadline ∧ after.crowdsales = s.crowdsales.withSale p.id (some sale)
  | .closeCrowdsale id => ∃ sale, s.crowdsales.get? id = some sale ∧ sale.issuer = tx.sender ∧
      sale.active = true ∧ after = s.apply (.sale { sale with
        active := false, closeTxid := some tx.txid, closeBlock := some tx.block })
  | .grant id raw _ => ∃ p, s.registry.get? id = some p ∧ p.kind = .managed ∧
      p.issuer = tx.sender ∧ s.Resupplied id raw.toNat after
  | .revoke id raw _ => ∃ p, s.registry.get? id = some p ∧ p.kind = .managed ∧
      p.issuer = tx.sender ∧ s.Resupplied id (-raw.toNat) after
  | .deactivate id => rules.config.authorizes tx.sender = true ∧
      after = s.apply (.feature id none)
  | .activate id target version => rules.config.authorizes tx.sender = true ∧
      rules.params.graceWindow.admits tx.block target.toNat = true ∧
      if s.features.isActive id then after = s
      else ∃ name, after = s.apply (.feature id (some {
        featureId := id
        name
        activationBlock := target.toNat
        minClientVersion := version
        completed := false
        txid := tx.txid }))

section

variable (rules : Rules) (tx : TxContext)

theorem simpleSend_does (trading : journal.state.Trading) (property : PropertyId) (raw : UInt64) :
    (simpleSend rules tx property raw).Does
      (fun details after => Deed rules tx journal.state details after.state
        (.simpleSend property raw)) journal := by
  refine (simpleSend_posts rules tx trading property raw).mono ?_
  rintro details after ⟨recipient, named, ⟨sale, quote, buys, rfl, bought⟩ | ⟨_, _, moved, aside⟩⟩
  · rcases bought.sells trading named buys with ⟨sold, sells⟩
    exact Or.inr ⟨sale, sold, quote, _, sells⟩
  · exact Or.inl aside

theorem sendToOwners_does (property : PropertyId) (raw : UInt64)
    (distribution : Option PropertyId) :
    (sendToOwners rules tx property raw distribution).Does
      (fun details after => Deed rules tx journal.state details after.state
        (.sendToOwners property raw distribution)) journal := by
  refine .reading .state fun _ _ => .reading (.guard _ _) fun _ _ => ?_
  refine .reading (readsOnly_amountOf raw) fun amount _ => ?_
  refine .reading (Registry.readsOnly_lookup property) fun sent found => ?_
  refine .reading (Registry.readsOnly_lookup _) fun _ _ => .reading .state fun s _ => ?_
  refine .reading (.guard _ _) fun _ _ => .reading (.guard _ _) fun _ _ => ?_
  refine .reading (.guard _ _) fun _ _ => ?_
  refine (Does.aside (State.debit_aside tx.sender property amount)).bind fun _ debited first => ?_
  refine (Does.aside (.forM fun recipient _ => State.credit_aside _ _ _)).bind
    fun _ credited second => ?_
  have moved := first.trans second
  -- A fee of nothing is not burnt, which leaves the supply as it was.
  have burnt : ∀ fee, (burnFee tx.sender sent.ecosystem.protocolToken fee).Does
      (fun _ after => credited.state.Resupplied sent.ecosystem.protocolToken (-max 0 fee)
        after.state) credited := by
    intro fee
    refine yields_ite.mpr ⟨fun positive => ?_, fun notPositive => ?_⟩
    · rw [max_eq_right (Int.le_of_lt positive)]
      exact Registry.burn_does tx.sender
    · rw [max_eq_left (Int.not_lt.mp notPositive)]
      exact .of_aside (.refl _) _
  refine (burnt _).bind fun _ paid fee => ?_
  refine yields_bind.mpr (yields_edit.mpr ?_)
  have settled := State.Resupplied.after_aside moved fee
  exact ⟨sent, _, Registry.lookup_ok found, rfl, settled.before_aside ⟨rfl, rfl, rfl⟩⟩

theorem sendAll_does (byte : UInt8) :
    (sendAll tx byte).Does
      (fun details after => Deed rules tx journal.state details after.state (.sendAll byte))
      journal := by
  refine .aside ?_
  refine .bind (.require _ _) fun _ => .bind (.require _ _) fun _ => .bind .state fun _ => ?_
  refine .bind (.guard _ _) fun _ => .bind (.forM fun move _ => ?_) fun _ => .pure _
  exact .bind (State.debit_aside _ _ _) fun _ => State.credit_aside _ _ _

theorem sellOffer_does (property : PropertyId) (amount desired : UInt64) (timeLimit : UInt8)
    (minFee : UInt64) (action : OfferAction) :
    (sellOffer tx property amount desired timeLimit minFee action).Does
      (fun details after => Deed rules tx journal.state details after.state
        (.sellOffer property amount desired timeLimit minFee action)) journal := by
  refine .aside (Condition.keeps_sellOffer (fun _ _ => ?_) (fun _ _ => ?_) ?_ amount desired
    timeLimit minFee action)
  · exact Condition.keeps_createOffer State.aside_balance (State.aside_offer _ _ _)
  · exact Condition.keeps_updateOffer State.aside_balance fun _ _ => State.aside_offer _ _ _
  · exact Condition.keeps_cancelOffer State.aside_balance (State.aside_offer _ _ _)

theorem acceptOffer_does (property : PropertyId) (raw : UInt64) :
    (acceptOffer tx property raw).Does
      (fun details after => Deed rules tx journal.state details after.state
        (.acceptOffer property raw)) journal := by
  refine .aside (Condition.keeps_acceptOffer (fun _ _ _ _ => ?_) raw)
  exact Condition.keeps_takeOffer State.aside_balance (State.aside_offer _ _ _)
    fun _ _ _ => State.aside_offer _ _ _

theorem issueFixed_does (numbered : journal.state.registry.Numbered) (issuance : Issuance)
    (raw : UInt64) :
    (issueFixed tx issuance raw).Does
      (fun details after => Deed rules tx journal.state details after.state
        (.issueFixed issuance raw)) journal := by
  refine .reading (readsOnly_checkIssuance issuance) fun _ _ => ?_
  refine .reading (readsOnly_amountOf raw) fun amount read => ?_
  refine (Registry.issue_does numbered _).bind fun id after issued => ?_
  exact ⟨_, rfl, (amountOf_ok read).1, issued⟩

theorem issueManaged_does (numbered : journal.state.registry.Numbered) (issuance : Issuance) :
    (issueManaged tx issuance).Does
      (fun details after => Deed rules tx journal.state details after.state
        (.issueManaged issuance)) journal := by
  refine .reading (readsOnly_checkIssuance issuance) fun _ _ => ?_
  exact (Registry.issue_does numbered _).bind fun id after issued => ⟨_, rfl, rfl, issued⟩

theorem issueCrowdsale_does (numbered : journal.state.registry.Numbered) (issuance : Issuance)
    (desired : PropertyId) (rate rawDeadline : UInt64) (earlyBonus issuerPercent : UInt8) :
    (issueCrowdsale tx issuance desired rate rawDeadline earlyBonus issuerPercent).Does
      (fun details after => Deed rules tx journal.state details after.state
        (.issueCrowdsale issuance desired rate rawDeadline earlyBonus issuerPercent)) journal := by
  refine .reading (readsOnly_checkIssuance issuance) fun _ _ => ?_
  refine .reading (Registry.readsOnly_lookup desired) fun _ _ => .reading (.guard _ _) fun _ _ => ?_
  refine .reading (readsOnly_amountOf rate) fun tokensPerUnit _ => ?_
  refine .reading (.guard _ _) fun _ early => .reading .state fun _ _ => ?_
  refine .reading (.guard _ _) fun _ _ => ?_
  refine (Registry.issue_does numbered _).bind ?_
  rintro id between ⟨crowdsales, gains⟩
  rw [CrowdsaleBook.create, bind_assoc]
  refine .reading .state fun _ _ => ?_
  rw [bind_assoc]
  refine .reading (.guard _ _) fun _ _ => yields_bind.mpr (yields_edit.mpr ?_)
  refine ⟨_, _, rfl, rfl, { gains with }, ?_, ?_, ?_, ?_,
    congrArg (fun book : CrowdsaleBook => book.withSale id (some _)) crowdsales⟩
  · rfl
  · rfl
  · rfl
  · exact guard_ok early

theorem closeCrowdsale_does (property : PropertyId) :
    (closeCrowdsale tx property).Does
      (fun details after => Deed rules tx journal.state details after.state
        (.closeCrowdsale property)) journal := by
  refine .reading (Registry.readsOnly_lookup property) fun _ _ => ?_
  rw [CrowdsaleBook.close, bind_assoc]
  refine .reading .state fun s read => ?_
  cases read
  rw [bind_assoc]
  refine .reading (.require _ _) fun sale stored => ?_
  rw [bind_assoc]
  refine .reading (.guard _ _) fun _ own => ?_
  rw [bind_assoc]
  refine .reading (.guard _ _) fun _ running => ?_
  exact ⟨sale, require_ok stored, guard_ok own, guard_ok running, rfl⟩

theorem grant_does (property : PropertyId) (raw : UInt64) (memo : String) :
    (grant tx property raw).Does
      (fun details after => Deed rules tx journal.state details after.state
        (.grant property raw memo)) journal := by
  refine .reading (readsOnly_amountOf raw) fun amount read => ?_
  rw [(amountOf_ok read).1, Registry.grant, bind_assoc]
  refine .reading (readsOnly_checkManager tx.sender property) fun _ managed => ?_
  rcases checkManager_ok managed with ⟨p, registered, kind, issuer⟩
  exact (Registry.mint_does _).bind fun _ _ minted => ⟨p, registered, kind, issuer, minted⟩

theorem revoke_does (property : PropertyId) (raw : UInt64) (memo : String) :
    (revoke tx property raw).Does
      (fun details after => Deed rules tx journal.state details after.state
        (.revoke property raw memo)) journal := by
  refine .reading (readsOnly_amountOf raw) fun amount read => ?_
  rw [(amountOf_ok read).1, Registry.revoke, bind_assoc]
  refine .reading (readsOnly_checkManager tx.sender property) fun _ managed => ?_
  rcases checkManager_ok managed with ⟨p, registered, kind, issuer⟩
  exact (Registry.burn_does _).bind fun _ _ burnt => ⟨p, registered, kind, issuer, burnt⟩

theorem deactivate_does (id : FeatureId) :
    (deactivate rules tx id).Does
      (fun details after => Deed rules tx journal.state details after.state (.deactivate id))
      journal := by
  refine .reading (.guard _ _) fun _ authorized => ?_
  rw [FeatureTable.deactivate, bind_assoc]
  refine .reading (.guard _ _) fun _ _ => ?_
  rw [bind_assoc]
  refine .reading .state fun s read => ?_
  cases read
  rw [bind_assoc]
  refine .reading (.guard _ _) fun _ _ => ?_
  exact ⟨guard_ok authorized, rfl⟩

theorem activate_does (id : FeatureId) (target clientVersion : UInt32) :
    (activate rules tx id target clientVersion).Does
      (fun details after => Deed rules tx journal.state details after.state
        (.activate id target clientVersion)) journal := by
  refine .reading (.guard _ _) fun _ authorized => ?_
  rw [FeatureTable.activate, bind_assoc]
  refine .reading (.require _ _) fun name _ => ?_
  rw [bind_assoc]
  refine .reading (.guard _ _) fun _ admitted => ?_
  rw [bind_assoc]
  refine .reading .state fun s read => ?_
  cases read
  refine yields_bind.mpr (yields_ite.mpr ⟨fun active => ?_, fun inactive => ?_⟩)
  · refine ⟨guard_ok authorized, guard_ok admitted, ?_⟩
    rw [if_pos active]
  · refine ⟨guard_ok authorized, guard_ok admitted, ?_⟩
    rw [if_neg inactive]
    exact ⟨name, rfl⟩

/-- In a state whose books and sales are in order, an accepted message does what the list says. -/
theorem message_does (sound : journal.state.Sound) (trading : journal.state.Trading)
    (m : Message) :
    (message rules tx m).Does
      (fun details after => Deed rules tx journal.state details after.state m.payload)
      journal := by
  have numbered := sound.canonical.registry
  refine .reading (.guard _ _) fun _ _ => ?_
  cases m.payload with
  | simpleSend property amount => exact simpleSend_does rules tx trading property amount
  | sendToOwners property amount distribution =>
      exact sendToOwners_does rules tx property amount distribution
  | sendAll ecosystem => exact sendAll_does rules tx ecosystem
  | sellOffer property amount desired timeLimit minFee action =>
      exact sellOffer_does rules tx property amount desired timeLimit minFee action
  | acceptOffer property amount => exact acceptOffer_does rules tx property amount
  | issueFixed issuance amount => exact issueFixed_does rules tx numbered issuance amount
  | issueCrowdsale issuance desired rate deadline earlyBonus issuerPercent =>
      exact issueCrowdsale_does rules tx numbered issuance desired rate deadline earlyBonus
        issuerPercent
  | closeCrowdsale property => exact closeCrowdsale_does rules tx property
  | issueManaged issuance => exact issueManaged_does rules tx numbered issuance
  | grant property amount memo => exact grant_does rules tx property amount memo
  | revoke property amount memo => exact revoke_does rules tx property amount memo
  | deactivate id => exact deactivate_does rules tx id
  | activate id target clientVersion => exact activate_does rules tx id target clientVersion

end

end Execute
end TokenOverlay
