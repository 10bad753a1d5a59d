import TokenOverlay.Proofs.Posting

namespace TokenOverlay

/-!
A simple send as a whole.  It moves tokens, and that is all that can be refused:
what the recipient sells is looked at once the tokens have arrived.  A payment
to the issuer of a running sale then creates what it is worth.
-/

open Attempt TokenOverlay.Action

/-! ## What a payment buys -/

/-- Something is created, or nothing is because nothing is left. -/
def Quote.Counts (quote : Quote) : Prop :=
  quote.reachedCap = true ∨ quote.participantTokens ≠ 0 ∨ quote.issuerTokens ≠ 0

theorem Quote.counts_iff (quote : Quote) : quote.Counts ↔
    ¬ (!quote.reachedCap && quote.participantTokens = 0 && quote.issuerTokens = 0) = true := by
  rw [Quote.Counts]
  cases quote.reachedCap with
  | false => simp [Decidable.imp_iff_not_or]
  | true => simp

namespace Execute

/-- A payment buys from a sale: its recipient runs the sale, somebody else pays, in the property
that the sale asks for, and what it is quoted counts. -/
structure Buys (rules : Rules) (tx : TxContext) (s : State) (recipient : Address)
    (property : PropertyId) (amount : Int) (sale : Crowdsale) (quote : Quote) : Prop where
  stored : s.crowdsales.get? sale.propertyId = some sale
  active : sale.active = true
  issuer : sale.issuer = recipient
  desired : sale.desiredProperty = property
  other : tx.sender ≠ recipient
  quoted : ∃ sold, s.registry.get? sale.propertyId = some sold ∧
    quote = (contributionOf rules tx s sale property amount sold).quote
  counts : quote.Counts

/-- The contribution to a sale that a payment is noted as. -/
def participationOf (tx : TxContext) (amount : Int) (quote : Quote) : Participation where
  txid := tx.txid
  block := tx.block
  participant := tx.sender
  amountPaid := amount
  participantTokens := quote.participantTokens
  issuerTokens := quote.issuerTokens

/-- What a transfer moves. -/
def transferOf (sender recipient : Address) (property : PropertyId) (amount : Int) :
    Address → PropertyId → Int :=
  cell sender property (-amount) + cell recipient property amount

/-- What a purchase creates. -/
def createdBy (tx : TxContext) (sale : Crowdsale) (quote : Quote) : Address → PropertyId → Int :=
  cell tx.sender sale.propertyId quote.participantTokens +
    cell sale.issuer sale.propertyId quote.issuerTokens

variable {rules : Rules} {tx : TxContext} {s : State} {recipient : Address}
  {property : PropertyId} {amount : Int} {sale rival : Crowdsale} {quote : Quote}

/-- No issuer runs two sales, so a payment to an issuer buys from no sale but the one that runs. -/
theorem Buys.meets (trading : s.Trading)
    (buys : Buys rules tx s recipient property amount rival quote)
    (stored : s.crowdsales.get? sale.propertyId = some sale) (active : sale.active = true)
    (issuer : sale.issuer = recipient) {sold : Property}
    (registered : s.registry.get? sale.propertyId = some sold) :
    rival = sale ∧ quote = (contributionOf rules tx s sale property amount sold).quote := by
  have same : rival.propertyId = sale.propertyId :=
    trading.single _ _ rival sale buys.stored stored buys.active active
      (buys.issuer.trans issuer.symm)
  have known := buys.stored
  rw [same, stored] at known
  cases known
  rcases buys.quoted with ⟨p, found, quoted⟩
  rw [registered] at found
  cases found
  exact ⟨rfl, quoted⟩

/-- A payment buys from one sale at most, and at one quote. -/
theorem Buys.unique (trading : s.Trading) {other : Quote}
    (buys : Buys rules tx s recipient property amount rival other)
    (first : Buys rules tx s recipient property amount sale quote) :
    rival = sale ∧ other = quote := by
  rcases first.quoted with ⟨sold, registered, rfl⟩
  exact buys.meets trading first.stored first.active first.issuer registered

/-- The sale that a payment to its recipient contributes to. -/
theorem target?_iff (trading : s.Trading) :
    ((s.crowdsales.target? recipient property).filter fun sale => sale.issuer ≠ tx.sender) =
        some sale ↔
      s.crowdsales.get? sale.propertyId = some sale ∧ sale.active = true ∧
        sale.issuer = recipient ∧ sale.desiredProperty = property ∧ tx.sender ≠ recipient := by
  rw [CrowdsaleBook.target?, Option.filter_eq_some_iff, Option.filter_eq_some_iff,
    decide_eq_true_eq, decide_eq_true_eq]
  constructor
  · rintro ⟨⟨running, wanted⟩, elsewhere⟩
    rcases CrowdsaleBook.activeOf?_eq_some running with ⟨⟨id, stored⟩, active, issuer⟩
    rw [← trading.keyed stored] at stored
    exact ⟨stored, active, issuer, wanted, fun same => elsewhere (issuer.trans same.symm)⟩
  · rintro ⟨stored, active, issuer, wanted, other⟩
    refine ⟨⟨?_, wanted⟩, fun same => other (same.symm.trans issuer)⟩
    cases running : s.crowdsales.activeOf? recipient with
    | none => exact absurd issuer (CrowdsaleBook.activeOf?_eq_none running stored active)
    | some found =>
        rcases CrowdsaleBook.activeOf?_eq_some running with ⟨⟨id, known⟩, runs, own⟩
        have same := trading.single _ _ found sale known stored runs active (own.trans issuer.symm)
        rw [same, stored] at known
        exact known.symm

end Execute

/-- The sales after one of them has taken a contribution, which may be its last one. -/
def CrowdsaleBook.withPurchase (book : CrowdsaleBook) (sale : Crowdsale) (p : Participation)
    (capped : Bool) : CrowdsaleBook :=
  (book.withSale sale.propertyId (some (sale.accounting p capped))).addParticipation
    sale.propertyId p

/-- A payment has bought what it was quoted: the tokens have moved, the quote has been created,
and the sale has counted it and has ended exactly if the quote was cut back. -/
structure State.Bought (s : State) (tx : TxContext) (property : PropertyId) (amount : Int)
    (sale : Crowdsale) (quote : Quote) (after : State) : Prop where
  posted : s.Posted
    (Execute.transferOf tx.sender sale.issuer property amount + Execute.createdBy tx sale quote)
    sale.propertyId (quote.participantTokens + quote.issuerTokens)
    { after with crowdsales := s.crowdsales }
  counted : ∃ next, after.crowdsales.get? sale.propertyId = some next ∧
    next.tokensIssued = sale.tokensIssued + quote.participantTokens ∧
    next.issuerTokens = sale.issuerTokens + quote.issuerTokens ∧
    (next.active = false ↔ quote.reachedCap = true)
  noted : after.crowdsales.participationsOf sale.propertyId =
    s.crowdsales.participationsOf sale.propertyId ++ [Execute.participationOf tx amount quote]
  book : after.crowdsales = s.crowdsales.withPurchase sale
    (Execute.participationOf tx amount quote) quote.reachedCap

theorem Crowdsale.active_accounting {sale : Crowdsale} (active : sale.active = true)
    (p : Participation) (capped : Bool) :
    (sale.accounting p capped).active = false ↔ capped = true := by
  cases capped with
  | false => exact ⟨fun ended => absurd (active.symm.trans ended) (by decide), nofun⟩
  | true => exact ⟨fun _ => rfl, fun _ => rfl⟩

/-- A payment that has been posted and noted has bought what it was quoted. -/
theorem State.Posted.bought {s between : State} {tx : TxContext} {property : PropertyId}
    {amount : Int} {sale : Crowdsale} {quote : Quote} (active : sale.active = true)
    (posted : s.Posted
      (Execute.transferOf tx.sender sale.issuer property amount + Execute.createdBy tx sale quote)
      sale.propertyId (quote.participantTokens + quote.issuerTokens) between) :
    s.Bought tx property amount sale quote (between.withCrowdsales fun book =>
      book.withPurchase sale (Execute.participationOf tx amount quote) quote.reachedCap) where
  posted := by
    have same : { between with crowdsales := s.crowdsales } = between := by
      rw [posted.others]
    change s.Posted _ _ _ { between with crowdsales := s.crowdsales }
    rw [same]
    exact posted
  counted := by
    have found := (between.crowdsales.get?_withSale sale.propertyId sale.propertyId
      (sale.accounting (Execute.participationOf tx amount quote) quote.reachedCap)).trans
      (if_pos rfl)
    refine ⟨_, found, ?_, ?_, Crowdsale.active_accounting active _ _⟩
    · cases quote.reachedCap <;> rfl
    · cases quote.reachedCap <;> rfl
  noted := by
    rw [← posted.crowdsales]
    exact CrowdsaleBook.participationsOf_addParticipation _ _ _
  book := by
    rw [← posted.crowdsales]
    rfl

namespace Execute

variable {rules : Rules} {tx : TxContext} {journal : Journal} {property : PropertyId}
  {amount : Int} {sale : Crowdsale}

/-! ## What it does -/

theorem transfer_posts (source target : Address) (id property : PropertyId) (amount : Int) :
    (do
      Ledger.debit source property amount
      Ledger.credit target property amount).Does (fun _ after =>
        journal.state.Posted (transferOf source target property amount) id 0 after.state ∧
          journal.state.Aside after.state) journal := by
  refine ((Ledger.debit_posts source property id amount).and
    (.aside (State.debit_aside source property amount))).bind fun _ between taken => ?_
  refine ((Ledger.credit_posts target property id amount).and
    (.aside (State.credit_aside target property amount))).mono fun _ _ given => ?_
  exact ⟨taken.1.trans given.1, taken.2.trans given.2⟩

theorem recordPurchase_does {sale : Crowdsale} {quote : Quote} {p : Participation}
    (stored : journal.state.crowdsales.get? sale.propertyId = some sale)
    (worth : p.participantTokens = quote.participantTokens ∧
      p.issuerTokens = quote.issuerTokens) :
    (CrowdsaleBook.recordPurchase sale.propertyId quote p).Does
      (fun _ after => after.state = { journal.state with
        crowdsales := (journal.state.crowdsales.withSale sale.propertyId
          (some (sale.accounting p quote.reachedCap))).addParticipation sale.propertyId p })
      journal := by
  refine .reading .state fun s read => .reading (.require _ _) fun found known => ?_
  cases read
  have same := require_ok known
  rw [stored] at same
  cases same
  refine .reading (.require _ _) fun issued fitting => ?_
  rcases Amount.add?_eq_some.mp (require_ok fitting) with ⟨rfl, _⟩
  refine .reading (.require _ _) fun issuer fitting => ?_
  rcases Amount.add?_eq_some.mp (require_ok fitting) with ⟨rfl, _⟩
  refine yields_bind.mpr (yields_edit.mpr (yields_edit.mpr ?_))
  have number := (sale.accounting_same p quote.reachedCap).1
  rw [← worth.1, ← worth.2]
  change journal.state.withCrowdsales (fun book =>
    (book.withSale (sale.accounting p quote.reachedCap).propertyId
      (some (sale.accounting p quote.reachedCap))).addParticipation sale.propertyId p) = _
  rw [number]
  rfl

/-- A contribution that counts is created and noted, and another one leaves everything alone. -/
theorem contribute_posts (trading : journal.state.Trading)
    (stored : journal.state.crowdsales.get? sale.propertyId = some sale) :
    (contribute rules tx sale property amount).Does (fun details after =>
      ∃ sold quote, journal.state.registry.get? sale.propertyId = some sold ∧
        quote = (contributionOf rules tx journal.state sale property amount sold).quote ∧
        (¬ quote.Counts ∧ details = TxDetails.none ∧ after = journal ∨
          quote.Counts ∧ details = { TxDetails.none with
            purchase := some ⟨sale.propertyId, quote.participantTokens, quote.issuerTokens⟩ } ∧
          ∃ between, journal.state.Posted (createdBy tx sale quote) sale.propertyId
              (quote.participantTokens + quote.issuerTokens) between ∧
            after.state = between.withCrowdsales fun book =>
              book.withPurchase sale (participationOf tx amount quote) quote.reachedCap)) journal := by
  refine .reading (Registry.readsOnly_lookup _) fun sold found => .reading .state fun s read => ?_
  cases read
  have registered := Registry.lookup_ok found
  have agrees := trading.agrees stored registered
  have bounds := (contributionOf rules tx journal.state sale property amount sold).quote_bounds
    agrees.total_nonneg (trading.total_le registered)
  generalize quoted : (contributionOf rules tx journal.state sale property amount sold).quote =
    quote at bounds
  refine yields_ite.mpr ⟨fun nothing => ?_, fun something => ?_⟩
  · refine ⟨sold, quote, registered, quoted.symm, Or.inl ⟨?_, rfl, rfl⟩⟩
    exact fun counts => quote.counts_iff.mp counts nothing
  · refine (mintIfAny_posts sale.propertyId tx.sender bounds.1).bind fun _ _ first => ?_
    refine (mintIfAny_posts sale.propertyId sale.issuer bounds.2.1).bind fun _ minted second => ?_
    have posted := first.trans second
    have still : minted.state.crowdsales.get? sale.propertyId = some sale := by
      rw [posted.crowdsales]
      exact stored
    refine (recordPurchase_does still ⟨rfl, rfl⟩).bind fun _ after recorded => ?_
    exact ⟨sold, quote, registered, quoted.symm,
      Or.inr ⟨quote.counts_iff.mpr something, rfl, minted.state, posted, recorded⟩⟩

/-- A payment moves its amount, and then buys from the sale it meets, if there is one. -/
theorem simpleSend_posts (rules : Rules) (tx : TxContext) {journal : Journal}
    (trading : journal.state.Trading) (property : PropertyId) (raw : UInt64) :
    (simpleSend rules tx property raw).Does (fun details after =>
      ∃ recipient, tx.reference = some recipient ∧
        ((∃ sale quote, Buys rules tx journal.state recipient property raw.toNat sale quote ∧
            details = { TxDetails.none with
              purchase := some ⟨sale.propertyId, quote.participantTokens, quote.issuerTokens⟩ } ∧
            journal.state.Bought tx property raw.toNat sale quote after.state) ∨
          (∀ sale quote, ¬ Buys rules tx journal.state recipient property raw.toNat sale quote) ∧
            details = TxDetails.none ∧
            journal.state.Posted (transferOf tx.sender recipient property raw.toNat) property 0
              after.state ∧ journal.state.Aside after.state)) journal := by
  refine .reading (readsOnly_amountOf raw) fun amount read => ?_
  have sent := (amountOf_ok read).1
  subst sent
  refine .reading (Registry.readsOnly_lookup property) fun _ _ => ?_
  refine .reading (.require _ _) fun recipient named => ?_
  rw [← bind_assoc]
  refine (transfer_posts tx.sender recipient property property _).bind ?_
  rintro _ paid ⟨moved, aside⟩
  have orderly : paid.state.Trading := trading.of_same aside.registry aside.crowdsales
  have known := require_ok named
  refine .reading .state fun s read => ?_
  cases read
  split
  · next sale meets =>
      rcases (target?_iff orderly).mp meets with ⟨stored, active, issuer, wanted, other⟩
      refine (contribute_posts orderly stored).mono ?_
      rintro details after ⟨sold, quote, registered, quoted, effect⟩
      -- Neither the sales nor the properties have changed by the transfer.
      have same : contributionOf rules tx paid.state sale property raw.toNat sold =
          contributionOf rules tx journal.state sale property raw.toNat sold := by
        unfold contributionOf
        rw [aside.registry]
      rw [aside.crowdsales] at stored
      rw [aside.registry] at registered
      rw [same] at quoted
      subst issuer
      refine ⟨sale.issuer, known, ?_⟩
      rcases effect with ⟨nothing, plain, rfl⟩ | ⟨counts, reported, between, created, result⟩
      · refine Or.inr ⟨fun rival offered buys => nothing ?_, plain, moved, aside⟩
        rw [quoted, ← (buys.meets trading stored active rfl registered).2]
        exact buys.counts
      · have posted := (moved.supplyless sale.propertyId).trans created
        rw [Int.zero_add] at posted
        refine Or.inl ⟨sale, quote, ?_, reported, ?_⟩
        · exact ⟨stored, active, rfl, wanted, other, ⟨sold, registered, quoted⟩, counts⟩
        · rw [result]
          exact posted.bought active
  · next missing =>
      refine ⟨recipient, known, Or.inr ⟨fun sale quote buys => ?_, rfl, moved, aside⟩⟩
      have stored := buys.stored
      rw [← aside.crowdsales] at stored
      have meets := (target?_iff orderly).mpr
        ⟨stored, buys.active, buys.issuer, buys.desired, buys.other⟩
      rw [missing] at meets
      cases meets

/-! ## When it is accepted -/

theorem passes_simpleSend (property : PropertyId) (raw : UInt64) :
    (payloadChecks rules tx (.simpleSend property raw)).Passes journal ↔
      (1 ≤ (raw.toNat : Int) ∧ (raw.toNat : Int) ≤ maxTokens) ∧
      journal.state.registry.exists? property = true ∧ tx.reference.isSome = true ∧
      raw.toNat ≤ journal.state.ledger.available tx.sender property := by
  rw [payloadChecks, passes_amountOf_bind, passes_lookup_bind, Registry.exists?_iff_get?,
    Option.isSome_iff_exists]
  simp only [referenceOf, passes_require_bind, Ledger.checkAvailable, passes_state, passes_guard,
    exists_and_right]

end Execute

namespace Engine

variable {rules : Rules} {journal : Journal}

/-- In every state that an engine passes through, a simple send is valid exactly if it counts in
its block, names a recipient, and the sender can spend its amount of a registered property.  Then
the amount has moved, and if the payment buys from a sale, it has bought what it was quoted and
its record says so; nothing else is different. -/
theorem processTransaction_pays (reached : journal.state.Reached rules) {tx : Tx} {m : Message}
    (decoded : Message.decode tx.payload = .ok m) {property : PropertyId} {raw : UInt64}
    (kind : m.payload = .simpleSend property raw) (block : Block) (position : Nat) :
    let s := journal.state
    let ctx := contextOf block tx
    let amount : Int := raw.toNat
    let outcome := processTransaction rules block position tx journal
    let record := TxRecord.opening block position tx
    (outcome.1.valid = true ↔
      rules.params.permits block.height property 0 m.version = true ∧
      (1 ≤ amount ∧ amount ≤ maxTokens) ∧ s.registry.exists? property = true ∧
      tx.reference.isSome = true ∧ amount ≤ s.ledger.available tx.sender property) ∧
    (outcome.1.valid = true → ∀ recipient, tx.reference = some recipient →
      (∀ sale quote, Execute.Buys rules ctx s recipient property amount sale quote →
        outcome.1 = { record with
          payload := some (.simpleSend property raw)
          valid := true
          details := { TxDetails.none with
            purchase := some ⟨sale.propertyId, quote.participantTokens, quote.issuerTokens⟩ } } ∧
        s.Bought ctx property amount sale quote outcome.2.state) ∧
      ((∀ sale quote, ¬ Execute.Buys rules ctx s recipient property amount sale quote) →
        outcome.1 = { record with payload := some (.simpleSend property raw), valid := true } ∧
        s.Posted (Execute.transferOf tx.sender recipient property amount) property 0
          outcome.2.state)) ∧
    (outcome.1.valid = false → outcome.2 = journal) := by
  intro s ctx amount outcome record
  have trading : (Journal.start s).state.Trading := reached.trading
  rcases processTransaction_verdict reached decoded kind block position
    (Execute.simpleSend_posts rules ctx trading property raw) with ⟨verdict, untouched, result⟩
  refine ⟨verdict.trans ?_, fun valid recipient named => ?_, untouched⟩
  · rw [Execute.passes_simpleSend]
    exact Iff.rfl
  · rcases result valid with ⟨details, after, noted, state, target, known, effect⟩
    cases named.symm.trans known
    change outcome.1 = _ at noted
    rw [noted, state]
    rcases effect with ⟨sale, quote, first, rfl, bought⟩ | ⟨nothing, rfl, moved, _⟩
    · constructor
      · intro rival other buys
        rcases buys.unique trading first with ⟨rfl, rfl⟩
        exact ⟨rfl, bought⟩
      · exact fun nothing => absurd first (nothing sale quote)
    · exact ⟨fun sale quote buys => absurd buys (nothing sale quote), fun _ => ⟨rfl, moved⟩⟩

/-- A block that opens a sale, before the payment in it that buys from the sale. -/
def saleOpened : Journal :=
  (processFrom Session.twoOwners State.Reached.selling 0
    (prelude State.Reached.selling (.start (Session.run Session.twoOwners []).engine.state)).2
    (State.Reached.selling.transactions.take 1)).2

def salePayment : Tx := ⟨"u", "b", some "a", Message.encode (Payload.simpleSend 1 2).toMessage⟩

theorem processTransaction_pays_issuer :
    let outcome := processTransaction Session.twoOwners State.Reached.selling 1 salePayment
      saleOpened
    saleOpened.state.Reached Session.twoOwners ∧ outcome.1.valid = true ∧
      outcome.1.details.purchase = some ⟨3, 2, 1⟩ ∧
      outcome.2.state.ledger.available "a" 1 = 12 ∧ outcome.2.state.ledger.available "b" 3 = 2 ∧
      outcome.2.state.ledger.available "a" 3 = 1 ∧ outcome.2.state.registry.supplyOf 3 = 3 := by
  intro outcome
  have reached : saleOpened.state.Reached Session.twoOwners :=
    .amid [] State.Reached.selling (State.Reached.selling.transactions.take 1)
  have decoded : Message.decode salePayment.payload = .ok ⟨0, .simpleSend 1 2⟩ := by
    decide +kernel
  rcases processTransaction_pays reached decoded rfl State.Reached.selling 1 with
    ⟨verdict, result, _⟩
  have valid : outcome.1.valid = true :=
    verdict.mpr ⟨by decide +kernel, by decide, by decide +kernel, rfl, by decide +kernel⟩
  let sale : Crowdsale :=
    ⟨3, "a", 1, 100000000, 10, 0, 50, 0, 0, true, false, false, "t", none, none⟩
  have stored : saleOpened.state.crowdsales.get? 3 = some sale := by decide +kernel
  have quoted : (saleOpened.state.registry.get? 3).map (fun sold =>
      (sold.totalTokens, (Execute.contributionOf Session.twoOwners
        (contextOf State.Reached.selling salePayment) saleOpened.state sale 1 2 sold).quote)) =
      some (0, ⟨2, 1, false⟩) := by decide +kernel
  rcases Option.map_eq_some_iff.mp quoted with ⟨sold, registered, amounts⟩
  have buys : Execute.Buys Session.twoOwners (contextOf State.Reached.selling salePayment)
      saleOpened.state "a" 1 2 sale ⟨2, 1, false⟩ :=
    ⟨stored, rfl, rfl, rfl, by decide, ⟨sold, registered, (congrArg Prod.snd amounts).symm⟩,
      Or.inr (Or.inl (by decide))⟩
  rcases (result valid "a" rfl).1 sale _ buys with ⟨record, bought⟩
  have spendable : saleOpened.state.ledger.available "a" 1 = 10 ∧
    saleOpened.state.ledger.available "b" 3 = 0 ∧ saleOpened.state.ledger.available "a" 3 = 0 := by
    decide +kernel
  have noted : outcome.1.details.purchase = some ⟨3, 2, 1⟩ :=
    congrArg (TxDetails.purchase ∘ TxRecord.details) record
  refine ⟨reached, valid, noted, ?_⟩
  change saleOpened.state.Bought _ 1 2 sale _ outcome.2.state at bought
  generalize outcome.2.state = after at bought ⊢
  refine ⟨?_, ?_, ?_, ?_⟩
  · refine (bought.posted.available "a" 1).trans ?_
    rw [spendable.1]
    decide +kernel
  · refine (bought.posted.available "b" 3).trans ?_
    rw [spendable.2.1]
    decide +kernel
  · refine (bought.posted.available "a" 3).trans ?_
    rw [spendable.2.2]
    decide +kernel
  · refine (bought.posted.supply.supplyOf_self registered).trans ?_
    rw [show sold.totalTokens = 0 from congrArg Prod.fst amounts]
    rfl

end Engine
end TokenOverlay
