import TokenOverlay.Proofs.Selling

namespace TokenOverlay

/-!
The verdict on a message is the verdict of its checks.  In a state whose books
and sales are in order, the checks are all that can refuse a message: no step
that moves, creates or destroys tokens fails behind them.  An accepted message
leaves the sales in order again.
-/

open Attempt TokenOverlay.Action

namespace Ledger

/-- The properties that an address can spend are listed once each. -/
theorem nodup_availableIn (l : Ledger) (address : Address) (ecosystem : Ecosystem) :
    ((l.availableIn address ecosystem).map Prod.fst).Nodup := by
  have distinct : ((l.balancesOf address).map Prod.fst).Nodup := by
    unfold balancesOf
    cases l.balances.get? address with
    | none => exact List.nodup_nil
    | some table => exact table.nodup_keys
  unfold availableIn
  rw [List.map_map]
  exact distinct.sublist (List.filter_sublist.map Prod.fst)

/-- What is listed as available is. -/
theorem of_mem_availableIn {l : Ledger} {address : Address} {ecosystem : Ecosystem}
    {move : PropertyId × Int} (member : move ∈ l.availableIn address ecosystem) :
    0 < move.2 ∧ move.2 ≤ l.available address move.1 := by
  rcases List.mem_map.mp member with ⟨entry, kept, rfl⟩
  rcases List.mem_filter.mp kept with ⟨listed, spendable⟩
  have stored : l.balance address entry.1 = entry.2 := by
    unfold balancesOf at listed
    unfold balance
    cases found : l.balances.get? address with
    | none =>
        rw [found] at listed
        cases listed
    | some table =>
        rw [found] at listed
        rw [Option.bind_some, SortedMap.get?_eq_some_iff.mpr listed, Option.getD_some]
  unfold available
  rw [stored]
  exact ⟨of_decide_eq_true (Bool.and_eq_true_iff.mp spendable).2, Int.le_refl _⟩

end Ledger

namespace Execute

/-! ## The checks -/

/-- What has to hold for a payload: all that its handler reads before it writes. -/
def payloadChecks (rules : Rules) (tx : TxContext) : Payload → Action Unit
  | .simpleSend property raw => do
      let amount ← amountOf raw
      let _ ← Registry.lookup property
      let _ ← referenceOf tx
      Ledger.checkAvailable tx.sender property amount
  | .sendToOwners property raw distribution => do
      Action.guard
        (distribution = none ∨
          (← Action.state).features.isActive FeatureId.crossPropertySend = true)
        (.featureNotActivated FeatureId.crossPropertySend)
      let amount ← amountOf raw
      let sent ← Registry.lookup property
      let owned := distribution.getD property
      let _ ← Registry.lookup owned
      let ledger := (← Action.state).ledger
      Action.guard (amount ≤ ledger.available tx.sender property) .insufficientBalance
      let recipients := Distribution.distribute
        (Distribution.eligibleOwners (ledger.holders owned) tx.sender) amount
      Action.guard (recipients ≠ []) .noRecipients
      let feeProperty := sent.ecosystem.protocolToken
      let fee := Distribution.fee rules.config.distributionFee recipients.length
      let needed := if feeProperty = property then amount + fee else fee
      Action.guard (needed ≤ ledger.available tx.sender feeProperty) .insufficientFee
  | .sendAll byte => do
      let ecosystem ← Action.require .invalidEcosystem (Ecosystem.ofByte byte)
      let _ ← referenceOf tx
      let moves := (← Action.state).ledger.availableIn tx.sender ecosystem
      Action.guard (moves ≠ []) .nothingToSend
  | .sellOffer property amount desired timeLimit minFee action => do
      let _ ← Registry.lookup property
      checkTradeable property
      match action with
      | .new => do
          let terms ← termsOf tx amount desired timeLimit minFee
          OrderBook.checkCreate tx.sender property terms.amount
      | .update => do
          let terms ← termsOf tx amount desired timeLimit minFee
          OrderBook.checkUpdate tx.sender property terms.amount
      | .cancel => do
          let _ ← OrderBook.existing tx.sender property
          return ()
  | .acceptOffer property raw => do
      let amount ← amountOf raw
      let _ ← Registry.lookup property
      let seller ← referenceOf tx
      OrderBook.checkAccept tx.sender seller property amount
  | .issueFixed issuance raw => do
      let (ecosystem, _) ← checkIssuance issuance
      let _ ← amountOf raw
      Registry.checkNumbers ecosystem
  | .issueCrowdsale issuance desired rate rawDeadline _ _ => do
      let (ecosystem, _) ← checkIssuance issuance
      let _ ← Registry.lookup desired
      Action.guard (Ecosystem.of desired = some ecosystem) .crossEcosystem
      let _ ← amountOf rate
      Action.guard (tx.blockTime ≤ deadlineOf rawDeadline) .deadlineInPast
      Action.guard (((← Action.state).crowdsales.activeOf? tx.sender).isNone = true)
        .activeCrowdsaleExists
      Registry.checkNumbers ecosystem
  | .closeCrowdsale property => do
      let _ ← Registry.lookup property
      let sale ← Action.require .notCrowdsale ((← Action.state).crowdsales.get? property)
      Action.guard (sale.issuer = tx.sender) .notIssuer
      Action.guard (sale.active = true) .crowdsaleNotActive
  | .issueManaged issuance => do
      let (ecosystem, _) ← checkIssuance issuance
      Registry.checkNumbers ecosystem
  | .grant property raw _ => do
      let amount ← amountOf raw
      Registry.checkManager tx.sender property
      Registry.checkRoom property amount
  | .revoke property raw _ => do
      let amount ← amountOf raw
      Registry.checkManager tx.sender property
      Ledger.checkAvailable tx.sender property amount
  | .deactivate id => do
      checkAuthority rules tx
      Action.guard ((FeatureId.featureName? id).isSome = true) (.unknownFeature id)
      Action.guard (((← Action.state).features.get? id).isSome = true) (.featureNotActive id)
  | .activate id target _ => do
      checkAuthority rules tx
      let _ ← Action.require (.unknownFeature id) (FeatureId.featureName? id)
      Action.guard (rules.params.graceWindow.admits tx.block target.toNat = true)
        (.gracePeriodViolation (GraceWindow.offset tx.block target.toNat)
          rules.params.graceWindow.least rules.params.graceWindow.most)

/-- What has to hold for a message. -/
def checks (rules : Rules) (tx : TxContext) (m : Message) : Action Unit := do
  Action.guard (permitted rules tx m = true) (.typeNotPermitted m.payload.messageType m.version)
  payloadChecks rules tx m.payload

/-! ## Reading -/

theorem readsOnly_amountOf (raw : UInt64) : ReadsOnly (amountOf raw) :=
  .bind (.guard _ _) fun _ => .pure _

theorem readsOnly_checkIssuance (issuance : Issuance) : ReadsOnly (checkIssuance issuance) :=
  .bind (.require _ _) fun _ => .bind (.require _ _) fun _ => .bind (.guard _ _) fun _ =>
    .bind (.guard _ _) fun _ => .pure _

theorem readsOnly_checkManager (sender : Address) (id : PropertyId) :
    ReadsOnly (Registry.checkManager sender id) :=
  .bind (Registry.readsOnly_lookup id) fun _ => .bind (.guard _ _) fun _ => .guard _ _

theorem readsOnly_checkTradeable (property : PropertyId) : ReadsOnly (checkTradeable property) :=
  .bind .state fun _ => .guard _ _

theorem readsOnly_termsOf (tx : TxContext) (amount desired : UInt64) (timeLimit : UInt8)
    (minFee : UInt64) : ReadsOnly (termsOf tx amount desired timeLimit minFee) :=
  .bind (readsOnly_amountOf amount) fun _ => .bind (readsOnly_amountOf desired) fun _ =>
    .bind (.guard _ _) fun _ => .pure _

variable {journal after : Journal} {raw : UInt64} {amount : Int}

theorem amountOf_ok (run : amountOf raw journal = (.ok amount, after)) :
    amount = raw.toNat ∧ 0 < amount ∧ amount ≤ maxTokens := by
  by_cases inRange : 0 < raw.toNat ∧ (raw.toNat : Int) ≤ maxTokens
  · rw [amountOf, bind_run, guard_run_true inRange] at run
    cases run
    exact ⟨rfl, Int.natCast_pos.mpr inRange.1, inRange.2⟩
  · rw [amountOf, bind_run, guard_run_false inRange] at run
    cases run

theorem termsOf_ok {tx : TxContext} {desired : UInt64} {timeLimit : UInt8} {minFee : UInt64}
    {terms : OfferTerms}
    (run : termsOf tx raw desired timeLimit minFee journal = (.ok terms, after)) :
    (terms.amount = raw.toNat ∧ 0 < terms.amount ∧ terms.amount ≤ maxTokens) ∧
      terms.desired = desired.toNat ∧ 0 < terms.desired ∧ terms.desired ≤ maxTokens := by
  rcases bind_ok run with ⟨amount, _, offered, rest⟩
  rcases bind_ok rest with ⟨price, _, wanted, rest⟩
  rcases bind_ok rest with ⟨_, _, _, rest⟩
  cases rest
  exact ⟨amountOf_ok offered, amountOf_ok wanted⟩

/-! ## Moving tokens -/

/-- Recipients can be credited with what was taken for them, and nobody loses anything by it. -/
theorem creditAll_succeeds {property : PropertyId} {recipients : List Recipient}
    (positive : ∀ r ∈ recipients, 0 < r.amount)
    (balanced : journal.state.Balanced
      (Pi.single property (Amount.total (recipients.map Recipient.amount))) 0)
    (capped : journal.state.registry.supplyOf property ≤ maxTokens) :
    (creditAll property recipients).Yields
      (fun _ after => journal.state.Moved 0 0 after.state ∧
        ∀ address q, journal.state.ledger.available address q ≤
          after.state.ledger.available address q)
      (fun _ _ => False) journal := by
  induction recipients generalizing journal with
  | nil =>
      rw [List.map_nil, Amount.total_nil, Pi.single_zero] at balanced
      exact ⟨⟨balanced, rfl, rfl, rfl⟩, fun _ _ => Int.le_refl _⟩
  | cons recipient rest ih =>
      have first := Int.le_of_lt (positive recipient List.mem_cons_self)
      have later : ∀ r ∈ rest, 0 < r.amount := fun other member =>
        positive other (List.mem_cons_of_mem recipient member)
      have left : 0 ≤ Amount.total (rest.map Recipient.amount) := by
        refine Amount.total_nonneg fun n member => ?_
        rcases List.mem_map.mp member with ⟨other, inside, rfl⟩
        exact Int.le_of_lt (later other inside)
      rw [List.map_cons, Amount.total_cons] at balanced
      change (Ledger.credit recipient.address property recipient.amount >>= fun _ =>
        creditAll property rest).Yields _ _ _
      refine (Ledger.credit_succeeds balanced capped first ?_).bind ?_
        fun _ _ impossible => impossible
      · rw [Pi.single_eq_same]
        omega
      rintro _ between ⟨credited, given⟩
      -- What is still on its way belongs to the recipients that are left.
      have onTheirWay := credited.balanced
      rw [← Pi.single_sub, add_sub_cancel_left] at onTheirWay
      refine (ih later onTheirWay ?_).mono ?_ fun _ _ impossible => impossible
      · rw [credited.registry]
        exact capped
      · rintro _ after ⟨moved, grown⟩
        refine ⟨credited.trans moved, fun address q => Int.le_trans ?_ (grown address q)⟩
        unfold Ledger.available
        rw [given.balance]
        split
        · next here =>
            rw [here.1, here.2]
            exact Int.le_add_of_nonneg_right first
        · exact Int.le_refl _

/-- The fee can be destroyed once it is there. -/
theorem burnFee_succeeds {holder : Address} {id : PropertyId} {fee : Int} {token : Property}
    (sound : journal.state.Sound) (trading : journal.state.Trading)
    (registered : journal.state.registry.get? id = some token) (kind : token.kind = .protocol)
    (enough : fee ≤ journal.state.ledger.available holder id) :
    (burnFee holder id fee).Yields (fun _ after => after.state.Trading) (fun _ _ => False)
      journal := by
  rw [burnFee, yields_ite]
  refine ⟨fun positive => ?_, fun _ => trading⟩
  refine ((Registry.burn_decided sound holder positive registered).succeeds
    (Ledger.checkAvailable_of_le enough)).mono ?_ fun _ _ impossible => impossible
  intro _ after burnt
  have within := trading.total_le registered
  refine trading.supplied burnt.grown burnt.crowdsales registered
    (trading.unsold registered ?_) (by omega)
  rw [kind]
  rintro ⟨⟩

/-- Moves of different properties that can all be paid for do not get in each other's way. -/
theorem moveAll_succeeds {source target : Address} {moves : List (PropertyId × Int)}
    (distinct : (moves.map Prod.fst).Nodup) (sound : journal.state.Sound)
    (capped : ∀ id, journal.state.registry.supplyOf id ≤ maxTokens)
    (covered : ∀ move ∈ moves, 0 < move.2 ∧
      move.2 ≤ journal.state.ledger.available source move.1) :
    (moveAll source target moves).Yields (fun _ after => journal.state.Moved 0 0 after.state)
      (fun _ _ => False) journal := by
  induction moves generalizing journal with
  | nil => exact ⟨sound, rfl, rfl, rfl⟩
  | cons move rest ih =>
      have apart := List.nodup_cons.mp distinct
      have first := covered move List.mem_cons_self
      change ((do
        Ledger.debit source move.1 move.2
        Ledger.credit target move.1 move.2) >>= fun _ => moveAll source target rest).Yields _ _ _
      have paid := (Ledger.transfer_decided target sound (capped move.1)
        (Int.le_of_lt first.1)).succeeds (Ledger.checkAvailable_of_le first.2)
      refine Yields.bind paid ?_ fun _ _ impossible => impossible
      rintro _ between ⟨moved, others⟩
      refine (ih apart.2 moved.balanced ?_ ?_).mono ?_ fun _ _ impossible => impossible
      · rw [moved.registry]
        exact capped
      · intro other member
        -- Another move is of another property, so what covers it has not been touched.
        have different : other.1 ≠ move.1 := by
          intro same
          exact apart.1 (same ▸ List.mem_map_of_mem member)
        unfold Ledger.available
        rw [others source other.1 different]
        exact covered other (List.mem_cons_of_mem move member)
      · intro _ after later
        exact moved.trans later

section

variable (rules : Rules) (tx : TxContext) (sound : journal.state.Sound)
  (trading : journal.state.Trading)

include sound trading

theorem simpleSend_decided (property : PropertyId) (raw : UInt64) :
    (simpleSend rules tx property raw).DecidedBy
      (payloadChecks rules tx (.simpleSend property raw))
      (fun _ after => after.state.Trading) journal := by
  refine .reading (readsOnly_amountOf raw) fun amount read => ?_
  refine .reading (Registry.readsOnly_lookup property) fun _ _ => ?_
  refine .reading (.require _ _) fun recipient _ => ?_
  rw [← bind_assoc]
  refine (Ledger.transfer_decided recipient sound (trading.registry.capped property)
    (Int.le_of_lt (amountOf_ok read).2.1)).bind ?_
  rintro _ paid ⟨moved, _⟩
  have orderly := trading.of_same moved.registry moved.crowdsales
  rw [yields_bind, yields_state]
  split
  · next sale buying =>
      rcases CrowdsaleBook.target?_eq_some (Option.filter_eq_some_iff.mp buying).1 with
        ⟨⟨id, stored⟩, active⟩
      exact contribute_succeeds rules tx property moved.balanced orderly stored active
  · exact orderly

theorem sendToOwners_decided (property : PropertyId) (raw : UInt64)
    (distribution : Option PropertyId) :
    (sendToOwners rules tx property raw distribution).DecidedBy
      (payloadChecks rules tx (.sendToOwners property raw distribution))
      (fun _ after => after.state.Trading) journal := by
  refine .reading .state fun _ _ => .reading (.guard _ _) fun _ _ => ?_
  refine .reading (readsOnly_amountOf raw) fun amount read => ?_
  refine .reading (Registry.readsOnly_lookup property) fun sent _ => ?_
  refine .reading (Registry.readsOnly_lookup _) fun _ _ => ?_
  refine .reading .state fun s here => ?_
  cases here
  refine .reading (.guard _ _) fun _ enough => ?_
  refine .reading (.guard _ _) fun _ served => ?_
  refine .last (.guard _ _) fun covered => ?_
  have enough := guard_ok enough
  have covered := guard_ok covered
  have whole := Distribution.total_distribute Distribution.eligibleOwners_positive
    (amountOf_ok read).2.2 (guard_ok served)
  refine ((Ledger.debit_decided sound).succeeds (Ledger.checkAvailable_of_le enough)).bind ?_
    fun _ _ impossible => impossible
  rintro _ debited ⟨moved, taken⟩
  have onTheirWay := moved.balanced
  rw [zero_add, ← whole] at onTheirWay
  refine (creditAll_succeeds (fun _ member => Distribution.distribute_positive member) onTheirWay
    ?_).bind ?_ fun _ _ impossible => impossible
  · rw [moved.registry]
    exact trading.registry.capped property
  rintro _ credited ⟨given, grown⟩
  have registry := given.registry.trans moved.registry
  have orderly := trading.of_same registry (given.crowdsales.trans moved.crowdsales)
  rcases trading.registry.protocolToken sent.ecosystem with ⟨token, registered, kind⟩
  refine (burnFee_succeeds given.balanced orderly (registry ▸ registered) kind ?_).bind ?_
    fun _ _ impossible => impossible
  · -- The sender may pay the fee in what it sends, and that has been debited by now.
    refine Int.le_trans ?_ (grown tx.sender _)
    unfold Ledger.available at covered ⊢
    rw [taken.balance]
    by_cases own : sent.ecosystem.protocolToken = property
    · rw [if_pos own, own] at covered
      rw [if_pos ⟨rfl, own⟩]
      unfold Ledger.available
      dsimp only
      omega
    · rw [if_neg own] at covered
      rw [if_neg fun here => own here.2]
      exact covered
  · intro _ after settled
    exact State.Trading.of_same settled rfl rfl

theorem sendAll_decided (byte : UInt8) :
    (sendAll tx byte).DecidedBy (payloadChecks rules tx (.sendAll byte))
      (fun _ after => after.state.Trading) journal := by
  refine .reading (.require _ _) fun ecosystem _ => .reading (.require _ _) fun recipient _ => ?_
  refine .reading .state fun s here => ?_
  cases here
  refine .last (.guard _ _) fun _ => ?_
  refine (moveAll_succeeds (Ledger.nodup_availableIn _ _ _) sound trading.registry.capped
    fun _ member => Ledger.of_mem_availableIn member).bind ?_ fun _ _ impossible => impossible
  intro _ after moved
  exact trading.of_same moved.registry moved.crowdsales

/-! ## The exchange -/

theorem sellOffer_decided (property : PropertyId) (raw desired : UInt64) (timeLimit : UInt8)
    (minFee : UInt64) (action : OfferAction) :
    (sellOffer tx property raw desired timeLimit minFee action).DecidedBy
      (payloadChecks rules tx (.sellOffer property raw desired timeLimit minFee action))
      (fun _ after => after.state.Trading) journal := by
  have capped := trading.registry.capped property
  refine .reading (Registry.readsOnly_lookup property) fun _ _ => ?_
  refine .reading (readsOnly_checkTradeable property) fun _ _ => ?_
  cases action with
  | new =>
      refine .reading (readsOnly_termsOf tx raw desired timeLimit minFee) fun terms read => ?_
      have positive := (termsOf_ok read).1.2.1
      refine (OrderBook.create_decided sound capped (Int.le_of_lt positive)).bind ?_
      intro _ after same
      exact trading.of_same same.1 same.2
  | update =>
      refine .reading (readsOnly_termsOf tx raw desired timeLimit minFee) fun terms read => ?_
      have positive := (termsOf_ok read).1.2.1
      refine (OrderBook.update_decided sound capped (Int.le_of_lt positive)).bind ?_
      intro _ after same
      exact trading.of_same same.1 same.2
  | cancel =>
      refine (OrderBook.cancel_decided sound capped).bind ?_
      intro _ after same
      exact trading.of_same same.1 same.2

theorem acceptOffer_decided (property : PropertyId) (raw : UInt64) :
    (acceptOffer tx property raw).DecidedBy
      (payloadChecks rules tx (.acceptOffer property raw))
      (fun _ after => after.state.Trading) journal := by
  refine .reading (readsOnly_amountOf raw) fun amount read => ?_
  refine .reading (Registry.readsOnly_lookup property) fun _ _ => ?_
  refine .reading (.require _ _) fun seller _ => ?_
  refine (OrderBook.accept_decided sound (trading.registry.capped property)
    (Int.le_of_lt (amountOf_ok read).2.1)).bind ?_
  intro _ after same
  exact trading.of_same same.1 same.2

/-! ## Issuing -/

theorem issueFixed_decided (issuance : Issuance) (raw : UInt64) :
    (issueFixed tx issuance raw).DecidedBy (payloadChecks rules tx (.issueFixed issuance raw))
      (fun _ after => after.state.Trading) journal := by
  refine .reading (readsOnly_checkIssuance issuance) fun answer _ => ?_
  refine .reading (readsOnly_amountOf raw) fun amount read => ?_
  have inRange := (amountOf_ok read).2
  refine (Registry.issue_decided sound trading _ ⟨Int.le_of_lt inRange.1, inRange.2⟩).bind ?_
  intro _ after issued
  exact issued.trading

theorem issueManaged_decided (issuance : Issuance) :
    (issueManaged tx issuance).DecidedBy (payloadChecks rules tx (.issueManaged issuance))
      (fun _ after => after.state.Trading) journal := by
  refine .reading (readsOnly_checkIssuance issuance) fun answer _ => ?_
  have nothing : 0 ≤ (0 : Int) ∧ 0 ≤ maxTokens := by decide
  refine (Registry.issue_decided sound trading _ nothing).bind ?_
  intro _ after issued
  exact issued.trading

/-- The new property is for sale at once. -/
theorem issueCrowdsale_decided (issuance : Issuance) (desired : PropertyId)
    (rate rawDeadline : UInt64) (earlyBonus issuerPercent : UInt8) :
    (issueCrowdsale tx issuance desired rate rawDeadline earlyBonus issuerPercent).DecidedBy
      (payloadChecks rules tx
        (.issueCrowdsale issuance desired rate rawDeadline earlyBonus issuerPercent))
      (fun _ after => after.state.Trading) journal := by
  refine .reading (readsOnly_checkIssuance issuance) fun answer _ => ?_
  rcases answer with ⟨ecosystem, divisible⟩
  refine .reading (Registry.readsOnly_lookup desired) fun wanted registered => ?_
  refine .reading (.guard _ _) fun _ sameEcosystem => ?_
  refine .reading (readsOnly_amountOf rate) fun tokensPerUnit _ => ?_
  refine .reading (.guard _ _) fun _ _ => ?_
  refine .reading .state fun s here => ?_
  cases here
  refine .reading (.guard _ _) fun _ alone => ?_
  have nothing : 0 ≤ (0 : Int) ∧ 0 ≤ maxTokens := by decide
  refine (Registry.issue_decided sound trading _ nothing).bind ?_
  intro id between issued
  have known := Registry.lookup_ok registered
  have located := trading.registry.located desired wanted known
  rw [guard_ok sameEcosystem] at located
  -- The number is new, so what is asked for is another property and as registered as before.
  have apart : desired ≠ id := by
    rintro rfl
    rw [issued.free] at known
    cases known
  have payable : between.state.registry.ecosystemOf? desired = some ecosystem := by
    rw [Registry.ecosystemOf?, issued.others desired apart, known, Option.map_some, located]
  have unsold : between.state.crowdsales.get? id = none := by
    rw [issued.crowdsales]
    exact trading.unsold_of_free issued.free
  have vacant := Option.isNone_iff_eq_none.mp (guard_ok alone)
  rw [← issued.crowdsales] at vacant
  refine (CrowdsaleBook.create_succeeds vacant).bind ?_ fun _ _ impossible => impossible
  intro _ after opened
  rw [yields_pure, opened]
  refine issued.trading.opened issued.registered rfl unsold payable ?_ vacant
  exact {
    kind := rfl
    issuer := rfl
    creation := rfl
    supply := rfl
    issued := rfl
    issuerPart := rfl
    nonneg := ⟨Int.le_refl 0, Int.le_refl 0⟩
    running := ⟨fun _ => rfl, fun _ => rfl⟩
    early := rfl
    full := by rintro ⟨⟩ }

omit sound in
theorem closeCrowdsale_decided (property : PropertyId) :
    (closeCrowdsale tx property).DecidedBy (payloadChecks rules tx (.closeCrowdsale property))
      (fun _ after => after.state.Trading) journal := by
  refine .reading (Registry.readsOnly_lookup property) fun _ _ => ?_
  rw [CrowdsaleBook.close, bind_assoc]
  refine .reading .state fun s here => ?_
  cases here
  rw [bind_assoc]
  refine .reading (.require _ _) fun sale stored => ?_
  rw [bind_assoc]
  refine .reading (.guard _ _) fun _ _ => ?_
  rw [bind_assoc]
  refine .last (.guard _ _) fun _ => ?_
  exact trading.closed (require_ok stored) (some tx.txid) tx.block

/-! ## Managed properties -/

omit sound trading in
theorem checkManager_ok {sender : Address} {id : PropertyId} {after : Journal}
    (run : Registry.checkManager sender id journal = (.ok (), after)) :
    ∃ p, journal.state.registry.get? id = some p ∧ p.kind = .managed ∧ p.issuer = sender := by
  rcases bind_ok run with ⟨p, _, found, rest⟩
  rcases bind_ok rest with ⟨_, _, managed, last⟩
  exact ⟨p, Registry.lookup_ok found, of_decide_eq_true (guard_ok managed), guard_ok last⟩

theorem grant_decided (property : PropertyId) (raw : UInt64) (memo : String) :
    (grant tx property raw).DecidedBy (payloadChecks rules tx (.grant property raw memo))
      (fun _ after => after.state.Trading) journal := by
  refine .reading (readsOnly_amountOf raw) fun amount read => ?_
  rw [Registry.grant, bind_assoc]
  refine .reading (readsOnly_checkManager tx.sender property) fun _ managed => ?_
  rcases checkManager_ok managed with ⟨p, registered, kind, _⟩
  have minted := Registry.mint_decided sound (tx.reference.getD tx.sender) property
    (amountOf_ok read).2.1
  refine Yields.bind minted ?_ fun _ _ refused => refused
  rintro _ after ⟨passed, supplied⟩
  rcases Registry.checkRoom_ok passed with ⟨q, found, room⟩
  refine ⟨passed, trading.supplied supplied.grown supplied.crowdsales found
    (trading.unsold registered ?_) (by omega)⟩
  rw [kind]
  rintro ⟨⟩

theorem revoke_decided (property : PropertyId) (raw : UInt64) (memo : String) :
    (revoke tx property raw).DecidedBy (payloadChecks rules tx (.revoke property raw memo))
      (fun _ after => after.state.Trading) journal := by
  refine .reading (readsOnly_amountOf raw) fun amount read => ?_
  have positive := (amountOf_ok read).2.1
  rw [Registry.revoke, bind_assoc]
  refine .reading (readsOnly_checkManager tx.sender property) fun _ managed => ?_
  rcases checkManager_ok managed with ⟨p, registered, kind, _⟩
  have within := trading.total_le registered
  refine (Registry.burn_decided sound tx.sender positive registered).bind ?_
  intro _ after supplied
  refine trading.supplied supplied.grown supplied.crowdsales registered
    (trading.unsold registered ?_) (by omega)
  rw [kind]
  rintro ⟨⟩

/-! ## Features -/

omit sound in
theorem deactivate_decided (id : FeatureId) :
    (deactivate rules tx id).DecidedBy (payloadChecks rules tx (.deactivate id))
      (fun _ after => after.state.Trading) journal := by
  refine .reading (.guard _ _) fun _ _ => ?_
  rw [FeatureTable.deactivate, bind_assoc]
  refine .reading (.guard _ _) fun _ _ => ?_
  rw [bind_assoc]
  refine .reading .state fun _ _ => ?_
  rw [bind_assoc]
  refine .last (.guard _ _) fun _ => ?_
  exact trading.of_same rfl rfl

omit sound in
theorem activate_decided (id : FeatureId) (target clientVersion : UInt32) :
    (activate rules tx id target clientVersion).DecidedBy
      (payloadChecks rules tx (.activate id target clientVersion))
      (fun _ after => after.state.Trading) journal := by
  refine .reading (.guard _ _) fun _ _ => ?_
  rw [FeatureTable.activate, bind_assoc]
  refine .reading (.require _ _) fun _ _ => ?_
  rw [bind_assoc]
  refine .last (.guard _ _) fun _ => ?_
  rw [bind_assoc, yields_bind, yields_state]
  split
  · exact trading
  · exact trading.of_same rfl rfl

/-! ## All messages -/

/-- A message is accepted exactly if its checks pass, and it leaves the sales in order. -/
theorem message_decided (m : Message) :
    (message rules tx m).DecidedBy (checks rules tx m) (fun _ after => after.state.Trading)
      journal := by
  refine .reading (.guard _ _) fun _ _ => ?_
  cases m.payload with
  | simpleSend property amount => exact simpleSend_decided rules tx sound trading property amount
  | sendToOwners property amount distribution =>
      exact sendToOwners_decided rules tx sound trading property amount distribution
  | sendAll ecosystem => exact sendAll_decided rules tx sound trading ecosystem
  | sellOffer property amount desired timeLimit minFee action =>
      exact sellOffer_decided rules tx sound trading property amount desired timeLimit minFee action
  | acceptOffer property amount => exact acceptOffer_decided rules tx sound trading property amount
  | issueFixed issuance amount => exact issueFixed_decided rules tx sound trading issuance amount
  | issueCrowdsale issuance desired rate deadline earlyBonus issuerPercent =>
      exact issueCrowdsale_decided rules tx sound trading issuance desired rate deadline earlyBonus
        issuerPercent
  | closeCrowdsale property => exact closeCrowdsale_decided rules tx trading property
  | issueManaged issuance => exact issueManaged_decided rules tx sound trading issuance
  | grant property amount memo => exact grant_decided rules tx sound trading property amount memo
  | revoke property amount memo => exact revoke_decided rules tx sound trading property amount memo
  | deactivate id => exact deactivate_decided rules tx trading id
  | activate id target clientVersion =>
      exact activate_decided rules tx trading id target clientVersion

end

end Execute
end TokenOverlay
