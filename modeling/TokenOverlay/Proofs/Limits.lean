import TokenOverlay.Proofs.Crowdsales

namespace TokenOverlay

/-!
No message trips over an internal limit.  A message is refused by its checks
or not at all, so it is enough to look through the checks for the two reasons
that the ledger and the registry have: one comes up where a supply or the
numbers of an ecosystem run out, the other where a sender cannot spend what it
means to.
-/

open Attempt TokenOverlay.Action

/-- The main ecosystem has no numbers left behind its last one, and the test ecosystem behind the
largest there is. -/
theorem Registry.followingId_error {ecosystem : Ecosystem} {id : PropertyId} {reason : Rejection}
    (refused : followingId ecosystem id = .error reason) :
    (ecosystem = .main ∧ reason = .invalidEcosystem) ∨
      (ecosystem = .test ∧ reason = .supplyOverflow ∧ id.toNat = UInt32.size - 1) := by
  unfold followingId at refused
  split at refused
  · next beyond =>
      cases refused
      exact Or.inl ⟨beyond.1, rfl⟩
  · next inRange =>
      split at refused
      · cases refused
      · next last =>
          cases refused
          have largest := id.toNat_lt_size
          cases ecosystem with
          | main =>
              have low : id ≤ Ecosystem.lastMainId :=
                UInt32.not_lt.mp fun above => inRange ⟨rfl, above⟩
              have bound := UInt32.le_iff_toNat_le.mp low
              rw [Ecosystem.toNat_lastMainId] at bound
              unfold UInt32.size at last
              omega
          | test => exact Or.inr ⟨rfl, rfl, by omega⟩

namespace Execute

/-- The last number of the test ecosystem is the largest number there is. -/
def Exhausted (s : State) (issuance : Issuance) : Prop :=
  Ecosystem.ofByte issuance.ecosystem = some .test ∧
    (s.registry.nextId .test).toNat = UInt32.size - 1

/-- More is asked for than a supply has room for, or a number where none is left. -/
def Overfull (s : State) : Payload → Prop
  | .grant property raw _ => ∃ p, s.registry.get? property = some p ∧
      maxTokens - p.totalTokens < raw.toNat
  | .issueFixed issuance _ => Exhausted s issuance
  | .issueCrowdsale issuance .. => Exhausted s issuance
  | .issueManaged issuance => Exhausted s issuance
  | _ => False

/-- The sender cannot spend what the message takes from it; new terms may also use what is left
of the offer they replace. -/
def Short (s : State) (sender : Address) : Payload → Prop
  | .simpleSend property raw => s.ledger.available sender property < raw.toNat
  | .sendToOwners property raw _ => s.ledger.available sender property < raw.toNat
  | .sellOffer property raw _ _ _ .new => s.ledger.available sender property < raw.toNat
  | .sellOffer property raw _ _ _ .update => s.ledger.available sender property +
      OrderBook.remaining (s.orders.get? sender property) < raw.toNat
  | .revoke property raw _ => s.ledger.available sender property < raw.toNat
  | _ => False

/-- The reasons of the ledger and the registry come up for good cause. -/
def Justified (s : State) (sender : Address) (payload : Payload) (reason : Rejection) : Prop :=
  (reason = .supplyOverflow → Overfull s payload) ∧
    (reason = .insufficientBalance → Short s sender payload)

/-! ## Checks with reasons of their own -/

/-- The reason is none that the ledger and the registry have. -/
def Other (reason : Rejection) : Prop :=
  reason ≠ .supplyOverflow ∧ reason ≠ .insufficientBalance

/-- The action reads only, and refuses for other reasons than the ledger and the registry. -/
def Plain (action : Action α) : Prop :=
  ∀ journal, action.Yields (fun _ after => after = journal)
    (fun reason after => after = journal ∧ Other reason) journal

namespace Plain

variable {α β : Type}

theorem pure (value : α) : Plain (Pure.pure value : Action α) := fun _ => rfl

theorem state : Plain Action.state := fun _ => rfl

theorem guard (condition : Prop) [Decidable condition] {reason : Rejection}
    (other : Other reason) : Plain (Action.guard condition reason) :=
  fun _ => yields_guard.mpr ⟨fun _ => rfl, fun _ => ⟨rfl, other⟩⟩

theorem require {reason : Rejection} (value : Option α) (other : Other reason) :
    Plain (Action.require reason value) :=
  fun _ => yields_require.mpr ⟨fun _ _ => rfl, fun _ => ⟨rfl, other⟩⟩

theorem bind {action : Action α} {next : α → Action β} (first : Plain action)
    (later : ∀ value, Plain (next value)) : Plain (action >>= next) := by
  intro journal
  refine (first journal).bind ?_ fun _ _ other => other
  rintro value _ rfl
  exact later value _

theorem lookup (id : PropertyId) : Plain (Registry.lookup id) :=
  .bind .state fun _ => .require _ ⟨nofun, nofun⟩

theorem amountOf (raw : UInt64) : Plain (Execute.amountOf raw) :=
  .bind (.guard _ ⟨nofun, nofun⟩) fun _ => .pure _

theorem referenceOf (tx : TxContext) : Plain (Execute.referenceOf tx) :=
  .require _ ⟨nofun, nofun⟩

theorem checkAuthority (rules : Rules) (tx : TxContext) :
    Plain (Execute.checkAuthority rules tx) :=
  .guard _ ⟨nofun, nofun⟩

theorem checkIssuance (issuance : Issuance) : Plain (Execute.checkIssuance issuance) :=
  .bind (.require _ ⟨nofun, nofun⟩) fun _ => .bind (.require _ ⟨nofun, nofun⟩) fun _ =>
    .bind (.guard _ ⟨nofun, nofun⟩) fun _ => .bind (.guard _ ⟨nofun, nofun⟩) fun _ => .pure _

theorem checkManager (sender : Address) (id : PropertyId) :
    Plain (Registry.checkManager sender id) :=
  .bind (.lookup id) fun _ => .bind (.guard _ ⟨nofun, nofun⟩) fun _ => .guard _ ⟨nofun, nofun⟩

theorem checkTradeable (property : PropertyId) : Plain (Execute.checkTradeable property) :=
  .bind .state fun _ => .guard _ ⟨nofun, nofun⟩

theorem termsOf (tx : TxContext) (amount desired : UInt64) (timeLimit : UInt8)
    (minFee : UInt64) : Plain (Execute.termsOf tx amount desired timeLimit minFee) :=
  .bind (.amountOf amount) fun _ => .bind (.amountOf desired) fun _ =>
    .bind (.guard _ ⟨nofun, nofun⟩) fun _ => .pure _

theorem existing (seller : Address) (property : PropertyId) :
    Plain (OrderBook.existing seller property) :=
  .bind .state fun _ => .require _ ⟨nofun, nofun⟩

theorem checkAccept (buyer seller : Address) (property : PropertyId) (amount : Int) :
    Plain (OrderBook.checkAccept buyer seller property amount) :=
  .bind (.guard _ ⟨nofun, nofun⟩) fun _ => .bind (.existing seller property) fun _ =>
    .guard _ ⟨nofun, nofun⟩

end Plain

/-! ## Checks that have to do with limits -/

/-- The checks read only, and refuse for good cause. -/
abbrev RefusesJustly (checks : Action Unit) (payload : Payload) (sender : Address)
    (journal : Journal) : Prop :=
  checks.Yields (fun _ after => after = journal)
    (fun reason after => after = journal ∧ Justified journal.state sender payload reason) journal

namespace RefusesJustly

variable {checks : Action Unit} {payload : Payload} {sender : Address} {journal : Journal}

theorem of_other {s : State} {reason : Rejection} (other : Other reason) :
    Justified s sender payload reason :=
  ⟨fun same => absurd same other.1, fun same => absurd same other.2⟩

theorem of_plain (plain : Plain checks) : RefusesJustly checks payload sender journal :=
  (plain journal).mono (fun _ _ same => same) fun _ _ refused => ⟨refused.1, of_other refused.2⟩

/-- Plain checks may stand before those that have to do with limits. -/
theorem reading {first : Action α} {next : α → Action Unit} (plain : Plain first)
    (later : ∀ value, first journal = (.ok value, journal) →
      RefusesJustly (next value) payload sender journal) :
    RefusesJustly (first >>= next) payload sender journal := by
  have looked := plain journal
  unfold RefusesJustly Yields at *
  rw [bind_run]
  rcases run : first journal with ⟨reason | value, after⟩
  · rw [run] at looked
    exact ⟨looked.1, of_other looked.2⟩
  · rw [run] at looked
    subst looked
    exact later value run

theorem checkAvailable {property : PropertyId} {amount : Int}
    (short : journal.state.ledger.available sender property < amount →
      Short journal.state sender payload) :
    RefusesJustly (Ledger.checkAvailable sender property amount) payload sender journal := by
  refine yields_bind.mpr (yields_guard.mpr ⟨fun _ => rfl, fun refused => ⟨rfl, ?_⟩⟩)
  exact ⟨nofun, fun _ => short (Int.not_le.mp refused)⟩

/-- Only the numbers of the test ecosystem end at the largest one. -/
theorem checkNumbers {ecosystem : Ecosystem}
    (exhausted : ecosystem = .test →
      (journal.state.registry.nextId .test).toNat = UInt32.size - 1 →
        Overfull journal.state payload) :
    RefusesJustly (Registry.checkNumbers ecosystem) payload sender journal := by
  refine yields_bind.mpr (yields_state.mpr ?_)
  cases follows : Registry.followingId ecosystem (journal.state.registry.nextId ecosystem) with
  | ok next => rfl
  | error reason =>
      refine ⟨rfl, ?_⟩
      rcases Registry.followingId_error follows with ⟨_, rfl⟩ | ⟨test, rfl, last⟩
      · exact of_other ⟨nofun, nofun⟩
      · rw [test] at last
        exact ⟨fun _ => exhausted test last, nofun⟩

end RefusesJustly

section

variable (rules : Rules) (tx : TxContext) (journal : Journal)

/-- The ecosystem of an issuance is the one that it names. -/
theorem checkIssuance_ok {issuance : Issuance} {answer : Ecosystem × Bool} {after : Journal}
    (run : checkIssuance issuance journal = (.ok answer, after)) :
    Ecosystem.ofByte issuance.ecosystem = some answer.1 := by
  rcases bind_ok run with ⟨ecosystem, _, named, rest⟩
  rcases bind_ok rest with ⟨_, _, _, rest⟩
  rcases bind_ok rest with ⟨_, _, _, rest⟩
  rcases bind_ok rest with ⟨_, _, _, rest⟩
  cases rest
  exact require_ok named

/-- The checks of a payload refuse it for a limit only where it is reached. -/
theorem payloadChecks_refuse_justly (payload : Payload) :
    RefusesJustly (payloadChecks rules tx payload) payload tx.sender journal := by
  cases payload with
  | simpleSend property raw =>
      refine .reading (.amountOf raw) fun amount read => ?_
      refine .reading (.lookup property) fun _ _ => .reading (.referenceOf tx) fun _ _ => ?_
      rw [(amountOf_ok read).1]
      exact .checkAvailable fun short => short
  | sendToOwners property raw distribution =>
      refine .reading .state fun _ _ => .reading (.guard _ ⟨nofun, nofun⟩) fun _ _ => ?_
      refine .reading (.amountOf raw) fun amount read => ?_
      refine .reading (.lookup property) fun sent _ => .reading (.lookup _) fun _ _ => ?_
      refine .reading .state fun s here => ?_
      cases here
      rw [(amountOf_ok read).1]
      refine yields_bind.mpr (yields_guard.mpr ⟨fun _ => ?_, fun short => ?_⟩)
      · refine RefusesJustly.of_plain (.bind (.guard _ ⟨nofun, nofun⟩) fun _ => ?_)
        exact .guard _ ⟨nofun, nofun⟩
      · exact ⟨rfl, nofun, fun _ => Int.not_le.mp short⟩
  | sendAll byte =>
      refine .of_plain (.bind (.require _ ⟨nofun, nofun⟩) fun _ => .bind (.referenceOf tx) ?_)
      exact fun _ => .bind .state fun _ => .guard _ ⟨nofun, nofun⟩
  | sellOffer property raw desired timeLimit minFee action =>
      refine .reading (.lookup property) fun _ _ => ?_
      refine .reading (.checkTradeable property) fun _ _ => ?_
      cases action with
      | new =>
          refine .reading (.termsOf tx raw desired timeLimit minFee) fun terms read => ?_
          refine .reading .state fun _ _ => .reading (.guard _ ⟨nofun, nofun⟩) fun _ _ => ?_
          rw [(termsOf_ok read).1.1]
          exact .checkAvailable fun short => short
      | update =>
          refine .reading (.termsOf tx raw desired timeLimit minFee) fun terms read => ?_
          refine .reading (.existing tx.sender property) fun offer found => ?_
          rw [(termsOf_ok read).1.1]
          refine .checkAvailable fun short => ?_
          change _ + OrderBook.remaining (journal.state.orders.get? tx.sender property) < _
          rw [require_ok found, OrderBook.remaining_some]
          omega
      | cancel => exact .of_plain (.bind (.existing tx.sender property) fun _ => .pure ())
  | acceptOffer property raw =>
      refine .of_plain (.bind (.amountOf raw) fun _ => .bind (.lookup property) ?_)
      exact fun _ => .bind (.referenceOf tx) fun _ => .checkAccept _ _ _ _
  | issueFixed issuance raw =>
      refine .reading (.checkIssuance issuance) fun answer named => ?_
      refine .reading (.amountOf raw) fun _ _ => ?_
      exact .checkNumbers fun test last => ⟨test ▸ checkIssuance_ok journal named, last⟩
  | issueCrowdsale issuance desired rate deadline earlyBonus issuerPercent =>
      refine .reading (.checkIssuance issuance) fun answer named => ?_
      refine .reading (.lookup desired) fun _ _ => .reading (.guard _ ⟨nofun, nofun⟩) fun _ _ => ?_
      refine .reading (.amountOf rate) fun _ _ => .reading (.guard _ ⟨nofun, nofun⟩) fun _ _ => ?_
      refine .reading .state fun _ _ => .reading (.guard _ ⟨nofun, nofun⟩) fun _ _ => ?_
      exact .checkNumbers fun test last => ⟨test ▸ checkIssuance_ok journal named, last⟩
  | closeCrowdsale property =>
      refine .of_plain (.bind (.lookup property) fun _ => .bind .state fun _ => ?_)
      refine .bind (.require _ ⟨nofun, nofun⟩) fun _ => ?_
      exact .bind (.guard _ ⟨nofun, nofun⟩) fun _ => .guard _ ⟨nofun, nofun⟩
  | issueManaged issuance =>
      refine .reading (.checkIssuance issuance) fun answer named => ?_
      exact .checkNumbers fun test last => ⟨test ▸ checkIssuance_ok journal named, last⟩
  | grant property raw memo =>
      refine .reading (.amountOf raw) fun amount read => ?_
      refine .reading (.checkManager tx.sender property) fun _ _ => ?_
      refine .reading (.lookup property) fun p found => ?_
      rw [(amountOf_ok read).1]
      refine yields_guard.mpr ⟨fun _ => rfl, fun full => ⟨rfl, fun _ => ?_, nofun⟩⟩
      exact ⟨p, Registry.lookup_ok found, Int.not_le.mp full⟩
  | revoke property raw memo =>
      refine .reading (.amountOf raw) fun amount read => ?_
      refine .reading (.checkManager tx.sender property) fun _ _ => ?_
      rw [(amountOf_ok read).1]
      exact .checkAvailable fun short => short
  | deactivate id =>
      refine .of_plain (.bind (.checkAuthority rules tx) fun _ => ?_)
      refine .bind (.guard _ ⟨nofun, nofun⟩) fun _ => .bind .state fun _ => ?_
      exact .guard _ ⟨nofun, nofun⟩
  | activate id target clientVersion =>
      refine .of_plain (.bind (.checkAuthority rules tx) fun _ => ?_)
      exact .bind (.require _ ⟨nofun, nofun⟩) fun _ => .guard _ ⟨nofun, nofun⟩

end

/-! ## Messages -/

/-- In every state that an engine passes through a message is accepted or refused as its checks
say.  A limit of a supply or of the numbers is the reason only for a grant that its supply has
no room for and for an issuance in the test ecosystem that has no number left, and the balance
of the sender is the reason only if it does not cover what the message takes. -/
theorem message_within_limits {rules : Rules} {journal : Journal}
    (reached : journal.state.Reached rules) (tx : TxContext) (m : Message) :
    (checks rules tx m journal).2 = journal ∧
      (message rules tx m journal).1.map (fun _ => ()) = (checks rules tx m journal).1 ∧
      ((message rules tx m journal).1 = .error .supplyOverflow →
        Overfull journal.state m.payload) ∧
      ((message rules tx m journal).1 = .error .insufficientBalance →
        Short journal.state tx.sender m.payload) := by
  have same := (message_decided rules tx reached.sound reached.trading m).outcome_eq
  have justly : RefusesJustly (checks rules tx m) m.payload tx.sender journal :=
    .reading (.guard _ ⟨nofun, nofun⟩) fun _ _ => payloadChecks_refuse_justly rules tx journal _
  rcases run : checks rules tx m journal with ⟨reason | value, after⟩
  · have cause := justly.of_error run
    rw [run] at same
    refine ⟨cause.1, same, fun refused => ?_, fun refused => ?_⟩
    · rw [refused] at same
      cases same
      exact cause.2.1 rfl
    · rw [refused] at same
      cases same
      exact cause.2.2 rfl
  · have passed := justly.of_ok run
    rw [run] at same
    refine ⟨passed, same, fun refused => ?_, fun refused => ?_⟩
    · rw [refused] at same
      cases same
    · rw [refused] at same
      cases same

/-- One owner sends more than it has. -/
def overdraft : Message := (Payload.simpleSend 1 11).toMessage

theorem message_within_limits_overdraft :
    (Session.run Session.twoOwners []).engine.state.Reached Session.twoOwners ∧
    (message Session.twoOwners ⟨"t", "a", some "b", 0, 0⟩ overdraft
      (.start (Session.run Session.twoOwners []).engine.state)).1 = .error .insufficientBalance ∧
    (Session.run Session.twoOwners []).engine.state.ledger.available "a" 1 < 11 := by
  have reached : (Session.run Session.twoOwners []).engine.state.Reached Session.twoOwners :=
    .idle []
  have refused : (message Session.twoOwners ⟨"t", "a", some "b", 0, 0⟩ overdraft
      (.start (Session.run Session.twoOwners []).engine.state)).1 =
        .error .insufficientBalance := by
    decide +kernel
  have start : (Journal.start (Session.run Session.twoOwners []).engine.state).state.Reached
      Session.twoOwners := reached
  have limits := message_within_limits start ⟨"t", "a", some "b", 0, 0⟩ overdraft
  exact ⟨reached, refused, limits.2.2.2 refused⟩

end Execute
end TokenOverlay
