import TokenOverlay.Proofs.Effects
import TokenOverlay.Proofs.Sales

namespace TokenOverlay

/-!
What a message checks.  Every handler reads before it writes, and what it reads
decides whether it is accepted: nothing that it does afterwards can fail.  The
checks of a message are stated here as an action that reads only, and an action
is shown to be decided by its checks one step at a time.
-/

open Attempt TokenOverlay.Action

namespace Action

variable {α β : Type}

/-- The action leaves the journal alone. -/
def ReadsOnly (action : Action α) : Prop := ∀ journal, (action journal).2 = journal

namespace ReadsOnly

theorem pure (value : α) : ReadsOnly (Pure.pure value : Action α) := fun _ => rfl

theorem state : ReadsOnly Action.state := fun _ => rfl

theorem guard (condition : Prop) [Decidable condition] (reason : Rejection) :
    ReadsOnly (Action.guard condition reason) := by
  intro journal
  unfold Action.guard Attempt.guard
  split <;> rfl

theorem require (reason : Rejection) (value : Option α) :
    ReadsOnly (Action.require reason value) := by
  intro journal
  cases value <;> rfl

theorem bind {action : Action α} {next : α → Action β} (first : ReadsOnly action)
    (later : ∀ value, ReadsOnly (next value)) : ReadsOnly (action >>= next) := by
  intro journal
  have same := first journal
  rw [bind_run]
  rcases run : action journal with ⟨reason | value, after⟩
  · rw [run] at same
    exact same
  · rw [run] at same
    subst same
    exact later value after

end ReadsOnly

/-- The action is accepted where the checks are, and rejected where they are and for the same
reason; the condition is on what it leaves behind when it is accepted. -/
def DecidedBy (action : Action α) (checks : Action Unit) (accepted : α → Journal → Prop)
    (journal : Journal) : Prop :=
  action.Yields
    (fun value after => checks journal = (.ok (), journal) ∧ accepted value after)
    (fun reason _ => checks journal = (.error reason, journal)) journal

namespace DecidedBy

variable {action : Action α} {checks : Action Unit} {next : α → Action β}
  {accepted : β → Journal → Prop} {between : α → Journal → Prop} {journal : Journal}

/-- Checks come first, and both sides read the same. -/
theorem reading {later : α → Action Unit} (reads : ReadsOnly action)
    (decided : ∀ value, action journal = (.ok value, journal) →
      (next value).DecidedBy (later value) accepted journal) :
    (action >>= next).DecidedBy (action >>= later) accepted journal := by
  have same := reads journal
  unfold DecidedBy Yields
  rw [bind_run, bind_run]
  rcases run : action journal with ⟨reason | value, after⟩
  · rw [run] at same
    subst same
    rfl
  · rw [run] at same
    subst same
    exact decided value run

/-- Whatever comes after the checks has to succeed. -/
theorem bind (decided : action.DecidedBy checks between journal)
    (succeeds : ∀ value after, between value after →
      (next value).Yields accepted (fun _ _ => False) after) :
    (action >>= next).DecidedBy checks accepted journal := by
  refine Yields.bind decided ?_ fun _ _ refused => refused
  rintro value after ⟨passed, held⟩
  exact (succeeds value after held).mono (fun _ _ done => ⟨passed, done⟩)
    fun _ _ impossible => impossible.elim

/-- An action that cannot fail has nothing to check. -/
theorem of_succeeds (succeeds : action.Yields between (fun _ _ => False) journal) :
    action.DecidedBy (pure ()) between journal :=
  succeeds.mono (fun _ _ done => ⟨rfl, done⟩) fun _ _ impossible => impossible.elim

/-- The last check is one that both sides make. -/
theorem last {check : Action Unit} {next : Unit → Action β} (reads : ReadsOnly check)
    (succeeds : check journal = (.ok (), journal) →
      (next ()).Yields accepted (fun _ _ => False) journal) :
    (check >>= next).DecidedBy check accepted journal := by
  have decided : (check >>= next).DecidedBy (check >>= fun _ => pure ()) accepted journal :=
    reading reads fun _ passed => of_succeeds (succeeds passed)
  rw [bind_pure_unit] at decided
  exact decided

/-- Once the checks have passed the action succeeds. -/
theorem succeeds (decided : action.DecidedBy checks between journal)
    (passed : checks journal = (.ok (), journal)) :
    action.Yields between (fun _ _ => False) journal := by
  refine Yields.mono decided (fun _ _ outcome => outcome.2) fun reason _ refused => ?_
  rw [passed] at refused
  cases refused

theorem outcome_eq (decided : action.DecidedBy checks between journal) :
    (action journal).1.map (fun _ => ()) = (checks journal).1 := by
  unfold DecidedBy Yields at decided
  rcases run : action journal with ⟨reason | value, after⟩
  · rw [run] at decided
    rw [show checks journal = (.error reason, journal) from decided]
    rfl
  · rw [run] at decided
    rw [decided.1]
    rfl

end DecidedBy

theorem guard_run {condition : Prop} [Decidable condition] (reason : Rejection)
    (journal : Journal) : Action.guard condition reason journal =
      (if condition then .ok () else .error reason, journal) := by
  unfold Action.guard Attempt.guard
  split <;> rfl

theorem guard_run_true {condition : Prop} [Decidable condition] (holds : condition)
    (reason : Rejection) (journal : Journal) :
    Action.guard condition reason journal = (.ok (), journal) := by
  rw [Action.guard, Attempt.guard, if_pos holds]
  rfl

theorem guard_run_false {condition : Prop} [Decidable condition] (fails : ¬ condition)
    (reason : Rejection) (journal : Journal) :
    Action.guard condition reason journal = (.error reason, journal) := by
  rw [Action.guard, Attempt.guard, if_neg fails]
  rfl

theorem guard_ok {condition : Prop} [Decidable condition] {reason : Rejection}
    {journal after : Journal} (run : Action.guard condition reason journal = (.ok (), after)) :
    condition := by
  by_cases holds : condition
  · exact holds
  · rw [guard_run_false holds] at run
    cases run

theorem guard_error {condition : Prop} [Decidable condition] {reason given : Rejection}
    {journal after : Journal}
    (run : Action.guard condition given journal = (.error reason, after)) :
    reason = given ∧ ¬ condition := by
  by_cases holds : condition
  · rw [guard_run_true holds] at run
    cases run
  · rw [guard_run_false holds] at run
    cases run
    exact ⟨rfl, holds⟩

theorem require_ok {reason : Rejection} {value : Option α} {found : α} {journal after : Journal}
    (run : Action.require reason value journal = (.ok found, after)) : value = some found := by
  cases value with
  | none => cases run
  | some other =>
      cases run
      rfl

end Action

/-! ## Balances -/

namespace Ledger

/-- The address can spend the amount. -/
def checkAvailable (address : Address) (property : PropertyId) (amount : Int) : Action Unit := do
  Action.guard (amount ≤ (← Action.state).ledger.available address property) .insufficientBalance

variable {journal : Journal} {loose : PropertyId → Int} {unbacked : Address → PropertyId → Int}
  {address : Address} {property : PropertyId} {amount : Int}

theorem checkAvailable_of_le
    (enough : amount ≤ journal.state.ledger.available address property) :
    checkAvailable address property amount journal = (.ok (), journal) :=
  guard_run_true enough .insufficientBalance journal

theorem checkAvailable_of_lt (short : journal.state.ledger.available address property < amount) :
    checkAvailable address property amount journal = (.error .insufficientBalance, journal) :=
  guard_run_false (Int.not_le.mpr short) .insufficientBalance journal

theorem checkAvailable_ok {after : Journal}
    (run : checkAvailable address property amount journal = (.ok (), after)) :
    amount ≤ journal.state.ledger.available address property :=
  guard_ok run

theorem checkAvailable_error {reason : Rejection} {after : Journal}
    (run : checkAvailable address property amount journal = (.error reason, after)) :
    reason = .insufficientBalance ∧ journal.state.ledger.available address property < amount :=
  ⟨(guard_error run).1, Int.not_le.mp (guard_error run).2⟩

theorem debit_decided (balanced : journal.state.Balanced loose unbacked) :
    (debit address property amount).DecidedBy (checkAvailable address property amount)
      (fun _ after =>
        journal.state.Moved (loose + Pi.single property amount) unbacked after.state ∧
        journal.state.Rewritten address property
          ⟨journal.state.ledger.available address property - amount,
            journal.state.ledger.reserved address property⟩ after.state) journal := by
  refine (debit_effect.and (debit_yields balanced)).mono ?_ ?_
  · rintro _ after ⟨⟨enough, rewritten⟩, moved⟩
    exact ⟨checkAvailable_of_le enough, moved, rewritten⟩
  · rintro _ after ⟨⟨rfl, short⟩, _⟩
    exact checkAvailable_of_lt short

/-- Tokens on their way fit wherever they are credited: no supply is above the ceiling. -/
theorem credit_succeeds (balanced : journal.state.Balanced loose unbacked)
    (capped : journal.state.registry.supplyOf property ≤ maxTokens) (nonneg : 0 ≤ amount)
    (covered : amount ≤ loose property) :
    (credit address property amount).Yields
      (fun _ after =>
        journal.state.Moved (loose - Pi.single property amount) unbacked after.state ∧
        journal.state.Rewritten address property
          ⟨journal.state.ledger.available address property + amount,
            journal.state.ledger.reserved address property⟩ after.state)
      (fun _ _ => False) journal := by
  refine (credit_effect.and (credit_yields balanced nonneg)).mono ?_ ?_
  · rintro _ after ⟨rewritten, moved⟩
    exact ⟨moved, rewritten⟩
  · rintro _ after ⟨_, overflow⟩
    have bound := balanced.available_le_supply address property
    have part := (balanced.balance_nonneg address property).1
    apply overflow
    unfold Amount.Fits Amount.least
    omega

theorem reserve_decided (balanced : journal.state.Balanced 0 unbacked)
    (capped : journal.state.registry.supplyOf property ≤ maxTokens) (nonneg : 0 ≤ amount) :
    (reserve address property amount).DecidedBy (checkAvailable address property amount)
      (fun _ after => journal.state.Rewritten address property
        ⟨journal.state.ledger.available address property - amount,
          journal.state.ledger.reserved address property + amount⟩ after.state) journal := by
  refine reserve_effect.mono ?_ ?_
  · rintro _ after ⟨enough, rewritten⟩
    exact ⟨checkAvailable_of_le enough, rewritten⟩
  · rintro _ after (⟨rfl, short⟩ | ⟨rfl, enough, overflow⟩)
    · exact checkAvailable_of_lt short
    · have bound := balanced.held_le_supply address property
      have parts := balanced.nonneg address property
      refine absurd ?_ overflow
      unfold held at bound
      unfold available reserved at *
      rw [Pi.zero_apply] at bound
      unfold Amount.Fits Amount.least
      omega

/-- What is reserved can always be released. -/
theorem unreserve_succeeds (balanced : journal.state.Balanced 0 unbacked)
    (capped : journal.state.registry.supplyOf property ≤ maxTokens) (nonneg : 0 ≤ amount)
    (backed : amount ≤ journal.state.ledger.reserved address property) :
    (unreserve address property amount).Yields
      (fun _ after =>
        journal.state.Moved 0 (unbacked + cell address property (-amount)) after.state ∧
        journal.state.Rewritten address property
          ⟨journal.state.ledger.available address property + amount,
            journal.state.ledger.reserved address property - amount⟩ after.state)
      (fun _ _ => False) journal := by
  refine (unreserve_effect.and (unreserve_yields balanced nonneg)).mono ?_ ?_
  · rintro _ after ⟨⟨_, rewritten⟩, moved⟩
    exact ⟨moved, rewritten⟩
  · rintro _ after ⟨⟨rfl, short⟩ | ⟨rfl, _, overflow⟩, _⟩
    · exact Int.not_le.mpr short backed
    · have bound := balanced.held_le_supply address property
      have parts := balanced.nonneg address property
      apply overflow
      unfold held at bound
      unfold available reserved at *
      rw [Pi.zero_apply] at bound
      unfold Amount.Fits Amount.least
      omega

/-- What is reserved can always be handed to somebody. -/
theorem transferReserved_succeeds {target : Address}
    (balanced : journal.state.Balanced 0 unbacked)
    (capped : journal.state.registry.supplyOf property ≤ maxTokens) (nonneg : 0 ≤ amount)
    (backed : amount ≤ journal.state.ledger.reserved address property) :
    (transferReserved address target property amount).Yields
      (fun _ after => after.state.registry = journal.state.registry ∧
        after.state.crowdsales = journal.state.crowdsales)
      (fun _ _ => False) journal := by
  have parts := balanced.balance_nonneg address property
  rw [transferReserved, yields_bind, yields_state, yields_bind, yields_guard]
  refine ⟨fun enough => ?_, fun short => short backed⟩
  have released := set_yields address property (-amount) (-amount) balanced
    ⟨parts.1, Int.sub_nonneg_of_le enough⟩ (by simp only [held]; omega) rfl
  refine released.bind ?_ fun _ _ impossible => impossible
  intro _ between moved
  refine (credit_succeeds moved.balanced ?_ nonneg ?_).mono ?_ fun _ _ impossible => impossible
  · rw [moved.registry]
    exact capped
  · simp
  · rintro _ after ⟨credited, _⟩
    exact ⟨credited.registry.trans moved.registry, credited.crowdsales.trans moved.crowdsales⟩

/-- A transfer that the source can pay for goes through. -/
theorem transfer_decided (target : Address) (sound : journal.state.Sound)
    (capped : journal.state.registry.supplyOf property ≤ maxTokens) (nonneg : 0 ≤ amount) :
    (do
      debit address property amount
      credit target property amount).DecidedBy (checkAvailable address property amount)
      (fun _ after => journal.state.Moved 0 0 after.state ∧
        ∀ other q, q ≠ property →
          after.state.ledger.balance other q = journal.state.ledger.balance other q)
      journal := by
  refine (debit_decided sound).bind ?_
  rintro _ between ⟨debited, taken⟩
  refine (credit_succeeds debited.balanced ?_ nonneg ?_).mono ?_ fun _ _ impossible => impossible
  · rw [debited.registry]
    exact capped
  · simp
  · rintro _ after ⟨credited, given⟩
    rw [add_sub_cancel_right] at credited
    refine ⟨debited.trans credited, fun other q different => ?_⟩
    rw [given.balance_other different, taken.balance_other different]

end Ledger

/-! ## Offers -/

namespace OrderBook

variable {journal : Journal} {seller : Address} {property : PropertyId}

theorem readsOnly_existing (seller : Address) (property : PropertyId) :
    ReadsOnly (existing seller property) :=
  .bind .state fun _ => .require _ _

/-- The seller has no offer of the property yet, and can spend what it wants to offer. -/
def checkCreate (seller : Address) (property : PropertyId) (amount : Int) : Action Unit := do
  Action.guard (((← Action.state).orders.get? seller property).isNone = true)
    .duplicateActiveOffer
  Ledger.checkAvailable seller property amount

/-- The seller can spend what the new terms offer beyond what is left of the old ones. -/
def checkUpdate (seller : Address) (property : PropertyId) (amount : Int) : Action Unit := do
  let offer ← existing seller property
  Ledger.checkAvailable seller property (amount - offer.amountRemaining)

/-- The offer of somebody else is open for so much. -/
def checkAccept (buyer seller : Address) (property : PropertyId) (amount : Int) : Action Unit := do
  Action.guard (buyer ≠ seller) .selfAccept
  let offer ← existing seller property
  Action.guard (amount ≤ offer.amountRemaining) .offerAmountExceeded

theorem reserved_eq_remaining {s : State} (sound : s.Sound) {offer : Offer}
    (found : s.orders.get? seller property = some offer) :
    s.ledger.reserved seller property = offer.amountRemaining := by
  have reserve := sound.escrow seller property
  rw [found, remaining_some, Pi.zero_apply, Pi.zero_apply, Int.add_zero] at reserve
  exact reserve

variable (sound : journal.state.Sound)
  (capped : journal.state.registry.supplyOf property ≤ maxTokens)

include sound capped

theorem create_decided {terms : OfferTerms} (nonneg : 0 ≤ terms.amount) :
    (create seller property terms).DecidedBy (checkCreate seller property terms.amount)
      (fun _ after => after.state.registry = journal.state.registry ∧
        after.state.crowdsales = journal.state.crowdsales) journal := by
  refine .reading .state fun s here => ?_
  cases here
  refine .reading (.guard _ _) fun _ _ => ?_
  refine (Ledger.reserve_decided sound capped nonneg).bind ?_
  intro _ between reserved
  exact ⟨reserved.registry, reserved.crowdsales⟩

/-- What is left of an offer can always be released. -/
theorem release_succeeds {offer : Offer}
    (found : journal.state.orders.get? seller property = some offer) :
    (Ledger.unreserve seller property offer.amountRemaining).Yields
      (fun _ after =>
        journal.state.Moved 0 (0 + cell seller property (-offer.amountRemaining)) after.state ∧
        journal.state.Rewritten seller property
          ⟨journal.state.ledger.available seller property + offer.amountRemaining,
            journal.state.ledger.reserved seller property - offer.amountRemaining⟩ after.state)
      (fun _ _ => False) journal :=
  Ledger.unreserve_succeeds sound capped (remaining_nonneg sound found)
    (Int.le_of_eq (reserved_eq_remaining sound found).symm)

theorem update_decided {terms : OfferTerms} (nonneg : 0 ≤ terms.amount) :
    (update seller property terms).DecidedBy (checkUpdate seller property terms.amount)
      (fun _ after => after.state.registry = journal.state.registry ∧
        after.state.crowdsales = journal.state.crowdsales) journal := by
  refine .reading (readsOnly_existing seller property) fun offer found => ?_
  refine Yields.bind (release_succeeds sound capped (require_ok found)) ?_
    fun _ _ impossible => impossible.elim
  rintro _ between ⟨moved, released⟩
  have spendable : between.state.ledger.available seller property =
      journal.state.ledger.available seller property + offer.amountRemaining :=
    congrArg Balance.available released.balance_self
  refine Yields.bind (Ledger.reserve_decided moved.balanced (moved.registry ▸ capped) nonneg) ?_ ?_
  · rintro _ after ⟨passed, reserved⟩
    have enough := Ledger.checkAvailable_ok passed
    rw [spendable] at enough
    exact ⟨Ledger.checkAvailable_of_le (by omega), reserved.registry.trans moved.registry,
      reserved.crowdsales.trans moved.crowdsales⟩
  · intro reason after refused
    rcases Ledger.checkAvailable_error refused with ⟨rfl, short⟩
    rw [spendable] at short
    exact Ledger.checkAvailable_of_lt (by omega)

theorem cancel_decided :
    (cancel seller property).DecidedBy (do
      let _ ← existing seller property
      return ())
      (fun _ after => after.state.registry = journal.state.registry ∧
        after.state.crowdsales = journal.state.crowdsales) journal := by
  refine .reading (readsOnly_existing seller property) fun offer found => ?_
  refine DecidedBy.of_succeeds ?_
  refine (release_succeeds sound capped (require_ok found)).bind ?_ fun _ _ impossible => impossible
  rintro _ between ⟨moved, _⟩
  exact ⟨moved.registry, moved.crowdsales⟩

theorem accept_decided {buyer : Address} {amount : Int} (nonneg : 0 ≤ amount) :
    (accept buyer seller property amount).DecidedBy (checkAccept buyer seller property amount)
      (fun _ after => after.state.registry = journal.state.registry ∧
        after.state.crowdsales = journal.state.crowdsales) journal := by
  refine .reading (.guard _ _) fun _ _ => ?_
  refine .reading (readsOnly_existing seller property) fun offer found => ?_
  refine .last (.guard _ _) fun enough => ?_
  have backed := guard_ok enough
  rw [← reserved_eq_remaining sound (require_ok found)] at backed
  refine (Ledger.transferReserved_succeeds sound capped nonneg backed).bind ?_
    fun _ _ impossible => impossible
  intro _ between same
  rw [yields_ite]
  exact ⟨fun _ => same, fun _ => same⟩

end OrderBook

/-! ## Supplies -/

/-- A state in which the supply of one property and a balance of it have changed by the same
amount, and neither another supply nor a sale has. -/
structure State.Supplied (s : State) (id : PropertyId) (amount : Int) (after : State) : Prop where
  sound : after.Sound
  grown : s.registry.Grown id amount after.registry
  crowdsales : after.crowdsales = s.crowdsales

/-- A state in which a property has been issued under a number, with some tokens. -/
structure State.Issued (s : State) (request : IssueRequest) (tokens : Int) (id : PropertyId)
    (after : State) : Prop where
  sound : after.Sound
  trading : after.Trading
  free : s.registry.get? id = none
  registered : after.registry.get? id = some { request.property id with totalTokens := tokens }
  others : ∀ other, other ≠ id → after.registry.get? other = s.registry.get? other
  crowdsales : after.crowdsales = s.crowdsales

namespace State.Issued

variable {s between after : State} {request : IssueRequest} {tokens amount : Int} {id : PropertyId}

theorem register (sound : s.Sound) (trading : s.Trading) {next : PropertyId}
    (admits : s.registry.Admits (request.property id) next) :
    s.Issued request 0 id (s.apply (.register (request.property id) next)) where
  sound := sound.register admits rfl
  trading := trading.added sound.canonical.registry admits (show (0 : Int) ≤ maxTokens by decide)
  free := sound.canonical.registry.free_of_admits admits
  registered := (s.registry.get?_added (request.property id) next id).trans (if_pos rfl)
  others := fun other different =>
    (s.registry.get?_added (request.property id) next other).trans (if_neg different)
  crowdsales := rfl

theorem supplied (issued : s.Issued request tokens id between)
    (within : tokens + amount ≤ maxTokens) (first : between.Supplied id amount after)
    (unsold : s.crowdsales.get? id = none) : s.Issued request (tokens + amount) id after where
  sound := first.sound
  trading := by
    refine issued.trading.supplied first.grown first.crowdsales issued.registered ?_ within
    rw [issued.crowdsales]
    exact unsold
  free := issued.free
  registered := first.grown.get?_self issued.registered
  others := fun other different =>
    (first.grown.get?_of_ne different).trans (issued.others other different)
  crowdsales := first.crowdsales.trans issued.crowdsales

end State.Issued

namespace Registry

/-- So much may be added to the supply. -/
def checkRoom (id : PropertyId) (amount : Int) : Action Unit := do
  let property ← lookup id
  Action.guard (amount ≤ maxTokens - property.totalTokens) .supplyOverflow

/-- The ecosystem has a number left for another property. -/
def checkNumbers (ecosystem : Ecosystem) : Action Unit := do
  match followingId ecosystem ((← Action.state).registry.nextId ecosystem) with
  | .error reason => Action.reject reason
  | .ok _ => return ()

variable {journal : Journal} {id : PropertyId} {amount : Int} {p : Property}

theorem readsOnly_lookup (id : PropertyId) : ReadsOnly (lookup id) :=
  .bind .state fun _ => .require _ _

theorem lookup_run (registered : journal.state.registry.get? id = some p) :
    lookup id journal = (.ok p, journal) := by
  rw [lookup, bind_run]
  change Action.require _ (journal.state.registry.get? id) journal = _
  rw [registered]
  rfl

theorem lookup_missing (missing : journal.state.registry.get? id = none) :
    lookup id journal = (.error (.unknownProperty id), journal) := by
  rw [lookup, bind_run]
  change Action.require _ (journal.state.registry.get? id) journal = _
  rw [missing]
  rfl

theorem lookup_ok {after : Journal} (run : lookup id journal = (.ok p, after)) :
    journal.state.registry.get? id = some p :=
  require_ok run

theorem checkRoom_run (registered : journal.state.registry.get? id = some p) :
    checkRoom id amount journal =
      Action.guard (amount ≤ maxTokens - p.totalTokens) .supplyOverflow journal := by
  rw [checkRoom, bind_run, lookup_run registered]

theorem checkRoom_ok {after : Journal} (run : checkRoom id amount journal = (.ok (), after)) :
    ∃ p, journal.state.registry.get? id = some p ∧ amount ≤ maxTokens - p.totalTokens := by
  cases registered : journal.state.registry.get? id with
  | none =>
      have missing : checkRoom id amount journal = (.error (.unknownProperty id), journal) := by
        rw [checkRoom, bind_run, lookup_missing registered]
      rw [missing] at run
      cases run
  | some p =>
      rw [checkRoom_run registered] at run
      exact ⟨p, rfl, guard_ok run⟩

/-- Tokens can be created as long as the supply has room. -/
theorem mint_decided (sound : journal.state.Sound) (recipient : Address) (id : PropertyId)
    (positive : 0 < amount) :
    (mint recipient id amount).DecidedBy (checkRoom id amount)
      (fun _ after => journal.state.Supplied id amount after.state) journal := by
  refine yields_bind.mpr (yields_guard.mpr ⟨fun _ => ?_, fun refused => absurd positive refused⟩)
  refine DecidedBy.reading (readsOnly_lookup id) fun p found => ?_
  have registered := lookup_ok found
  have supply := supplyOf_of_get? registered
  have nonneg : 0 ≤ p.totalTokens := by
    have bound := sound.available_le_supply recipient id
    have part := (sound.balance_nonneg recipient id).1
    rw [Pi.zero_apply] at bound
    omega
  rw [DecidedBy, yields_bind, yields_add]
  refine ⟨fun fits => ?_, fun overflow => ?_⟩
  · have room : amount ≤ maxTokens - p.totalTokens := by
      unfold Amount.Fits at fits
      omega
    rw [yields_bind, yields_edit]
    have funded : (journal.record (.supply id (p.totalTokens + amount))).state.Balanced _ _ :=
      sound.changeSupply (p.totalTokens + amount) registered
    have growth : journal.state.registry.Grown id amount
        (journal.record (.supply id (p.totalTokens + amount))).state.registry :=
      grown_withSupply registered amount
    rw [add_sub_cancel_left, zero_add] at funded
    refine (Ledger.credit_succeeds funded ?_ (Int.le_of_lt positive) ?_).mono ?_ ?_
    · rw [growth.supplyOf_self registered]
      exact fits.2
    · rw [Pi.single_eq_same]
    · rintro _ after ⟨moved, _⟩
      have balanced := moved.balanced
      rw [sub_self] at balanced
      refine ⟨guard_run_true room _ _, balanced, ?_, moved.crowdsales⟩
      rw [moved.registry]
      exact growth
    · intro _ _ impossible
      exact impossible.elim
  · have full : ¬ amount ≤ maxTokens - p.totalTokens := by
      unfold Amount.Fits Amount.least at overflow
      omega
    exact guard_run_false full _ _

theorem mint_succeeds (sound : journal.state.Sound) (recipient : Address) (positive : 0 < amount)
    (registered : journal.state.registry.get? id = some p)
    (room : p.totalTokens + amount ≤ maxTokens) :
    (mint recipient id amount).Yields
      (fun _ after => journal.state.Supplied id amount after.state) (fun _ _ => False) journal := by
  refine (mint_decided sound recipient id positive).succeeds ?_
  rw [checkRoom_run registered]
  exact guard_run_true (by omega) _ _

/-- Tokens can be destroyed as long as their holder has them. -/
theorem burn_decided (sound : journal.state.Sound) (holder : Address) (positive : 0 < amount)
    (registered : journal.state.registry.get? id = some p) :
    (burn holder id amount).DecidedBy (Ledger.checkAvailable holder id amount)
      (fun _ after => journal.state.Supplied id (-amount) after.state) journal := by
  refine yields_bind.mpr (yields_guard.mpr ⟨fun _ => ?_, fun refused => absurd positive refused⟩)
  refine yields_bind.mpr (yields_lookup.mpr ⟨fun q found => ?_, fun missing => ?_⟩)
  · rw [registered] at found
    cases found
    refine (Ledger.debit_decided sound).bind ?_
    rintro _ between ⟨debited, _⟩
    rw [yields_edit]
    have stillRegistered : between.state.registry.get? id = some p := by
      rw [debited.registry]
      exact registered
    have burnt := debited.balanced.changeSupply (p.totalTokens - amount) stillRegistered
    have growth := grown_withSupply stillRegistered (-amount)
    rw [add_assoc, ← Pi.single_add, sub_sub_cancel_left, add_neg_cancel, Pi.single_zero,
      add_zero] at burnt
    rw [debited.registry] at growth
    refine ⟨burnt, ?_, debited.crowdsales⟩
    change journal.state.registry.Grown id (-amount) (between.state.registry.withSupply id _)
    rw [debited.registry]
    exact growth
  · rw [registered] at missing
    cases missing

/-- A property can be issued as long as its ecosystem has numbers left. -/
theorem issue_decided (sound : journal.state.Sound) (trading : journal.state.Trading)
    (request : IssueRequest)
    (inRange : 0 ≤ request.initialAmount ∧ request.initialAmount ≤ maxTokens) :
    (issue request).DecidedBy (checkNumbers request.ecosystem)
      (fun id after => journal.state.Issued request request.initialAmount id after.state)
      journal := by
  refine yields_bind.mpr (yields_guard.mpr ⟨fun _ => ?_, fun refused => absurd inRange refused⟩)
  refine DecidedBy.reading .state fun s read => ?_
  cases read
  dsimp only
  cases follows : followingId request.ecosystem
      (journal.state.registry.nextId request.ecosystem) with
  | error reason => rfl
  | ok next =>
      refine DecidedBy.of_succeeds ?_
      have admits : journal.state.registry.Admits
          (request.property (journal.state.registry.nextId request.ecosystem)) next :=
        ⟨rfl, follows⟩
      have listed := State.Issued.register sound trading admits
      generalize journal.state.registry.nextId request.ecosystem = id at listed
      have within : 0 + request.initialAmount ≤ maxTokens := by omega
      rw [yields_bind, yields_edit, yields_ite]
      constructor
      · intro positive
        refine (mint_succeeds listed.sound request.issuer positive listed.registered ?_).bind ?_
          fun _ _ impossible => impossible
        · exact within
        · intro _ after minted
          have issued := listed.supplied within minted (trading.unsold_of_free listed.free)
          rw [Int.zero_add] at issued
          exact issued
      · intro notPositive
        have nothing : request.initialAmount = 0 := by omega
        rw [nothing]
        exact listed

end Registry
end TokenOverlay
