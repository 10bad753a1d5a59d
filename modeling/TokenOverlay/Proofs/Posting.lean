import TokenOverlay.Proofs.Crowdsales
import TokenOverlay.Proofs.Does
import TokenOverlay.Proofs.Shares

namespace TokenOverlay

/-!
Transactions that move, create and destroy tokens, to the last unit.  What one
of them does to the balances is written down as a posting: so much more for each
address and property.  Postings add up, and so the effect of a message is the
sum of the postings of its steps.  Which messages are accepted is read off their
checks, each of which is a condition on the state.
-/

open Attempt TokenOverlay.Action

/-! ## Postings -/

/-- What each address can spend of each property has changed by an amount, and so has the supply
of one property; nothing else is different. -/
structure State.Posted (s : State) (change : Address → PropertyId → Int) (id : PropertyId)
    (amount : Int) (after : State) : Prop where
  balance : ∀ address property, after.ledger.balance address property =
    ⟨s.ledger.available address property + change address property,
      s.ledger.reserved address property⟩
  supply : s.registry.Grown id amount after.registry
  numbers : ∀ ecosystem, after.registry.nextId ecosystem = s.registry.nextId ecosystem
  others : after = { s with ledger := after.ledger, registry := after.registry }

namespace State

variable {s between after : State} {change later : Address → PropertyId → Int} {id : PropertyId}
  {amount more : Int}

namespace Posted

theorem refl (s : State) (id : PropertyId) : s.Posted 0 id 0 s where
  balance := by
    intro address property
    rw [Pi.zero_apply, Pi.zero_apply, Int.add_zero]
    rfl
  supply := .refl s.registry id
  numbers := fun _ => rfl
  others := rfl

theorem available (posted : s.Posted change id amount after) (address : Address)
    (property : PropertyId) : after.ledger.available address property =
      s.ledger.available address property + change address property := by
  rw [Ledger.available, posted.balance]

theorem reserved (posted : s.Posted change id amount after) (address : Address)
    (property : PropertyId) :
    after.ledger.reserved address property = s.ledger.reserved address property := by
  rw [Ledger.reserved, posted.balance]

/-- One posting after another is their sum. -/
theorem trans (first : s.Posted change id amount between)
    (second : between.Posted later id more after) :
    s.Posted (change + later) id (amount + more) after where
  balance := by
    intro address property
    rw [second.balance, first.available, first.reserved, Int.add_assoc]
    rfl
  supply := first.supply.trans second.supply
  numbers := fun ecosystem => (second.numbers ecosystem).trans (first.numbers ecosystem)
  others := by
    rw [second.others, first.others]

/-- A posting that leaves all supplies alone may name any property. -/
theorem supplyless (posted : s.Posted change id 0 after) (other : PropertyId) :
    s.Posted change other 0 after where
  balance := posted.balance
  supply := by
    have same : ∀ q, after.registry.get? q = s.registry.get? q := by
      intro q
      rw [posted.supply q, ← Registry.Grown.refl s.registry id q]
    intro q
    rw [same q, ← Registry.Grown.refl s.registry other q]
  numbers := posted.numbers
  others := posted.others

theorem crowdsales (posted : s.Posted change id amount after) :
    after.crowdsales = s.crowdsales := by
  rw [posted.others]

/-- A balance of which an address can spend more or less by now is one posting. -/
theorem of_rewritten {address : Address} {property : PropertyId} {spent : Int}
    (rewritten : s.Rewritten address property
      ⟨s.ledger.available address property + spent, s.ledger.reserved address property⟩ after)
    (id : PropertyId) : s.Posted (cell address property spent) id 0 after where
  balance := by
    intro other q
    rw [rewritten.balance, cell_apply]
    split
    · next here => rw [here.1, here.2]
    · rw [Int.add_zero]
      rfl
  supply := rewritten.registry ▸ .refl s.registry id
  numbers := fun _ => by rw [rewritten.registry]
  others := by
    rw [rewritten.others]

/-- A supply that is written anew is a posting to no balance. -/
theorem of_supply {p : Property} (registered : s.registry.get? id = some p) (amount : Int) :
    s.Posted 0 id amount (s.apply (.supply id (p.totalTokens + amount))) where
  balance := (refl s id).balance
  supply := Registry.grown_withSupply registered amount
  numbers := s.registry.nextId_withSupply id _
  others := rfl

end Posted
end State

namespace Ledger

variable {journal : Journal} (address : Address) (property id : PropertyId) (amount : Int)

theorem credit_posts :
    (credit address property amount).Does (fun _ after =>
      journal.state.Posted (cell address property amount) id 0 after.state) journal :=
  credit_effect.mono (fun _ _ rewritten => .of_rewritten rewritten id) fun _ _ _ => trivial

theorem debit_posts :
    (debit address property amount).Does (fun _ after =>
      journal.state.Posted (cell address property (-amount)) id 0 after.state) journal := by
  refine debit_effect.mono (fun _ _ effect => ?_) fun _ _ _ => trivial
  exact .of_rewritten effect.2 id

end Ledger

namespace Registry

variable {journal : Journal} (id : PropertyId) (amount : Int)

theorem mint_posts (recipient : Address) :
    (mint recipient id amount).Does (fun _ after =>
      journal.state.Posted (cell recipient id amount) id amount after.state) journal := by
  refine .reading (.guard _ _) fun _ _ => .reading (readsOnly_lookup id) fun p found => ?_
  refine .reading (.require _ _) fun total fitting => ?_
  rcases Amount.add?_eq_some.mp (require_ok fitting) with ⟨rfl, _⟩
  have growth := State.Posted.of_supply (lookup_ok found) amount
  refine yields_bind.mpr (yields_edit.mpr ?_)
  refine (Ledger.credit_posts recipient id id amount).mono fun _ _ credited => ?_
  have both := growth.trans credited
  rw [zero_add, Int.add_zero] at both
  exact both

theorem burn_posts (holder : Address) :
    (burn holder id amount).Does (fun _ after =>
      journal.state.Posted (cell holder id (-amount)) id (-amount) after.state) journal := by
  refine .reading (.guard _ _) fun _ _ => .reading (readsOnly_lookup id) fun p found => ?_
  refine (Ledger.debit_posts holder id id amount).bind fun _ between debited => ?_
  have registered : between.state.registry.get? id = some { p with totalTokens := p.totalTokens + 0 } :=
    debited.supply.get?_self (lookup_ok found)
  have both := debited.trans (State.Posted.of_supply registered (-amount))
  rw [add_zero, Int.zero_add] at both
  rw [Int.add_zero] at both
  exact both

end Registry

namespace Execute

variable {journal : Journal} (id : PropertyId) {amount : Int}

theorem mintIfAny_posts (recipient : Address) (nonneg : 0 ≤ amount) :
    (mintIfAny recipient id amount).Does (fun _ after =>
      journal.state.Posted (cell recipient id amount) id amount after.state) journal := by
  refine yields_ite.mpr ⟨fun _ => Registry.mint_posts id amount recipient, fun notPositive => ?_⟩
  have nothing : amount = 0 := by omega
  rw [nothing, cell_zero]
  exact .refl journal.state id

theorem burnFee_posts (holder : Address) (nonneg : 0 ≤ amount) :
    (burnFee holder id amount).Does (fun _ after =>
      journal.state.Posted (cell holder id (-amount)) id (-amount) after.state) journal := by
  refine yields_ite.mpr ⟨fun _ => Registry.burn_posts id amount holder, fun notPositive => ?_⟩
  have nothing : amount = 0 := by omega
  rw [nothing, Int.neg_zero, cell_zero]
  exact .refl journal.state id

/-- What is paid out of a property, to whom. -/
def payout (property : PropertyId) (recipients : List Recipient) : Address → PropertyId → Int :=
  fun address q => if q = property then Distribution.paid recipients address else 0

theorem payout_nil (property : PropertyId) : payout property [] = 0 := by
  funext address q
  exact ite_self 0

theorem payout_cons (property : PropertyId) (recipient : Recipient) (rest : List Recipient) :
    payout property (recipient :: rest) =
      cell recipient.address property recipient.amount + payout property rest := by
  funext address q
  rw [Pi.add_apply, Pi.add_apply, cell_apply, payout, payout, Distribution.paid_cons]
  by_cases same : q = property
  · simp only [same, and_true, if_true, eq_comm (a := address)]
  · simp only [same, and_false, if_false, Int.add_zero]

theorem creditAll_posts (property : PropertyId) (recipients : List Recipient) :
    (creditAll property recipients).Does (fun _ after =>
      journal.state.Posted (payout property recipients) id 0 after.state) journal := by
  induction recipients generalizing journal with
  | nil =>
      rw [payout_nil]
      exact .refl journal.state id
  | cons recipient rest ih =>
      change (Ledger.credit recipient.address property recipient.amount >>= fun _ =>
        creditAll property rest).Does _ _
      rw [payout_cons]
      refine (Ledger.credit_posts recipient.address property id recipient.amount).bind
        fun _ between credited => ?_
      exact ih.mono fun _ _ later => credited.trans later

end Execute

/-! ## Checks -/

namespace Action

variable {α : Type} {journal : Journal}

/-- The check does not refuse the state. -/
def Passes (check : Action Unit) (journal : Journal) : Prop :=
  check.Yields (fun _ _ => True) (fun _ _ => False) journal

theorem passes_state {next : State → Action Unit} :
    (Action.state >>= next).Passes journal ↔ (next journal.state).Passes journal :=
  yields_bind

theorem passes_guard {condition : Prop} [Decidable condition] {reason : Rejection} :
    (Action.guard condition reason).Passes journal ↔ condition := by
  refine yields_guard.trans ⟨fun passes => ?_, fun holds => ⟨fun _ => trivial, absurd holds⟩⟩
  exact Decidable.byContradiction passes.2

theorem passes_guard_bind {condition : Prop} [Decidable condition] {reason : Rejection}
    {next : Unit → Action Unit} :
    (Action.guard condition reason >>= next).Passes journal ↔
      condition ∧ (next ()).Passes journal := by
  refine yields_bind.trans (yields_guard.trans ⟨fun passes => ?_, fun ⟨holds, rest⟩ => ?_⟩)
  · have holds := Decidable.byContradiction passes.2
    exact ⟨holds, passes.1 holds⟩
  · exact ⟨fun _ => rest, absurd holds⟩

theorem passes_require_bind {reason : Rejection} {value : Option α} {next : α → Action Unit} :
    (Action.require reason value >>= next).Passes journal ↔
      ∃ found, value = some found ∧ (next found).Passes journal := by
  refine yields_bind.trans (yields_require.trans ⟨fun passes => ?_, ?_⟩)
  · cases value with
    | none => exact (passes.2 rfl).elim
    | some found => exact ⟨found, rfl, passes.1 found rfl⟩
  · rintro ⟨found, rfl, rest⟩
    exact ⟨fun _ same => Option.some.inj same ▸ rest, nofun⟩

theorem passes_lookup_bind {id : PropertyId} {next : Property → Action Unit} :
    (Registry.lookup id >>= next).Passes journal ↔
      ∃ p, journal.state.registry.get? id = some p ∧ (next p).Passes journal := by
  rw [Registry.lookup, bind_assoc]
  exact passes_state.trans passes_require_bind

theorem passes_amountOf_bind {raw : UInt64} {next : Int → Action Unit} :
    (Execute.amountOf raw >>= next).Passes journal ↔
      (1 ≤ (raw.toNat : Int) ∧ (raw.toNat : Int) ≤ maxTokens) ∧ (next raw.toNat).Passes journal := by
  rw [Execute.amountOf, bind_assoc, passes_guard_bind]
  have positive : 0 < raw.toNat ↔ 1 ≤ (raw.toNat : Int) := by omega
  rw [positive]
  rfl

theorem passes_of_ok {check : Action Unit} {after : Journal}
    (run : check journal = (.ok (), after)) : check.Passes journal := by
  unfold Passes Yields
  rw [run]
  trivial

theorem not_passes_of_error {check : Action Unit} {reason : Rejection} {after : Journal}
    (run : check journal = (.error reason, after)) : ¬ check.Passes journal := by
  unfold Passes Yields
  rw [run]
  exact id

end Action

/-! ## Transactions -/

namespace Engine

variable {rules : Rules} {journal : Journal}

/-- In every state that an engine passes through, a transaction is valid exactly if its message
counts and the checks of the payload pass.  It then has done what the payload does and is recorded
with its details, and without being valid it has left no trace. -/
theorem processTransaction_verdict (reached : journal.state.Reached rules) {tx : Tx} {m : Message}
    (decoded : Message.decode tx.payload = .ok m) {payload : Payload} (kind : m.payload = payload)
    (block : Block) (position : Nat) {done : TxDetails → Journal → Prop}
    (does : (Execute.payload rules (contextOf block tx) payload).Does done
      (.start journal.state)) :
    let outcome := processTransaction rules block position tx journal
    (outcome.1.valid = true ↔
      rules.params.permits block.height payload.primaryProperty payload.messageType m.version =
        true ∧
      (Execute.payloadChecks rules (contextOf block tx) payload).Passes (.start journal.state)) ∧
    (outcome.1.valid = false → outcome.2 = journal) ∧
    (outcome.1.valid = true → ∃ details after,
      outcome.1 = { TxRecord.opening block position tx with
        payload := some payload, valid := true, details } ∧
      outcome.2.state = after.state ∧ done details after) := by
  intro outcome
  subst kind
  have start : (Journal.start journal.state).state.Sound := reached.sound
  have decided := Execute.message_decided rules (contextOf block tx) start reached.trading m
  have counts : (Execute.checks rules (contextOf block tx) m).Passes (.start journal.state) ↔ _ :=
    passes_guard_bind
  rcases processTransaction_read rules block position decoded reached.sound.canonical with
    ⟨reason, after, run, same⟩ | ⟨details, after, run, same⟩
  · have refused := not_passes_of_error (decided.of_error run)
    have invalid : outcome.1.valid = false := congrArg (TxRecord.valid ∘ Prod.fst) same
    rw [invalid]
    exact ⟨⟨nofun, fun passes => absurd (counts.mpr passes) refused⟩,
      fun _ => congrArg Prod.snd same, nofun⟩
  · have passes := counts.mp (passes_of_ok (decided.of_ok run).1)
    have valid : outcome.1.valid = true := congrArg (TxRecord.valid ∘ Prod.fst) same
    have whole : (Execute.message rules (contextOf block tx) m).Does done (.start journal.state) :=
      .reading (.guard _ _) fun _ _ => does
    rw [valid]
    exact ⟨⟨fun _ => passes, fun _ => rfl⟩, nofun, fun _ => ⟨details, after, congrArg Prod.fst same,
      congrArg (Journal.state ∘ Prod.snd) same, whole.of_ok run⟩⟩

end Engine
end TokenOverlay
