import TokenOverlay.Proofs.Isolation
import TokenOverlay.Proofs.Payments
import TokenOverlay.Proofs.References

namespace TokenOverlay

/-!
Sending all that an address has in one ecosystem.  The list of what is sent is
made before the first of the transfers, and every transfer changes the table
that the list was read from.  But each is of a property of its own: the
transfers add up to one posting, in which every property has moved once and by
the amount that is listed for it.
-/

open Attempt TokenOverlay.Action

/-! ## The list -/

namespace Ledger

variable {l : Ledger} {address : Address} {ecosystem : Ecosystem}

/-- What is listed is all that can be spent of a property of the ecosystem, if it is anything. -/
theorem mem_availableIn {move : PropertyId × Int} :
    move ∈ l.availableIn address ecosystem ↔
      Ecosystem.of move.1 = some ecosystem ∧ 0 < move.2 ∧
        move.2 = l.available address move.1 := by
  constructor
  · intro member
    rcases List.mem_map.mp member with ⟨⟨property, b⟩, kept, rfl⟩
    have stored := mem_balancesOf.mp (List.mem_filter.mp kept).1
    refine ⟨inside_of_mem_availableIn member, (of_mem_availableIn member).1, ?_⟩
    rw [available, balance_eq_read, stored]
    rfl
  · rintro ⟨inside, positive, all⟩
    rcases move with ⟨property, amount⟩
    dsimp only at inside positive all
    rw [available, balance_eq_read] at all
    cases stored : Cells.read l.balances address property with
    | none =>
        rw [stored] at all
        rw [all] at positive
        exact absurd positive (Int.lt_irrefl 0)
    | some b =>
        rw [stored, Option.getD_some] at all
        subst all
        refine List.mem_map.mpr ⟨(property, b), List.mem_filter.mpr ⟨?_, ?_⟩, rfl⟩
        · exact mem_balancesOf.mpr stored
        · exact Bool.and_eq_true_iff.mpr ⟨decide_eq_true inside, decide_eq_true positive⟩

theorem availableIn_ascending (l : Ledger) (address : Address) (ecosystem : Ecosystem) :
    (l.availableIn address ecosystem).Pairwise fun a b => a.1 < b.1 := by
  rw [availableIn, List.pairwise_map]
  exact (l.balancesOf_ascending address).filter _

/-- The list is empty exactly if nothing of the ecosystem can be spent. -/
theorem availableIn_ne_nil_iff : l.availableIn address ecosystem ≠ [] ↔
    ∃ property, Ecosystem.of property = some ecosystem ∧ 0 < l.available address property := by
  constructor
  · intro something
    rcases List.exists_mem_of_ne_nil _ something with ⟨move, member⟩
    rcases mem_availableIn.mp member with ⟨inside, positive, all⟩
    exact ⟨move.1, inside, all ▸ positive⟩
  · rintro ⟨property, inside, positive⟩
    have member : (property, l.available address property) ∈ l.availableIn address ecosystem :=
      mem_availableIn.mpr ⟨inside, positive, rfl⟩
    exact List.ne_nil_of_mem member

end Ledger

/-! ## The transfers -/

namespace Execute

variable {journal : Journal} {source target : Address}

/-- What some transfers move together. -/
def movesOf (source target : Address) (moves : List (PropertyId × Int)) :
    Address → PropertyId → Int :=
  (moves.map fun move => transferOf source target move.1 move.2).sum

theorem movesOf_cons (move : PropertyId × Int) (rest : List (PropertyId × Int)) :
    movesOf source target (move :: rest) =
      transferOf source target move.1 move.2 + movesOf source target rest :=
  List.sum_cons

theorem transferOf_of_ne {property q : PropertyId} (different : q ≠ property) (amount : Int)
    (address : Address) : transferOf source target property amount address q = 0 := by
  rw [transferOf, Pi.add_apply, Pi.add_apply, cell_apply, cell_apply,
    if_neg fun here => different here.2, if_neg fun here => different here.2, Int.add_zero]

/-- A property that is not listed does not move. -/
theorem movesOf_of_not_mem {moves : List (PropertyId × Int)} {q : PropertyId}
    (absent : q ∉ moves.map Prod.fst) (address : Address) :
    movesOf source target moves address q = 0 := by
  induction moves with
  | nil => rfl
  | cons move rest ih =>
      rw [List.map_cons, List.mem_cons, not_or] at absent
      rw [movesOf_cons, Pi.add_apply, Pi.add_apply, transferOf_of_ne absent.1, ih absent.2,
        Int.add_zero]

/-- A property that is listed once moves by the amount beside it. -/
theorem movesOf_of_mem {moves : List (PropertyId × Int)} (distinct : (moves.map Prod.fst).Nodup)
    {move : PropertyId × Int} (member : move ∈ moves) (address : Address) :
    movesOf source target moves address move.1 =
      transferOf source target move.1 move.2 address move.1 := by
  induction moves with
  | nil => cases member
  | cons first rest ih =>
      have apart := List.nodup_cons.mp distinct
      rw [movesOf_cons, Pi.add_apply, Pi.add_apply]
      rcases List.mem_cons.mp member with rfl | later
      · rw [movesOf_of_not_mem apart.1, Int.add_zero]
      · have different : move.1 ≠ first.1 := by
          intro same
          exact apart.1 (same ▸ List.mem_map_of_mem later)
        rw [transferOf_of_ne different, Int.zero_add, ih apart.2 later]

theorem moveAll_posts (id : PropertyId) (moves : List (PropertyId × Int)) :
    (moveAll source target moves).Does (fun _ after =>
      journal.state.Posted (movesOf source target moves) id 0 after.state ∧
        journal.state.Aside after.state) journal := by
  induction moves generalizing journal with
  | nil => exact ⟨.refl journal.state id, .refl journal.state⟩
  | cons move rest ih =>
      change ((do
        Ledger.debit source move.1 move.2
        Ledger.credit target move.1 move.2) >>= fun _ => moveAll source target rest).Does _ _
      rw [movesOf_cons]
      refine (transfer_posts source target id move.1 move.2).bind fun _ between first => ?_
      exact ih.mono fun _ _ later => ⟨first.1.trans later.1, first.2.trans later.2⟩

/-- Of every property of the ecosystem all that the source can spend moves, and nothing else. -/
theorem movesOf_availableIn {l : Ledger} {ecosystem : Ecosystem} {q : PropertyId}
    (nonneg : 0 ≤ l.available source q) (address : Address) :
    movesOf source target (l.availableIn source ecosystem) address q =
      if Ecosystem.of q = some ecosystem then
        transferOf source target q (l.available source q) address q
      else 0 := by
  by_cases listed : Ecosystem.of q = some ecosystem ∧ 0 < l.available source q
  · have member : (q, l.available source q) ∈ l.availableIn source ecosystem :=
      Ledger.mem_availableIn.mpr ⟨listed.1, listed.2, rfl⟩
    rw [if_pos listed.1]
    exact movesOf_of_mem (l.nodup_availableIn source ecosystem) member address
  · have absent : q ∉ (l.availableIn source ecosystem).map Prod.fst := by
      intro member
      rcases List.mem_map.mp member with ⟨move, kept, rfl⟩
      rcases Ledger.mem_availableIn.mp kept with ⟨inside, positive, all⟩
      exact listed ⟨inside, all ▸ positive⟩
    rw [movesOf_of_not_mem absent]
    split
    · next inside =>
        have nothing : l.available source q = 0 :=
          Int.le_antisymm (Int.not_lt.mp fun positive => listed ⟨inside, positive⟩) nonneg
        rw [nothing, transferOf, Int.neg_zero, cell_zero, cell_zero]
        rfl
    · rfl

end Execute

/-! ## Everything sent -/

/-- An address has sent all that it could spend in an ecosystem.  What it sends to itself has not
moved. -/
structure State.Swept (s : State) (sender recipient : Address) (ecosystem : Ecosystem)
    (after : State) : Prop where
  others : after = { s with ledger := after.ledger }
  reserved : ∀ address q, after.ledger.reserved address q = s.ledger.reserved address q
  elsewhere : ∀ q, Ecosystem.of q ≠ some ecosystem → ∀ address,
    after.ledger.balance address q = s.ledger.balance address q
  spared : ∀ address, address ≠ sender → address ≠ recipient → ∀ q,
    after.ledger.balance address q = s.ledger.balance address q
  emptied : sender ≠ recipient → ∀ q, Ecosystem.of q = some ecosystem →
    after.ledger.available sender q = 0
  grown : sender ≠ recipient → ∀ q, Ecosystem.of q = some ecosystem →
    after.ledger.available recipient q =
      s.ledger.available recipient q + s.ledger.available sender q
  own : sender = recipient → ∀ address q,
    after.ledger.balance address q = s.ledger.balance address q

namespace Execute

theorem transferOf_self (source target : Address) (property : PropertyId) (amount : Int)
    (address : Address) : transferOf source target property amount address property =
      (if address = source then -amount else 0) + if address = target then amount else 0 := by
  rw [transferOf, Pi.add_apply, Pi.add_apply, cell_apply, cell_apply]
  simp only [and_true]

end Execute

namespace State

variable {s after : State} {sender recipient : Address} {ecosystem : Ecosystem} {id : PropertyId}

/-- Once all that is listed has moved, everything has been sent. -/
theorem Posted.swept (nonneg : ∀ q, 0 ≤ s.ledger.available sender q)
    (posted : s.Posted
      (Execute.movesOf sender recipient (s.ledger.availableIn sender ecosystem)) id 0 after)
    (aside : s.Aside after) : s.Swept sender recipient ecosystem after := by
  have moved : ∀ address q, Ecosystem.of q = some ecosystem →
      after.ledger.available address q = s.ledger.available address q +
        ((if address = sender then -s.ledger.available sender q else 0) +
          if address = recipient then s.ledger.available sender q else 0) := by
    intro address q inside
    rw [posted.available, Execute.movesOf_availableIn (nonneg q), if_pos inside,
      Execute.transferOf_self]
  have still : ∀ address q,
      Execute.movesOf sender recipient (s.ledger.availableIn sender ecosystem) address q = 0 →
        after.ledger.balance address q = s.ledger.balance address q := by
    intro address q nothing
    rw [posted.balance, nothing, Int.add_zero]
    rfl
  constructor
  · rw [posted.others, aside.registry]
  · exact posted.reserved
  · intro q outside address
    apply still
    rw [Execute.movesOf_availableIn (nonneg q), if_neg outside]
  · intro address notSender notRecipient q
    apply still
    rw [Execute.movesOf_availableIn (nonneg q), Execute.transferOf_self, if_neg notSender,
      if_neg notRecipient, Int.add_zero, ite_self]
  · intro different q inside
    rw [moved sender q inside, if_pos rfl, if_neg different, Int.add_zero, Int.add_right_neg]
  · intro different q inside
    rw [moved recipient q inside, if_neg (Ne.symm different), if_pos rfl, Int.zero_add]
  · intro same address q
    apply still
    rw [Execute.movesOf_availableIn (nonneg q), Execute.transferOf_self, same]
    split
    · split
      · exact Int.add_left_neg _
      · rfl
    · rfl

end State

namespace Execute

variable {rules : Rules} {tx : TxContext} {journal : Journal}

/-- The transfers that a message lists. -/
def subSendsOf (moves : List (PropertyId × Int)) : List SubSend :=
  moves.map fun move => ⟨move.1, move.2⟩

theorem mem_subSendsOf {moves : List (PropertyId × Int)} {send : SubSend} :
    send ∈ subSendsOf moves ↔ (send.propertyId, send.amount) ∈ moves := by
  constructor
  · intro member
    rcases List.mem_map.mp member with ⟨move, listed, rfl⟩
    exact listed
  · intro listed
    exact List.mem_map.mpr ⟨_, listed, rfl⟩

/-- A message that sends all lists what it sends, and has sent it. -/
theorem sendAll_sweeps (nonneg : ∀ q, 0 ≤ journal.state.ledger.available tx.sender q)
    (byte : UInt8) :
    (sendAll tx byte).Does (fun details after => ∃ ecosystem recipient,
      Ecosystem.ofByte byte = some ecosystem ∧ tx.reference = some recipient ∧
        details = { TxDetails.none with
          subSends := subSendsOf (journal.state.ledger.availableIn tx.sender ecosystem) } ∧
        journal.state.Swept tx.sender recipient ecosystem after.state) journal := by
  refine .reading (.require _ _) fun ecosystem known => ?_
  refine .reading (.require _ _) fun recipient named => .reading .state fun s read => ?_
  cases read
  refine .reading (.guard _ _) fun _ _ => ?_
  refine (moveAll_posts 0 _).bind fun _ after effect => ?_
  exact ⟨ecosystem, recipient, require_ok known, require_ok named, rfl,
    effect.1.swept nonneg effect.2⟩

theorem passes_sendAll (byte : UInt8) :
    (payloadChecks rules tx (.sendAll byte)).Passes journal ↔
      (byte = 1 ∨ byte = 2) ∧ tx.reference.isSome = true ∧
        ∃ property, Ecosystem.of property = Ecosystem.ofByte byte ∧
          0 < journal.state.ledger.available tx.sender property := by
  have known : (byte = 1 ∨ byte = 2) ↔ ∃ ecosystem, Ecosystem.ofByte byte = some ecosystem := by
    unfold Ecosystem.ofByte
    split <;> simp_all
  rw [payloadChecks, passes_require_bind, known, Option.isSome_iff_exists]
  simp only [referenceOf, passes_require_bind, passes_state, passes_guard,
    Ledger.availableIn_ne_nil_iff]
  constructor
  · rintro ⟨ecosystem, same, recipient, named, property, inside, positive⟩
    exact ⟨⟨ecosystem, same⟩, ⟨recipient, named⟩, property, inside.trans same.symm, positive⟩
  · rintro ⟨⟨ecosystem, same⟩, ⟨recipient, named⟩, property, inside, positive⟩
    exact ⟨ecosystem, same, recipient, named, property, inside.trans same, positive⟩

end Execute

namespace Engine

variable {rules : Rules} {journal : Journal}

/-- In every state that an engine passes through, a message that sends all is valid exactly if it
counts in its block, names an ecosystem and a recipient, and the sender can spend something of the
ecosystem.  It then lists every such property once, in ascending order and with all that the sender
could spend of it, and that is what it has sent. -/
theorem processTransaction_sendsAll (reached : journal.state.Reached rules) {tx : Tx} {m : Message}
    (decoded : Message.decode tx.payload = .ok m) {byte : UInt8}
    (kind : m.payload = .sendAll byte) (block : Block) (position : Nat) :
    let s := journal.state
    let outcome := processTransaction rules block position tx journal
    (outcome.1.valid = true ↔
      rules.params.permits block.height byte.toUInt32 4 m.version = true ∧
      (byte = 1 ∨ byte = 2) ∧ tx.reference.isSome = true ∧
      ∃ property, Ecosystem.of property = Ecosystem.ofByte byte ∧
        0 < s.ledger.available tx.sender property) ∧
    (outcome.1.valid = true → ∃ ecosystem recipient sends,
      Ecosystem.ofByte byte = some ecosystem ∧ tx.reference = some recipient ∧
      outcome.1 = { TxRecord.opening block position tx with
        payload := some (.sendAll byte)
        valid := true
        details := { TxDetails.none with subSends := sends } } ∧
      (sends.Pairwise fun a b => a.propertyId < b.propertyId) ∧
      (∀ send, send ∈ sends ↔ Ecosystem.of send.propertyId = some ecosystem ∧ 0 < send.amount ∧
        send.amount = s.ledger.available tx.sender send.propertyId) ∧
      s.Swept tx.sender recipient ecosystem outcome.2.state) ∧
    (outcome.1.valid = false → outcome.2 = journal) := by
  intro s outcome
  have nonneg : ∀ q, 0 ≤ (Journal.start s).state.ledger.available (contextOf block tx).sender q :=
    fun q => (reached.sound.nonneg tx.sender q).1
  rcases processTransaction_verdict reached decoded kind block position
    (Execute.sendAll_sweeps nonneg byte) with ⟨verdict, untouched, result⟩
  refine ⟨verdict.trans ?_, fun valid => ?_, untouched⟩
  · rw [Execute.passes_sendAll]
    exact Iff.rfl
  · rcases result valid with
      ⟨_, after, noted, state, ecosystem, recipient, known, named, rfl, swept⟩
    rw [← state] at swept
    refine ⟨ecosystem, recipient, _, known, named, noted, ?_, fun send => ?_, swept⟩
    · rw [Execute.subSendsOf, List.pairwise_map]
      exact s.ledger.availableIn_ascending tx.sender ecosystem
    · exact Execute.mem_subSendsOf.trans Ledger.mem_availableIn

/-- A block in which an owner issues a property in each ecosystem, and offers some of what it had
before. -/
def stocking : Block := ⟨0, "x", "", 0, [
  ⟨"i", "a", none, Message.encode
    (Payload.issueFixed ⟨1, 1, 0, ⟨"", "", "n", "", ""⟩⟩ 7).toMessage⟩,
  ⟨"j", "a", none, Message.encode
    (Payload.issueFixed ⟨2, 1, 0, ⟨"", "", "m", "", ""⟩⟩ 3).toMessage⟩,
  ⟨"o", "a", none, Message.encode (Payload.sellOffer 1 4 8 10 0 .new).toMessage⟩]⟩

def stocked : Journal :=
  (processFrom Session.twoOwners stocking 0
    (prelude stocking (.start (Session.run Session.twoOwners []).engine.state)).2
    stocking.transactions).2

/-- The owner sends another one all that it has in the main ecosystem. -/
def clearing : Tx := ⟨"u", "a", some "b", Message.encode (Payload.sendAll 1).toMessage⟩

theorem processTransaction_sendsAll_clearing :
    let outcome := processTransaction Session.twoOwners stocking 3 clearing stocked
    stocked.state.Reached Session.twoOwners ∧ outcome.1.valid = true ∧
      ⟨1, 6⟩ ∈ outcome.1.details.subSends ∧ ⟨3, 7⟩ ∈ outcome.1.details.subSends ∧
      outcome.2.state.ledger.available "a" 1 = 0 ∧ outcome.2.state.ledger.reserved "a" 1 = 4 ∧
      outcome.2.state.ledger.available "b" 1 = 11 ∧ outcome.2.state.ledger.available "a" 3 = 0 ∧
      outcome.2.state.ledger.balance "a" 2147483651 = ⟨3, 0⟩ := by
  have reached : stocked.state.Reached Session.twoOwners :=
    .amid [] stocking stocking.transactions
  have decoded : Message.decode clearing.payload = .ok ⟨0, .sendAll 1⟩ := by decide +kernel
  have spendable : stocked.state.ledger.available "a" 1 = 6 ∧
      stocked.state.ledger.available "a" 3 = 7 ∧ stocked.state.ledger.available "b" 1 = 5 := by
    decide +kernel
  have offered : stocked.state.ledger.reserved "a" 1 = 4 := by decide +kernel
  have elsewhere : stocked.state.ledger.balance "a" 2147483651 = ⟨3, 0⟩ := by decide +kernel
  have sendsAll := processTransaction_sendsAll reached decoded rfl stocking 3
  dsimp only at sendsAll ⊢
  generalize processTransaction Session.twoOwners stocking 3 clearing stocked = outcome
    at sendsAll ⊢
  rcases sendsAll with ⟨verdict, result, _⟩
  have valid : outcome.1.valid = true :=
    verdict.mpr ⟨by decide +kernel, Or.inl rfl, rfl, 1, by decide, by decide +kernel⟩
  rcases result valid with ⟨ecosystem, recipient, sends, known, named, record, _, listed, swept⟩
  cases known
  cases named
  have reported : outcome.1.details.subSends = sends :=
    congrArg (TxDetails.subSends ∘ TxRecord.details) record
  have different : clearing.sender ≠ "b" := by decide
  rw [reported]
  refine ⟨reached, valid, ?_, ?_, ?_, ?_, ?_, ?_, ?_⟩
  · exact (listed _).mpr ⟨by decide, by decide, spendable.1.symm⟩
  · exact (listed _).mpr ⟨by decide, by decide, spendable.2.1.symm⟩
  · exact swept.emptied different 1 (by decide)
  · exact (swept.reserved "a" 1).trans offered
  · rw [swept.grown different 1 (by decide), spendable.2.2]
    exact congrArg (5 + ·) spendable.1
  · exact swept.emptied different 3 (by decide)
  · exact (swept.elsewhere 2147483651 (by decide) "a").trans elsewhere

end Engine
end TokenOverlay
