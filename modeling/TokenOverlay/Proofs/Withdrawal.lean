import TokenOverlay.Proofs.Gating
import TokenOverlay.Proofs.Messages
import TokenOverlay.Proofs.References

namespace TokenOverlay

/-!
Getting reserved tokens back.  An offer is withdrawn by the same kind of message
that opens it, and so the message has to count in its block, and the property to
be tradeable there.  The first is never in the way: once offers of a property
count they do so for good.  The second is, for what trades only while a feature
is on: nothing happens to the offers there are when the feature is switched off.
-/

open Attempt TokenOverlay.Action

/-! ## The blocks from which on messages count -/

namespace ConsensusParams

/-- The entries of a message type, one for each version. -/
def entriesOf (params : ConsensusParams) (type : UInt16) : List Restriction :=
  params.restrictions.filter fun entry => entry.type = type

theorem mem_entriesOf {params : ConsensusParams} {type : UInt16} {entry : Restriction} :
    entry ∈ params.entriesOf type ↔ entry ∈ params.restrictions ∧ entry.type = type := by
  rw [entriesOf, List.mem_filter, decide_eq_true_eq]

/-- What counts in a block counts in every later one. -/
theorem permits_mono {params : ConsensusParams} {low high : Nat} (later : low ≤ high)
    {property : PropertyId} {type version : UInt16}
    (counts : params.permits low property type version = true) :
    params.permits high property type version = true := by
  rcases permits_iff.mp counts with ⟨entry, listed, sameType, sameVersion, reached⟩
  exact permits_iff.mpr ⟨entry, listed, sameType, sameVersion,
    reached.imp_right fun low => low.trans later⟩

theorem entriesOf_withEnableBlock (params : ConsensusParams) (moved type : UInt16) (block : Nat) :
    (params.withEnableBlock moved block).entriesOf type =
      (params.entriesOf type).map fun entry =>
        if entry.type = moved then { entry with block } else entry := by
  unfold entriesOf withEnableBlock
  rw [List.filter_map]
  congr 1
  apply List.filter_congr
  intro entry _
  simp only [Function.comp_apply]
  split <;> rfl

/-- The rules of a network, with the changes that can be made to them. -/
inductive Configured : ConsensusParams → Prop
  | network (network : Network) : Configured (.ofNetwork network)
  | enabled {params : ConsensusParams} (configured : Configured params) (type : UInt16)
      (block : Nat) : Configured (params.withEnableBlock type block)
  | limited {params : ConsensusParams} (configured : Configured params)
      (genesisBlock minActivationBlocks maxActivationBlocks : Nat) :
      Configured { params with genesisBlock, minActivationBlocks, maxActivationBlocks }

/-- Both versions of the message that opens and withdraws offers count from the same block on. -/
theorem Configured.entriesOf_sellOffer {params : ConsensusParams} (configured : params.Configured) :
    ∃ first, params.entriesOf 20 = [⟨20, 0, first⟩, ⟨20, 1, first⟩] := by
  induction configured with
  | network network =>
      cases network with
      | mainnet => exact ⟨290630, rfl⟩
      | testnet => exact ⟨0, rfl⟩
      | regtest => exact ⟨0, rfl⟩
  | enabled _ type block ih =>
      -- The block of a type is moved in all its versions, so the two stay together.
      rcases ih with ⟨first, entries⟩
      rw [entriesOf_withEnableBlock, entries]
      by_cases same : (20 : UInt16) = type
      · exact ⟨block, by simp [same]⟩
      · exact ⟨first, by simp [same]⟩
  | limited _ _ _ _ ih => exact ih

/-- If one version of the message counts, so does every version that can be read. -/
theorem Configured.permits_sellOffer {params : ConsensusParams} (configured : params.Configured)
    {height : Nat} {property : PropertyId} {version other : UInt16}
    (counts : params.permits height property 20 version = true)
    (readable : other ∈ ([0, 1] : List UInt16)) :
    params.permits height property 20 other = true := by
  rcases configured.entriesOf_sellOffer with ⟨first, entries⟩
  rcases permits_iff.mp counts with ⟨entry, listed, sameType, _, reached⟩
  have start : entry.block = first := by
    have member := mem_entriesOf.mpr ⟨listed, sameType⟩
    rw [entries] at member
    rcases List.mem_pair.mp member with rfl | rfl <;> rfl
  have present : ⟨20, other, first⟩ ∈ params.entriesOf 20 := by
    rw [entries]
    rcases List.mem_pair.mp readable with rfl | rfl
    · exact List.mem_cons_self
    · exact List.mem_cons_of_mem _ List.mem_cons_self
  exact permits_iff.mpr ⟨_, (mem_entriesOf.mp present).1, rfl, rfl, start ▸ reached⟩

end ConsensusParams

/-! ## Offers are of properties whose offers count -/

namespace OrderBook

/-- All offers are of properties of which something holds. -/
def Only (holds : PropertyId → Prop) (book : OrderBook) : Prop :=
  ∀ seller property offer, book.get? seller property = some offer → holds property

variable {holds : PropertyId → Prop} {book : OrderBook}

theorem Only.mono {weaker : PropertyId → Prop} (only : book.Only holds)
    (weakens : ∀ property, holds property → weaker property) : book.Only weaker :=
  fun seller property offer found => weakens property (only seller property offer found)

theorem Only.write (only : book.Only holds) {seller : Address} {property : PropertyId}
    {next : Option Offer} (written : next.isSome → holds property) :
    (book.write seller property next).Only holds := by
  intro other q offer found
  rw [get?_write] at found
  split at found
  · next here =>
      rw [here.2]
      exact written (Option.isSome_iff_exists.mpr ⟨offer, found⟩)
  · exact only other q offer found

end OrderBook

/-- Offers come to a property only by a message that counts for it. -/
theorem Execute.message_only {holds : PropertyId → Prop} (rules : Rules) (tx : TxContext)
    (m : Message) (opens : ∀ property, (∃ version,
      rules.params.permits tx.block property 20 version = true) → holds property) :
    (Condition.onOffers (OrderBook.Only holds)).Concludes (Execute.message rules tx m) := by
  by_cases allowed : permitted rules tx m = true
  · refine (Condition.onOffers_plain _ tx).message rules ?_ ?_
    · intro property amount desired timeLimit minFee action kind
      have counts : rules.params.permits tx.block property 20 m.version = true := by
        unfold permitted at allowed
        rw [kind] at allowed
        exact allowed
      exact Condition.onOffers_sellOffer
        (fun book _ only _ => only.write fun _ => opens property ⟨m.version, counts⟩)
        (fun book only => only.write nofun) amount desired timeLimit minFee action
    · intro property amount _
      refine Condition.onOffers_acceptOffer (fun _ _ book only => only.write nofun) ?_ amount
      exact fun seller _ before old _ only found _ book held =>
        held.write fun _ => only seller property old found
  · exact .guard_bind fun passed => absurd passed allowed

namespace Engine

/-- Messages that open offers of the property counted in a block of the chain. -/
def OffersCounted (rules : Rules) (chain : List Block) (property : PropertyId) : Prop :=
  ∃ block ∈ chain, ∃ version, rules.params.permits block.height property 20 version = true

/-- All offers are of properties whose offers counted at some time, on the active chain. -/
def countedOffers (rules : Rules) : Invariant rules where
  allowed _ := True
  holds chain s := s.orders.Only (OffersCounted rules chain)
  genesis := by
    refine genesisState_keeps (fun s => s.orders.Only _) ?_ (fun _ _ _ _ only => only)
      (fun _ _ _ only => only) _
    intro seller property offer found
    cases found
  block := by
    intro block chain s _ sound only
    have later : s.orders.Only (OffersCounted rules (block :: chain)) := by
      refine only.mono ?_
      rintro property ⟨earlier, member, counted⟩
      exact ⟨earlier, List.mem_cons_of_mem block member, counted⟩
    refine processFrom_keeps rules block
      (fun s => s.orders.Only (OffersCounted rules (block :: chain))) 0
      (prelude_sound block sound) ?_ ?_
    · rw [orders_prelude]
      exact later
    · intro tx _ m _ between formed held
      have opens : ∀ property, (∃ version,
          rules.params.permits block.height property 20 version = true) →
            OffersCounted rules (block :: chain) property :=
        fun _ counts => ⟨block, List.mem_cons_self, counts⟩
      exact (Execute.message_only rules (contextOf block tx) m opens).from_sound formed held
  forget := fun _ _ _ _ _ _ _ only => only

end Engine

/-! ## Withdrawing an offer -/

/-- So much of what a seller has reserved for an offer can be spent again, the offer is gone, and
nothing else is different. -/
structure State.Withdrawn (s : State) (seller : Address) (property : PropertyId) (amount : Int)
    (after : State) : Prop where
  others : after =
    { s with ledger := after.ledger, orders := s.orders.write seller property none }
  balance : ∀ other q, after.ledger.balance other q =
    if other = seller ∧ q = property then
      ⟨s.ledger.available seller property + amount, s.ledger.reserved seller property - amount⟩
    else s.ledger.balance other q

/-- Whether offers of a property can be opened, changed and withdrawn. -/
def State.Tradeable (s : State) (property : PropertyId) : Prop :=
  property = Ecosystem.mainToken ∨ property = Ecosystem.testToken ∨
    s.features.isActive FeatureId.freeExchange = true

/-- What is left of an offer can always be withdrawn. -/
theorem OrderBook.cancel_succeeds {journal : Journal} {seller : Address} {property : PropertyId}
    {offer : Offer} (sound : journal.state.Sound)
    (capped : journal.state.registry.supplyOf property ≤ maxTokens)
    (found : journal.state.orders.get? seller property = some offer) :
    (cancel seller property).Yields
      (fun _ after => journal.state.Withdrawn seller property offer.amountRemaining after.state)
      (fun _ _ => False) journal := by
  refine yields_bind.mpr (yields_existing.mpr ⟨fun other same => ?_, fun missing => ?_⟩)
  · rw [found] at same
    cases same
    refine (release_succeeds sound capped found).bind ?_ fun _ _ impossible => impossible
    rintro _ between ⟨_, released⟩
    refine ⟨?_, released.balance⟩
    exact congrArg (fun s : State => { s with orders := s.orders.write seller property none })
      released.others
  · rw [found] at missing
    cases missing

namespace Execute

variable (rules : Rules) (tx : TxContext) {journal : Journal} {property : PropertyId}
  {offer : Offer}

theorem yields_checkTradeable {accepted : Unit → Journal → Prop}
    {failed : Rejection → Journal → Prop} :
    (checkTradeable property).Yields accepted failed journal ↔
      (journal.state.Tradeable property → accepted () journal) ∧
        (¬ journal.state.Tradeable property → failed (.propertyNotTradeable property) journal) := by
  rw [checkTradeable, yields_bind, yields_state, yields_guard]
  rfl

/-- The message that withdraws an offer that is open succeeds exactly if it counts and the
property is tradeable. -/
theorem message_withdraws (sound : journal.state.Sound)
    (capped : journal.state.registry.supplyOf property ≤ maxTokens)
    (registered : journal.state.registry.exists? property = true)
    (found : journal.state.orders.get? tx.sender property = some offer) {m : Message}
    {amount desired : UInt64} {timeLimit : UInt8} {minFee : UInt64}
    (kind : m.payload = .sellOffer property amount desired timeLimit minFee .cancel) :
    (message rules tx m).Yields
      (fun _ after => permitted rules tx m = true ∧ journal.state.Tradeable property ∧
        journal.state.Withdrawn tx.sender property offer.amountRemaining after.state)
      (fun reason _ =>
        (permitted rules tx m = false ∧ reason = .typeNotPermitted 20 m.version) ∨
        permitted rules tx m = true ∧ ¬ journal.state.Tradeable property ∧
          reason = .propertyNotTradeable property) journal := by
  rcases Registry.exists?_iff_get?.mp registered with ⟨p, known⟩
  refine yields_bind.mpr (yields_guard.mpr ⟨fun counts => ?_, fun early => ?_⟩)
  · rw [kind]
    refine yields_bind.mpr (Registry.yields_lookup.mpr ⟨fun _ _ => ?_, fun missing => ?_⟩)
    · refine yields_bind.mpr (yields_checkTradeable.mpr ⟨fun free => ?_, fun locked => ?_⟩)
      · refine (OrderBook.cancel_succeeds sound capped found).bind ?_
          fun _ _ impossible => impossible.elim
        exact fun _ after withdrawn => ⟨counts, free, withdrawn⟩
      · exact Or.inr ⟨counts, locked, rfl⟩
    · rw [known] at missing
      cases missing
  · rw [kind]
    exact Or.inl ⟨Bool.eq_false_of_not_eq_true early, rfl⟩

end Execute

namespace Engine

/-- A transaction was rejected for a reason, and left no trace. -/
def Rejects (outcome : TxRecord × Journal) (reason : Rejection) (journal : Journal) : Prop :=
  outcome.1.valid = false ∧ outcome.1.invalidReason = some reason.message ∧ outcome.2 = journal

variable {rules : Rules} {journal : Journal} {property : PropertyId} {offer : Offer}

/-- In every state that an engine passes through, the seller of an open offer withdraws it if the
message counts and the property is tradeable, and is told what was missing otherwise. -/
theorem processTransaction_withdraws (reached : journal.state.Reached rules) {tx : Tx}
    (found : journal.state.orders.get? tx.sender property = some offer) {m : Message}
    (decoded : Message.decode tx.payload = .ok m) {amount desired : UInt64} {timeLimit : UInt8}
    {minFee : UInt64}
    (kind : m.payload = .sellOffer property amount desired timeLimit minFee .cancel)
    (block : Block) (position : Nat) :
    let outcome := processTransaction rules block position tx journal
    let counts := rules.params.permits block.height property 20 m.version
    (counts = true → journal.state.Tradeable property → outcome.1.valid = true ∧
      journal.state.Withdrawn tx.sender property offer.amountRemaining outcome.2.state) ∧
    (counts = true → ¬ journal.state.Tradeable property →
      Rejects outcome (.propertyNotTradeable property) journal) ∧
    (counts = false → Rejects outcome (.typeNotPermitted 20 m.version) journal) := by
  intro outcome counts
  have registered := reached.sound.registered_of_offer reached.offering found
  have start : (Journal.start journal.state).state.Sound := reached.sound
  have withdraws := Execute.message_withdraws rules (contextOf block tx) start
    (reached.trading.registry.capped property) registered found kind
  have agree : Execute.permitted rules (contextOf block tx) m = counts := by
    unfold Execute.permitted
    rw [kind]
    rfl
  rw [agree] at withdraws
  rcases processTransaction_read rules block position decoded reached.sound.canonical with
    ⟨reason, after, run, same⟩ | ⟨details, after, run, same⟩
  · have refused : ∀ other, reason = other → Rejects outcome other journal := by
      rintro _ rfl
      exact ⟨congrArg (TxRecord.valid ∘ Prod.fst) same,
        congrArg (TxRecord.invalidReason ∘ Prod.fst) same, congrArg Prod.snd same⟩
    rcases withdraws.of_error run with ⟨early, cause⟩ | ⟨counted, locked, cause⟩
    · rw [early]
      exact ⟨nofun, nofun, fun _ => refused _ cause⟩
    · rw [counted]
      exact ⟨fun _ free => absurd free locked, fun _ _ => refused _ cause, nofun⟩
  · rcases withdraws.of_ok run with ⟨counted, free, withdrawn⟩
    rw [counted]
    refine ⟨fun _ _ => ⟨congrArg (TxRecord.valid ∘ Prod.fst) same, ?_⟩,
      fun _ locked => absurd free locked, nofun⟩
    rw [show outcome.2 = _ from congrArg Prod.snd same]
    exact withdrawn

/-- The record of a transaction has the place of the transaction in its block. -/
theorem records_processFrom_append (rules : Rules) (block : Block) (position : Nat)
    (journal : Journal) (done : List Tx) (tx : Tx) (later : List Tx) :
    (processFrom rules block position journal (done ++ tx :: later)).1[done.length]? =
      some (processTransaction rules block (position + done.length) tx
        (processFrom rules block position journal done).2).1 := by
  induction done generalizing position journal with
  | nil => rfl
  | cons first rest ih =>
      have there := ih (position + 1) (processTransaction rules block position first journal).2
      rw [Nat.add_assoc, Nat.add_comm 1] at there
      exact there

end Engine

/-! ## Runs -/

namespace Session

variable {rules : Rules} {calls : List Call} {seller : Address} {property : PropertyId}
  {offer : Offer}

/-- An offer that is open is still there for the seller in the next block, as long as no
transaction has touched it. -/
theorem run_keeps_offer {block : Block} {done : List Tx}
    (opened : (run rules calls).engine.state.orders.get? seller property = some offer)
    (untouched : ∀ tx ∈ done, tx.touches seller property = false) :
    (Engine.processFrom rules block 0
      (Engine.prelude block (.start (run rules calls).engine.state)).2
        done).2.state.orders.get? seller property = some offer := by
  have sound : (Engine.prelude block (.start (run rules calls).engine.state)).2.state.Sound :=
    Engine.prelude_sound block (State.Reached.idle calls).sound
  rw [Engine.processFrom_keeps_offer rules block 0 untouched sound, Engine.orders_prelude]
  exact opened

/-- Whoever has an open offer can send a message in the next block that withdraws it. -/
theorem run_permits_withdrawal (configured : rules.params.Configured)
    (opened : (run rules calls).engine.state.orders.get? seller property = some offer)
    {block : Block} (fits : (run rules calls).engine.misfit? block = none) {version : UInt16}
    (readable : version ∈ ([0, 1] : List UInt16)) :
    rules.params.permits block.height property 20 version = true := by
  have follows := run_follows (Engine.countedOffers rules) calls fun _ _ => trivial
  have linked := follows.linked_of_fits fits
  rcases follows.unwinds.holds seller property offer opened with
    ⟨earlier, member, other, counted⟩
  -- The message that opened the offer counted below the next block, maybe in another version.
  have lower := follows.linked.height_lt member
  rw [← linked.1] at lower
  exact configured.permits_sellOffer
    (ConsensusParams.permits_mono (Nat.le_of_lt lower) counted) readable

/-- After any calls, whoever has an open offer can withdraw it in the next block, before any other
transaction touches it, if its property is tradeable there: all that is left of the offer can be
spent again, and nothing else changes.  Otherwise the message is rejected and the offer stays.
That the message itself does not count yet is no reason under the rules of a network. -/
theorem run_withdraws_offers (rules : Rules) (calls : List Call) {seller : Address}
    {property : PropertyId} {offer : Offer}
    (opened : (run rules calls).engine.state.orders.get? seller property = some offer)
    {block : Block} (fits : (run rules calls).engine.misfit? block = none)
    {done later : List Tx} {tx : Tx} (placed : block.transactions = done ++ tx :: later)
    (untouched : ∀ other ∈ done, other.touches seller property = false)
    (own : tx.sender = seller) {m : Message} (decoded : Message.decode tx.payload = .ok m)
    {amount desired : UInt64} {timeLimit : UInt8} {minFee : UInt64}
    (kind : m.payload = .sellOffer property amount desired timeLimit minFee .cancel) :
    let e := (run rules calls).engine
    let before := (Engine.processFrom rules block 0 (Engine.prelude block (.start e.state)).2
      done).2
    let outcome := Engine.processTransaction rules block done.length tx before
    let counts := rules.params.permits block.height property 20 m.version
    (Engine.processBlock rules e.state block).1[done.length]? = some outcome.1 ∧
    (rules.params.Configured → counts = true) ∧
    (counts = true → before.state.Tradeable property → outcome.1.valid = true ∧
      before.state.Withdrawn seller property offer.amountRemaining outcome.2.state) ∧
    (counts = true → ¬ before.state.Tradeable property →
      Engine.Rejects outcome (.propertyNotTradeable property) before) ∧
    (counts = false → Engine.Rejects outcome (.typeNotPermitted 20 m.version) before) := by
  intro e before outcome counts
  subst own
  have reached : before.state.Reached rules := .amid calls block done
  have found : before.state.orders.get? tx.sender property = some offer :=
    run_keeps_offer opened untouched
  refine ⟨?_, fun configured => ?_, ?_⟩
  · rw [Engine.processBlock, placed, Engine.records_processFrom_append, Nat.zero_add]
  · have readable : m.version ∈ m.payload.versions := (Message.decode_eq_ok.mp decoded).1
    rw [kind] at readable
    exact run_permits_withdrawal configured opened fits readable
  · exact Engine.processTransaction_withdraws reached found decoded kind block done.length

/-- Two owners of the main token, who may switch features with a notice of one block. -/
def traders : Rules :=
  { switchers with params := { switchers.params with minActivationBlocks := 1 } }

/-- A property is issued, and offered as soon as all properties are tradeable. -/
def tokenOffer : List Call := [
  .apply ⟨0, "0", "", 0, [
    ⟨"i", "a", none, Message.encode
      (Payload.issueFixed ⟨1, 1, 0, ⟨"", "", "n", "", ""⟩⟩ 10).toMessage⟩,
    ⟨"f", "a", none, Message.encode (Payload.activate 15 1 0).toMessage⟩]⟩,
  .apply ⟨1, "1", "0", 0, [
    ⟨"o", "a", none, Message.encode (Payload.sellOffer 3 4 5 10 0 .new).toMessage⟩]⟩]

/-- The offer is withdrawn. -/
def withdrawal : Tx :=
  ⟨"w", "a", none, Message.encode (Payload.sellOffer 3 0 0 0 0 .cancel).toMessage⟩

/-- The next block, in which a payment comes before the withdrawal. -/
def withdrawing : Block :=
  ⟨2, "2", "1", 0, [
    ⟨"p", "b", some "a", Message.encode (Payload.simpleSend 1 2).toMessage⟩, withdrawal]⟩

theorem run_withdraws_offers_traded :
    ((run traders tokenOffer).engine.state.orders.get? "a" 3).map Offer.amountRemaining = some 4 ∧
    (run traders tokenOffer).engine.misfit? withdrawing = none ∧
    (∀ other ∈ withdrawing.transactions.take 1, other.touches "a" 3 = false) ∧
    Message.decode withdrawal.payload = .ok ⟨1, .sellOffer 3 0 0 0 0 .cancel⟩ ∧
    traders.params.Configured ∧
    ((Engine.processBlock traders (run traders tokenOffer).engine.state withdrawing).1[1]?).map
      TxRecord.valid = some true := by
  have remaining : ((run traders tokenOffer).engine.state.orders.get? "a" 3).map
      Offer.amountRemaining = some 4 := by decide +kernel
  have fits : (run traders tokenOffer).engine.misfit? withdrawing = none := by decide +kernel
  have placed : withdrawing.transactions =
      withdrawing.transactions.take 1 ++ withdrawal :: [] := rfl
  have untouched : ∀ other ∈ withdrawing.transactions.take 1, other.touches "a" 3 = false := by
    decide +kernel
  have decoded : Message.decode withdrawal.payload = .ok ⟨1, .sellOffer 3 0 0 0 0 .cancel⟩ := by
    decide +kernel
  have configured : traders.params.Configured := .limited (.network .regtest) 0 1 10
  have free : (Engine.processFrom traders withdrawing 0
      (Engine.prelude withdrawing (.start (run traders tokenOffer).engine.state)).2
        (withdrawing.transactions.take 1)).2.state.Tradeable 3 :=
    Or.inr (Or.inr (by decide +kernel))
  rcases Option.map_eq_some_iff.mp remaining with ⟨offer, opened, _⟩
  rcases run_withdraws_offers traders tokenOffer opened fits placed untouched rfl decoded rfl with
    ⟨recorded, counts, withdraws, _⟩
  have valid := (withdraws (counts configured) free).1
  refine ⟨remaining, fits, untouched, decoded, configured, ?_⟩
  exact Option.map_eq_some_iff.mpr ⟨_, recorded, valid⟩

/-- The feature is switched off again. -/
def closedExchange : List Call := tokenOffer ++ [
  .apply ⟨2, "2", "1", 0, [⟨"d", "b", none, Message.encode (Payload.deactivate 15).toMessage⟩]⟩]

/-- An offer that outlives the feature cannot be withdrawn. -/
theorem run_locks_offer :
    let e := (run traders closedExchange).engine
    (e.state.orders.get? "a" 3).map Offer.amountRemaining = some 4 ∧
    e.misfit? ⟨3, "3", "2", 0, [withdrawal]⟩ = none ∧
    Message.decode withdrawal.payload = .ok ⟨1, .sellOffer 3 0 0 0 0 .cancel⟩ ∧
    ((e.extend ⟨3, "3", "2", 0, [withdrawal]⟩).1.record? "w").map
      (fun record => (record.valid, record.invalidReason)) =
        some (false, some "Property 3 is not tradeable on the distributed exchange") ∧
    e.balanceOf "a" 3 = ⟨6, 4⟩ ∧
    (e.extend ⟨3, "3", "2", 0, [withdrawal]⟩).1.balanceOf "a" 3 = ⟨6, 4⟩ := by
  decide +kernel

end Session

end TokenOverlay
