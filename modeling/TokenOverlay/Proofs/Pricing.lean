import TokenOverlay.Proofs.Ownership
import TokenOverlay.Proofs.Runs
import TokenOverlay.Proofs.Trades

namespace TokenOverlay

/-!
What becomes of an offer between two messages of its seller.  Buyers take it in
parts, each at a price that is rounded down on what is left, and still the parts
and the charges add up to the terms, and nobody buys at a lower price than those
who came before.
-/

open OrderBook (remaining)
open Offer (owed)

/-! ## Stages of an offer -/

/-- Between two stages of an offer some of it has been taken and paid for: what is left makes up
for the rest, under the same terms, and costs no less for each unit. -/
structure Offer.Consumed (before : Option Offer) (taken charged : Int) (after : Option Offer) :
    Prop where
  start : ∀ old, before = some old → old.InTerms
  left : ∀ new, after = some new → new.InTerms
  amount : taken + remaining after = remaining before
  desired : charged + owed after = owed before
  terms : ∀ new, after = some new → ∃ old, before = some old ∧
    new.amountOffered = old.amountOffered ∧ new.desiredOffered = old.desiredOffered ∧
    old.desiredRemaining * new.amountRemaining ≤ new.desiredRemaining * old.amountRemaining

namespace Offer.Consumed

variable {before between after : Option Offer} {taken charged more price : Int}

theorem refl (inTerms : ∀ offer, before = some offer → offer.InTerms) :
    Consumed before 0 0 before where
  start := inTerms
  left := inTerms
  amount := Int.zero_add _
  desired := Int.zero_add _
  terms := fun new same => ⟨new, same, rfl, rfl, le_rfl⟩

theorem trans (first : Consumed before taken charged between)
    (second : Consumed between more price after) :
    Consumed before (taken + more) (charged + price) after where
  start := first.start
  left := second.left
  amount := by rw [Int.add_assoc, second.amount, first.amount]
  desired := by rw [Int.add_assoc, second.desired, first.desired]
  terms := by
    intro new found
    rcases second.terms new found with ⟨middle, foundMiddle, amount, desired, rises⟩
    rcases first.terms middle foundMiddle with ⟨old, foundOld, amount', desired', rises'⟩
    refine ⟨old, foundOld, amount.trans amount', desired.trans desired', ?_⟩
    have positive := (first.left middle foundMiddle).amount.1
    -- Both prices are compared with the one in between, when something was still to be had.
    refine le_of_mul_le_mul_right ?_ positive
    calc old.desiredRemaining * new.amountRemaining * middle.amountRemaining
        = old.desiredRemaining * middle.amountRemaining * new.amountRemaining :=
          mul_right_comm _ _ _
      _ ≤ middle.desiredRemaining * old.amountRemaining * new.amountRemaining :=
          mul_le_mul_of_nonneg_right rises' (second.left new found).amount.1.le
      _ = middle.desiredRemaining * new.amountRemaining * old.amountRemaining :=
          mul_right_comm _ _ _
      _ ≤ new.desiredRemaining * middle.amountRemaining * old.amountRemaining :=
          mul_le_mul_of_nonneg_right rises (first.start old foundOld).amount.1.le
      _ = new.desiredRemaining * old.amountRemaining * middle.amountRemaining :=
          mul_right_comm _ _ _

/-- One accept leads from a stage to the next one. -/
theorem of_less {old : Offer} (inTerms : old.InTerms) (positive : 0 < taken)
    (enough : taken ≤ old.amountRemaining) :
    Consumed (some old) taken (old.price taken) (old.less taken) where
  start := by
    rintro _ ⟨⟩
    exact inTerms
  left := fun new found => (inTerms.less positive enough found).2
  amount := by
    unfold Offer.less
    split
    · rw [OrderBook.remaining_none, OrderBook.remaining_some]
      omega
    · exact add_sub_cancel _ _
  desired := by
    unfold Offer.less
    split
    · have same : taken = old.amountRemaining := by omega
      rw [same, inTerms.price_all]
      exact Int.add_zero _
    · exact add_sub_cancel _ _
  terms := by
    intro new found
    obtain rfl := (inTerms.less positive enough found).1
    refine ⟨old, rfl, rfl, rfl, ?_⟩
    have fair := inTerms.price_mul_le positive enough
    change old.desiredRemaining * (old.amountRemaining - taken) ≤
      (old.desiredRemaining - old.price taken) * old.amountRemaining
    rw [Int.mul_sub, Int.sub_mul]
    omega

end Offer.Consumed

/-! ## Messages about an offer -/

namespace Moment

section

variable (rules : Rules) (seller : Address) (property : PropertyId) (moment : Moment)

/-- An accepted message of the seller opens, changes or withdraws the offer. -/
def Offers : Prop :=
  ∃ record raw asked timeLimit minFee action, moment.Accepts rules record ∧
    record.sender = seller ∧
    record.payload = some (.sellOffer property raw asked timeLimit minFee action)

/-- An accepted message of the seller opens the offer, or changes it, to these terms. -/
def Opens (amount desired : Int) : Prop :=
  ∃ record raw asked timeLimit minFee action, moment.Accepts rules record ∧
    record.sender = seller ∧
    record.payload = some (.sellOffer property raw asked timeLimit minFee action) ∧
    action ≠ .cancel ∧ (raw.toNat : Int) = amount ∧ (asked.toNat : Int) = desired

/-- What an accepted message takes out of the offer; nothing if it is no accept of it. -/
def taken : Int :=
  match moment.record? rules with
  | some record => record.taken seller property
  | none => 0

/-- The host coin that the order book charges for what is taken. -/
def charged : Int :=
  match moment.record? rules with
  | some record =>
      if 0 < record.taken seller property then
        ((OrderBook.accept record.sender seller property (record.taken seller property)
          (.start moment.before)).1.toOption).getD 0
      else 0
  | none => 0

end

variable {rules : Rules} {seller : Address} {property : PropertyId} {moment : Moment}
  {record : TxRecord}

theorem taken_of_record (made : moment.record? rules = some record) :
    moment.taken rules seller property = record.taken seller property := by
  rw [taken, made]

theorem taken_of_none (none : ∀ record, ¬ moment.Accepts rules record) :
    moment.taken rules seller property = 0 := by
  unfold taken
  split
  · next record made =>
      exact TxRecord.taken_of_invalid
        (Bool.eq_false_iff.mpr fun valid => none record ⟨made, valid⟩) seller property
  · rfl

theorem charged_of_none (nothing : moment.taken rules seller property = 0) :
    moment.charged rules seller property = 0 := by
  unfold charged
  split
  · next record made =>
      rw [taken_of_record made] at nothing
      rw [if_neg nothing.not_gt]
  · rfl

theorem charged_of_accept (made : moment.record? rules = some record)
    (some : 0 < moment.taken rules seller property) {price : Int} {done : Journal}
    (run : OrderBook.accept record.sender seller property (moment.taken rules seller property)
      (.start moment.before) = (.ok price, done)) :
    moment.charged rules seller property = price := by
  rw [taken_of_record made] at some run
  unfold charged
  simp only [made]
  rw [if_pos some, run]
  rfl

/-- A message of the seller takes nothing out of the offer. -/
theorem Offers.taken_eq_zero (offers : moment.Offers rules seller property) :
    moment.taken rules seller property = 0 := by
  rcases offers with ⟨record, _, _, _, _, _, accepts, _, carried⟩
  exact (taken_of_record accepts.1).trans (TxRecord.taken_of_other carried nofun seller property)

/-- What an event does to an offer, when it is no message of the seller: nothing, or somebody
accepts some of the offer and the rest is left. -/
inductive Leaves (rules : Rules) (seller : Address) (property : PropertyId) (moment : Moment) :
    Prop
  | untouched (nothing : moment.taken rules seller property = 0)
      (same : (moment.after rules).orders.get? seller property =
        moment.before.orders.get? seller property)
  | accepted (record : TxRecord) (accepts : moment.Accepts rules record) (old : Offer)
      (done : Journal) (found : moment.before.orders.get? seller property = some old)
      (positive : 0 < moment.taken rules seller property)
      (enough : moment.taken rules seller property ≤ old.amountRemaining)
      (run : OrderBook.accept record.sender seller property
        (moment.taken rules seller property) (.start moment.before) =
          (.ok (old.price (moment.taken rules seller property)), done))
      (after : moment.after rules = done.state)
      (left : (moment.after rules).orders.get? seller property =
        old.less (moment.taken rules seller property))

theorem leaves (sound : moment.before.Sound) (quiet : ¬ moment.Offers rules seller property) :
    moment.Leaves rules seller property := by
  -- A write at another place does not show at the place of the offer.
  have elsewhere : ∀ {owner : Address} {id : PropertyId} {next : Option Offer},
      (moment.after rules).orders = moment.before.orders.write owner id next →
      ¬ (owner = seller ∧ id = property) →
      (moment.after rules).orders.get? seller property =
        moment.before.orders.get? seller property := by
    intro owner id next written apart
    rw [written, OrderBook.get?_write, if_neg fun here => apart ⟨here.1.symm, here.2.symm⟩]
  cases moment.trades rules sound with
  | idle none same => exact .untouched (taken_of_none none) (by rw [same])
  | accepted record payload accepts carried trade =>
      have own : moment.taken rules seller property = record.taken seller property :=
        taken_of_record accepts.1
      cases payload with
      | sellOffer id raw asked timeLimit minFee action =>
          have apart : ¬ (record.sender = seller ∧ id = property) := by
            rintro ⟨sender, rfl⟩
            exact quiet ⟨record, raw, asked, timeLimit, minFee, action, accepts, sender, carried⟩
          have nothing := TxRecord.taken_of_other carried (by simp) seller property
          refine .untouched (own.trans nothing) ?_
          cases action with
          | cancel => exact elsewhere trade apart
          | new | update =>
              rcases trade with ⟨offer, _, _, _, _, _, written⟩
              exact elsewhere written apart
      | acceptOffer id raw =>
          rcases trade with ⟨owner, price, done, named, positive, run, after⟩
          have reference : record.reference = some owner := named
          have start : (Journal.start moment.before).state.Sound := sound
          rcases (OrderBook.accept_writes start record.sender raw.toNat).of_ok run with
            ⟨old, found, enough, rfl, written⟩
          rw [← after] at written
          by_cases here : owner = seller ∧ id = property
          · rcases here with ⟨rfl, rfl⟩
            have amount : moment.taken rules owner id = raw.toNat := by
              rw [own, TxRecord.taken, carried]
              simp only [accepts.2, reference, and_self, if_true]
            refine .accepted record accepts old done found ?_ ?_ ?_ after ?_
            · rw [amount]
              exact positive
            · rw [amount]
              exact enough
            · rw [amount]
              exact run
            · rw [amount, written, OrderBook.get?_write, if_pos ⟨rfl, rfl⟩]
          · refine .untouched ?_ (elsewhere written here)
            rw [own, TxRecord.taken, carried]
            simp only [reference, Option.some.injEq, here, and_false, if_false]
      | _ =>
          have nothing := TxRecord.taken_of_other carried (by simp) seller property
          refine .untouched (own.trans nothing) ?_
          rw [show (moment.after rules).orders = moment.before.orders from trade]

/-- An event that is no message of the seller leads from one stage of an offer to a next one. -/
theorem consumes (sound : moment.before.Sound) (inTerms : moment.before.orders.InTerms)
    (quiet : ¬ moment.Offers rules seller property) :
    Offer.Consumed (moment.before.orders.get? seller property)
      (moment.taken rules seller property) (moment.charged rules seller property)
      ((moment.after rules).orders.get? seller property) := by
  cases moment.leaves sound quiet with
  | untouched nothing same =>
      rw [nothing, charged_of_none nothing, same]
      exact .refl fun offer => inTerms seller property offer
  | accepted record accepts old done found positive enough run _ left =>
      rw [charged_of_accept accepts.1 positive run, left, found]
      exact .of_less (inTerms seller property old found) positive enough

/-- With an opening the terms of the message are the terms of the offer, and all is still there. -/
theorem Opens.offer (sound : moment.before.Sound) {amount desired : Int}
    (opens : moment.Opens rules seller property amount desired) :
    ∃ offer, (moment.after rules).orders.get? seller property = some offer ∧
      offer.amountOffered = amount ∧ offer.amountRemaining = amount ∧
      offer.desiredOffered = desired ∧ offer.desiredRemaining = desired := by
  rcases opens with
    ⟨record, raw, asked, timeLimit, minFee, action, accepts, rfl, carried, stays, rfl, rfl⟩
  have trade := trade_of_accepts sound accepts carried
  cases action with
  | cancel => exact absurd rfl stays
  | new | update =>
      rcases trade with ⟨offer, _, offered, remaining, asked, owed, written⟩
      refine ⟨offer, ?_, offered, remaining, asked, owed⟩
      rw [written, OrderBook.get?_write]
      exact if_pos ⟨rfl, rfl⟩

/-- Where there is an offer after a message of the seller, the message has opened it. -/
theorem Offers.opens (sound : moment.before.Sound) (offers : moment.Offers rules seller property)
    {offer : Offer} (found : (moment.after rules).orders.get? seller property = some offer) :
    moment.Opens rules seller property offer.amountOffered offer.desiredOffered := by
  rcases offers with ⟨record, raw, asked, timeLimit, minFee, action, accepts, rfl, carried⟩
  have stays : action ≠ .cancel := by
    rintro rfl
    have written : (moment.after rules).orders = _ := trade_of_accepts sound accepts carried
    rw [written, OrderBook.get?_write] at found
    cases (if_pos ⟨rfl, rfl⟩).symm.trans found
  have opens : moment.Opens rules record.sender property raw.toNat asked.toNat :=
    ⟨record, raw, asked, timeLimit, minFee, action, accepts, rfl, carried, stays, rfl, rfl⟩
  rcases opens.offer sound with ⟨other, there, offered, _, asked, _⟩
  cases there.symm.trans found
  rwa [offered, asked]

end Moment

/-! ## Runs -/

namespace State.Runs

variable {rules : Rules} {s final : State} {moments earlier stretch : List Moment}
  {moment : Moment} {seller : Address} {property : PropertyId}

/-- As long as the seller sends no message about an offer, it is consumed by what buyers take. -/
theorem consumes (runs : s.Runs rules moments final) (sound : s.Sound)
    (inTerms : s.orders.InTerms)
    (quiet : ∀ moment ∈ moments, ¬ moment.Offers rules seller property) :
    Offer.Consumed (s.orders.get? seller property)
      (Amount.total (moments.map (Moment.taken rules seller property)))
      (Amount.total (moments.map (Moment.charged rules seller property)))
      (final.orders.get? seller property) := by
  induction runs with
  | done s => exact .refl fun offer => inTerms seller property offer
  | @event s _ event moments later ih =>
      have met : (Moment.mk s event).before.Sound := sound
      have first : s.Runs rules [⟨s, event⟩] (event.next rules s) := .event (.done _)
      have law := (Engine.pricing rules).run first sound inTerms
      have step := Moment.consumes met inTerms (quiet _ List.mem_cons_self)
      exact step.trans (ih law.1 law.2 fun moment member =>
        quiet moment (List.mem_cons_of_mem _ member))
  | forget gone _ ih => exact ih (sound.forget gone) inTerms quiet

end State.Runs

/-- Among some moments nothing of a kind happens, or there is a last moment at which it does. -/
theorem Moment.none_or_last (happens : Moment → Prop) (moments : List Moment) :
    (∀ moment ∈ moments, ¬ happens moment) ∨
    ∃ earlier last later, moments = earlier ++ last :: later ∧ happens last ∧
      ∀ moment ∈ later, ¬ happens moment := by
  induction moments with
  | nil => exact Or.inl nofun
  | cons first rest ih =>
      rcases ih with never | ⟨earlier, last, later, rfl, here, quiet⟩
      · by_cases now : happens first
        · exact Or.inr ⟨[], first, rest, rfl, now, never⟩
        · exact Or.inl (List.forall_mem_cons.mpr ⟨now, never⟩)
      · exact Or.inr ⟨first :: earlier, last, later, rfl, here, quiet⟩

namespace Engine

variable {rules : Rules} {s : State} {moments earlier stretch : List Moment} {moment : Moment}
  {seller : Address} {property : PropertyId}

/-- Where a run from the first state has come to, the books are in order and all offers are in
their terms. -/
theorem priced (runs : (genesisState rules.config).Runs rules moments s) :
    s.Sound ∧ s.orders.InTerms :=
  (pricing rules).run runs (genesisState_sound rules.config) (pricing rules).genesis

/-- What was left of an offer after some moment has been consumed since then, if the seller has
sent no message about it. -/
theorem consumed_since (runs : (genesisState rules.config).Runs rules
      (earlier ++ moment :: stretch) s)
    (quiet : ∀ moment ∈ stretch, ¬ moment.Offers rules seller property) :
    moment.before.Sound ∧ Offer.Consumed ((moment.after rules).orders.get? seller property)
      (Amount.total (stretch.map (Moment.taken rules seller property)))
      (Amount.total (stretch.map (Moment.charged rules seller property)))
      (s.orders.get? seller property) := by
  rcases runs.split with ⟨before, after⟩
  have next := priced (before.append (.single rules moment))
  exact ⟨(priced before).1, after.consumes next.1 next.2 quiet⟩

/-- An open offer has been opened by its seller, who has sent no message about it since then. -/
theorem opened_by_seller (runs : (genesisState rules.config).Runs rules moments s) {offer : Offer}
    (found : s.orders.get? seller property = some offer) :
    ∃ earlier opening stretch, moments = earlier ++ opening :: stretch ∧
      opening.Opens rules seller property offer.amountOffered offer.desiredOffered ∧
      ∀ moment ∈ stretch, ¬ moment.Offers rules seller property := by
  rcases Moment.none_or_last (Moment.Offers rules seller property) moments with
    never | ⟨earlier, opening, stretch, rfl, offers, quiet⟩
  · have consumed := runs.consumes (genesisState_sound rules.config) (pricing rules).genesis never
    rcases consumed.terms offer found with ⟨old, foundOld, _⟩
    rw [orders_genesisState] at foundOld
    cases foundOld
  · rcases consumed_since runs quiet with ⟨sound, consumed⟩
    rcases consumed.terms offer found with ⟨first, foundFirst, offered, asked, _⟩
    refine ⟨earlier, opening, stretch, rfl, ?_, quiet⟩
    rw [offered, asked]
    exact offers.opens sound foundFirst

end Engine

namespace Session

/-- After any calls, and then within a block, a run has led from the first state to the state
that is there, by the events of the active chain and of the block so far.  Wherever a run has led,
every open offer has something left of both its amounts, and it has been opened by its seller,
with its terms.  From an opening on, until the seller sends another message about the offer, what
is taken and what is left make up the amount that was offered, and what is charged and what is
still asked make up the host coin that was asked; so an offer that is used up has cost just that.
What is left never costs less for each unit than before, and every accept is charged its share,
rounded down, by an order book that divides by a positive amount. -/
theorem run_prices_offers (rules : Rules) (calls : List Call) :
    let session := run rules calls
    let genesis := Engine.genesisState rules.config
    (∃ moments, moments.map Moment.event = Block.past session.active ∧
      genesis.Runs rules moments session.engine.state) ∧
    (∀ (block : Block) (done : List Tx), ∃ moments,
      moments.map Moment.event = Block.past session.active ++ block.opening done ∧
      genesis.Runs rules moments (Engine.processFrom rules block 0
        (Engine.prelude block (.start session.engine.state)).2 done).2.state) ∧
    ∀ moments s, genesis.Runs rules moments s → ∀ seller property,
      (∀ offer, s.orders.get? seller property = some offer →
        (0 < offer.amountRemaining ∧ offer.amountRemaining ≤ offer.amountOffered) ∧
        (0 < offer.desiredRemaining ∧ offer.desiredRemaining ≤ offer.desiredOffered) ∧
        ∃ earlier opening stretch, moments = earlier ++ opening :: stretch ∧
          opening.Opens rules seller property offer.amountOffered offer.desiredOffered ∧
          ∀ moment ∈ stretch, ¬ moment.Offers rules seller property) ∧
      (∀ earlier opening stretch amount desired, moments = earlier ++ opening :: stretch →
        opening.Opens rules seller property amount desired →
        (∀ moment ∈ stretch, ¬ moment.Offers rules seller property) →
        let taken := Amount.total (stretch.map (Moment.taken rules seller property))
        let charged := Amount.total (stretch.map (Moment.charged rules seller property))
        (∀ offer, s.orders.get? seller property = some offer →
          offer.amountOffered = amount ∧ taken + offer.amountRemaining = offer.amountOffered ∧
          offer.desiredOffered = desired ∧
          charged + offer.desiredRemaining = offer.desiredOffered) ∧
        (s.orders.get? seller property = none → taken = amount ∧ charged = desired)) ∧
      (∀ earlier moment stretch, moments = earlier ++ moment :: stretch →
        (∀ later ∈ moment :: stretch, ¬ later.Offers rules seller property) →
        ∀ old new, moment.before.orders.get? seller property = some old →
          s.orders.get? seller property = some new →
          old.desiredRemaining * new.amountRemaining ≤
            new.desiredRemaining * old.amountRemaining) ∧
      ∀ moment ∈ moments, 0 < moment.taken rules seller property →
        ∃ record old done, moment.Accepts rules record ∧
          moment.before.orders.get? seller property = some old ∧
          0 < old.amountRemaining ∧
          moment.taken rules seller property ≤ old.amountRemaining ∧
          OrderBook.accept record.sender seller property (moment.taken rules seller property)
            (.start moment.before) = (.ok (moment.charged rules seller property), done) ∧
          moment.after rules = done.state ∧
          moment.charged rules seller property =
            old.desiredRemaining * moment.taken rules seller property / old.amountRemaining := by
  intro session genesis
  have traces := run_traces rules calls
  refine ⟨traces.1, traces.2, ?_⟩
  intro moments s runs seller property
  have priced := Engine.priced runs
  refine ⟨fun offer found => ?_, ?_, ?_, ?_⟩
  · have inTerms := priced.2 seller property offer found
    exact ⟨inTerms.amount, inTerms.desired, Engine.opened_by_seller runs found⟩
  · rintro earlier opening stretch amount desired rfl opens quiet taken charged
    rcases Engine.consumed_since runs quiet with ⟨sound, consumed⟩
    rcases opens.offer sound with ⟨first, foundFirst, offered, remaining, asked, owed⟩
    rw [foundFirst] at consumed
    have amounts := consumed.amount
    have charges := consumed.desired
    rw [OrderBook.remaining_some, remaining] at amounts
    rw [Offer.owed_some, owed] at charges
    refine ⟨fun offer found => ?_, fun gone => ?_⟩
    · rcases consumed.terms offer found with ⟨_, ⟨⟩, sameOffered, sameAsked, _⟩
      rw [found] at amounts charges
      rw [sameOffered, sameAsked, offered, asked]
      exact ⟨rfl, amounts, rfl, charges⟩
    · rw [gone] at amounts charges
      exact ⟨(Int.add_zero taken).symm.trans amounts, (Int.add_zero charged).symm.trans charges⟩
  · rintro earlier moment stretch rfl quiet old new foundOld foundNew
    rcases runs.split with ⟨before, after⟩
    have start := Engine.priced before
    have consumed := (State.Runs.append (.single rules moment) after).consumes start.1 start.2 quiet
    rcases consumed.terms new foundNew with ⟨first, foundFirst, _, _, rises⟩
    cases foundOld.symm.trans foundFirst
    exact rises
  · intro moment member some
    rcases List.append_of_mem member with ⟨earlier, later, rfl⟩
    have start := Engine.priced runs.split.1
    cases moment.leaves start.1 fun offers => some.ne' offers.taken_eq_zero with
    | untouched nothing => exact absurd nothing some.ne'
    | accepted record accepts old done found positive enough run after _ =>
        have inTerms := start.2 seller property old found
        have price := Moment.charged_of_accept accepts.1 positive run
        refine ⟨record, old, done, accepts, found, inTerms.amount.1, enough, ?_, after, ?_⟩
        · rw [price]
          exact run
        · rw [price]
          exact inTerms.price_eq positive enough

/-- An owner offers four tokens for seven coins, and they are bought in two parts. -/
def soldInParts : List Event :=
  Block.events ⟨0, "x", "", 0, [
    ⟨"o", "a", none, Message.encode (Payload.sellOffer 1 4 7 10 0 .new).toMessage⟩,
    ⟨"p", "b", some "a", Message.encode (Payload.acceptOffer 1 3).toMessage⟩]⟩ ++
  Block.events ⟨1, "y", "x", 1, [
    ⟨"q", "c", some "a", Message.encode (Payload.acceptOffer 1 1).toMessage⟩]⟩

/-- The first part is cheaper by what is rounded off, and the second one makes up for it. -/
theorem run_prices_offers_in_parts :
    let genesis := Engine.genesisState twoOwners.config
    ∃ earlier opening stretch,
      genesis.history twoOwners soldInParts = earlier ++ opening :: stretch ∧
      opening.Opens twoOwners "a" 1 4 7 ∧
      (∀ moment ∈ stretch, ¬ moment.Offers twoOwners "a" 1) ∧
      stretch.map (Moment.charged twoOwners "a" 1) = [5, 0, 2] ∧
      (genesis.follow twoOwners soldInParts).orders.get? "a" 1 = none ∧
      Amount.total (stretch.map (Moment.taken twoOwners "a" 1)) = 4 ∧
      Amount.total (stretch.map (Moment.charged twoOwners "a" 1)) = 7 := by
  intro genesis
  have runs := (State.Runs.of_history twoOwners genesis soldInParts).2
  have gone : (genesis.follow twoOwners soldInParts).orders.get? "a" 1 = none := by
    decide +kernel
  have charges : ((genesis.history twoOwners soldInParts).drop 2).map
      (Moment.charged twoOwners "a" 1) = [5, 0, 2] := by
    decide +kernel
  have made : ((genesis.history twoOwners soldInParts)[1].record? twoOwners).map
      (fun record => (record.valid, record.sender, record.payload)) =
        some (true, "a", some (.sellOffer 1 4 7 10 0 .new)) := by
    decide +kernel
  have others : ∀ moment ∈ (genesis.history twoOwners soldInParts).drop 2,
      ∀ record ∈ moment.record? twoOwners, record.sender ≠ "a" := by
    decide +kernel
  rcases Option.map_eq_some_iff.mp made with ⟨record, recorded, fields⟩
  simp only [Prod.mk.injEq] at fields
  have opens : (genesis.history twoOwners soldInParts)[1].Opens twoOwners "a" 1 4 7 :=
    ⟨record, 4, 7, 10, 0, .new, ⟨recorded, fields.1⟩, fields.2.1, fields.2.2, nofun, rfl, rfl⟩
  have quiet : ∀ moment ∈ (genesis.history twoOwners soldInParts).drop 2,
      ¬ moment.Offers twoOwners "a" 1 := by
    rintro moment member ⟨other, _, _, _, _, _, accepts, own, _⟩
    exact others moment member other accepts.1 own
  have priced := (run_prices_offers twoOwners []).2.2 _ _ runs "a" 1
  have accounts := (priced.2.1 ((genesis.history twoOwners soldInParts).take 1) _ _ 4 7 rfl opens
    quiet).2 gone
  exact ⟨(genesis.history twoOwners soldInParts).take 1, _, _, rfl, opens, quiet, charges, gone,
    accounts.1, accounts.2⟩

end Session
end TokenOverlay
