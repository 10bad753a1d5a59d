import TokenOverlay.Proofs.Changes

namespace TokenOverlay

/-!
What happens one after the other while blocks are applied: a block starts, its
transactions are processed, the next block starts.  A history lists these events
with the states they meet, and what is said about a run in time is said about
its history.  Every event leads from regular states to regular ones, and the two
inversions below say all that an event can do to the registry, the sales and the
features.  The records of a history are those that the engine makes of its
blocks.
-/

open Attempt TokenOverlay.Action

/-! ## Events -/

inductive Event where
  | start (block : Block)
  | transaction (block : Block) (position : Nat) (tx : Tx)

namespace Event

/-- The block in which it happens. -/
def block : Event → Block
  | start block => block
  | transaction block _ _ => block

/-- The state that an event leads to. -/
def next (rules : Rules) (s : State) : Event → State
  | start block => (Engine.prelude block (.start s)).2.state
  | transaction block position tx =>
      (Engine.processTransaction rules block position tx (.start s)).2.state

/-- The record that is made of a transaction. -/
def record? (rules : Rules) (s : State) : Event → Option TxRecord
  | start _ => none
  | transaction block position tx =>
      some (Engine.processTransaction rules block position tx (.start s)).1

end Event

namespace Block

/-- The transactions of a block from a position on. -/
def eventsFrom (block : Block) (position : Nat) : List Tx → List Event
  | [] => []
  | tx :: rest => .transaction block position tx :: block.eventsFrom (position + 1) rest

/-- The start of a block and its first transactions. -/
def opening (block : Block) (done : List Tx) : List Event := .start block :: block.eventsFrom 0 done

/-- All that happens in a block. -/
def events (block : Block) : List Event := block.opening block.transactions

end Block

/-- An event and the state that it meets. -/
structure Moment where
  before : State
  event : Event

namespace Moment

def after (rules : Rules) (moment : Moment) : State := moment.event.next rules moment.before

def record? (rules : Rules) (moment : Moment) : Option TxRecord :=
  moment.event.record? rules moment.before

end Moment

namespace State

/-- The state after some events. -/
def follow (rules : Rules) (s : State) (events : List Event) : State :=
  events.foldl (Event.next rules) s

/-- The events from a state on, each with the state that it meets. -/
def history (rules : Rules) (s : State) : List Event → List Moment
  | [] => []
  | event :: rest => ⟨s, event⟩ :: (event.next rules s).history rules rest

variable {rules : Rules} {s : State}

theorem follow_append (s : State) (earlier later : List Event) :
    s.follow rules (earlier ++ later) = (s.follow rules earlier).follow rules later :=
  List.foldl_append

theorem history_append (s : State) (earlier later : List Event) :
    s.history rules (earlier ++ later) =
      s.history rules earlier ++ (s.follow rules earlier).history rules later := by
  induction earlier generalizing s with
  | nil => rfl
  | cons event rest ih => exact congrArg (List.cons _) (ih (event.next rules s))

/-- Every moment of a history is met after the events before it. -/
theorem mem_history {events : List Event} {moment : Moment}
    (member : moment ∈ s.history rules events) :
    ∃ earlier later, events = earlier ++ moment.event :: later ∧
      moment.before = s.follow rules earlier := by
  induction events generalizing s with
  | nil => cases member
  | cons event rest ih =>
      rcases List.mem_cons.mp member with rfl | later
      · exact ⟨[], rest, rfl, rfl⟩
      · rcases ih later with ⟨earlier, after, split, met⟩
        exact ⟨event :: earlier, after, congrArg (List.cons event) split, met⟩

end State

/-! ## Blocks as events -/

namespace Engine

variable {rules : Rules}

/-- What was done in the block before does not matter to a transaction but for the state. -/
theorem processTransaction_start (rules : Rules) (block : Block) (position : Nat) (tx : Tx)
    (journal : Journal) :
    (processTransaction rules block position tx journal).1 =
      (processTransaction rules block position tx (.start journal.state)).1 ∧
    (processTransaction rules block position tx journal).2.state =
      (processTransaction rules block position tx (.start journal.state)).2.state := by
  unfold processTransaction settle
  cases Message.decode tx.payload with
  | error reason => exact ⟨rfl, rfl⟩
  | ok m =>
      dsimp only [Journal.start]
      rcases Execute.message rules (contextOf block tx) m ⟨journal.state, []⟩ with
        ⟨reason | details, after⟩ <;> exact ⟨rfl, rfl⟩

theorem state_processFrom (block : Block) (transactions : List Tx) (position : Nat)
    (journal : Journal) :
    (processFrom rules block position journal transactions).2.state =
      journal.state.follow rules (block.eventsFrom position transactions) := by
  induction transactions generalizing position journal with
  | nil => rfl
  | cons tx rest ih =>
      refine (ih (position + 1) _).trans (congrArg (fun between : State =>
        between.follow rules (block.eventsFrom (position + 1) rest)) ?_)
      exact (processTransaction_start rules block position tx journal).2

theorem state_processBlock (block : Block) (s : State) :
    (processBlock rules s block).2.state = s.follow rules block.events :=
  state_processFrom block block.transactions 0 _

/-- The records of a block are those of the moments it is made of. -/
theorem records_processFrom (block : Block) (transactions : List Tx) (position : Nat)
    (journal : Journal) :
    (processFrom rules block position journal transactions).1 =
      (journal.state.history rules (block.eventsFrom position transactions)).filterMap
        (Moment.record? rules) := by
  induction transactions generalizing position journal with
  | nil => rfl
  | cons tx rest ih =>
      have same := processTransaction_start rules block position tx journal
      refine congrArg₂ List.cons same.1 ((ih (position + 1) _).trans ?_)
      exact congrArg (fun between : State => (between.history rules
        (block.eventsFrom (position + 1) rest)).filterMap (Moment.record? rules)) same.2

/-- The blocks that an engine takes of those that are offered to it, one after the other. -/
def taken (e : Engine) : List Block → List Block
  | [] => []
  | block :: rest =>
      match e.applyBlock block with
      | .ok (after, _) => block :: after.taken rest
      | .error _ => e.taken rest

section

variable {e : Engine} {block : Block}

theorem taken_of_misfit {reason : EngineError} (misfit : e.misfit? block = some reason)
    (rest : List Block) : e.taken (block :: rest) = e.taken rest := by
  rw [taken, applyBlock, misfit]

theorem taken_of_fits (fits : e.misfit? block = none) (rest : List Block) :
    e.taken (block :: rest) = block :: (e.extend block).1.taken rest := by
  rw [taken, applyBlock, fits]

end

/-- What happens while blocks are offered to an engine. -/
def course (e : Engine) (blocks : List Block) : List Event :=
  (e.taken blocks).flatMap Block.events

/-- Offering blocks to an engine leads to the state that the course leads to. -/
theorem state_offered (session : Session) (blocks : List Block) :
    ((blocks.map Call.apply).foldl Session.call session).engine.state =
      session.engine.state.follow session.engine.rules (session.engine.course blocks) := by
  induction blocks generalizing session with
  | nil => rfl
  | cons block rest ih =>
      rw [List.map_cons, List.foldl_cons, ih, Session.call, applyBlock]
      cases fit : session.engine.misfit? block with
      | some reason => rw [course, course, taken_of_misfit fit]
      | none =>
          rw [course, course, taken_of_fits fit, List.flatMap_cons, State.follow_append,
            ← state_processBlock]
          rfl

end Engine

/-! ## The start of a block -/

/-- A sale at the start of a block: it ends if its time is over. -/
def Crowdsale.atStart (block : Block) (sale : Crowdsale) : Crowdsale :=
  if sale.active = true ∧ sale.deadline < block.time then
    { sale with active := false, closeBlock := some block.height }
  else sale

/-- A feature at the start of a block of some height: it is switched on if its block has come. -/
def Feature.atStart (height : Nat) (feature : Feature) : Feature :=
  if feature.completed = false ∧ feature.activationBlock ≤ height then
    { feature with completed := true }
  else feature

/-- What the start of a block does to the registry, the sales and the features. -/
structure State.Begins (s : State) (block : Block) (after : State) : Prop where
  registry : after.registry = s.registry
  sale : ∀ id, after.crowdsales.get? id = (s.crowdsales.get? id).map (Crowdsale.atStart block)
  participations : after.crowdsales.participations = s.crowdsales.participations
  feature : ∀ id, after.features.get? id = (s.features.get? id).map (Feature.atStart block.height)

/-- Every feature is kept under its own number. -/
def FeatureTable.Keyed (table : FeatureTable) : Prop :=
  ∀ id feature, table.get? id = some feature → feature.featureId = id

/-- The books and the sales are in order, and features are kept under their own numbers. -/
structure State.Regular (s : State) : Prop where
  sound : s.Sound
  trading : s.Trading
  keyed : s.features.Keyed

theorem FeatureTable.mem_pending_iff {table : FeatureTable} {feature : Feature} :
    feature ∈ table.pending ↔ (∃ id, table.get? id = some feature) ∧ feature.completed = false := by
  rw [pending, all, List.mem_filter, SortedMap.mem_values_iff, Bool.not_eq_true']
  rfl

namespace Engine

variable {journal : Journal}

/-- Features that are stored as listed are switched on, and no others. -/
theorem completeAll_does (table : FeatureTable) (due : List Feature)
    (stored : ∀ feature ∈ due, table.get? feature.featureId = some feature) :
    (due.forM FeatureTable.completeOne).Yields
      (fun _ after => after.state.registry = journal.state.registry ∧
        after.state.crowdsales = journal.state.crowdsales ∧
        ∀ id, after.state.features.get? id =
          if id ∈ due.map Feature.featureId then
            (table.get? id).map fun feature => { feature with completed := true }
          else journal.state.features.get? id)
      (fun _ _ => False) journal := by
  induction due generalizing journal with
  | nil => exact ⟨rfl, rfl, fun _ => rfl⟩
  | cons feature rest ih =>
      change (FeatureTable.completeOne feature >>= fun _ =>
        rest.forM FeatureTable.completeOne).Yields _ _ _
      refine yields_bind.mpr (yields_edit.mpr ?_)
      refine (ih fun other member => stored other (List.mem_cons_of_mem _ member)).mono ?_
        fun _ _ => id
      rintro _ after ⟨registry, crowdsales, found⟩
      refine ⟨registry, crowdsales, fun id => ?_⟩
      rw [found, List.map_cons]
      by_cases later : id ∈ rest.map Feature.featureId
      · rw [if_pos later, if_pos (List.mem_cons_of_mem _ later)]
      · rw [if_neg later]
        refine (FeatureTable.get?_withFeature _ feature.featureId id _).trans ?_
        by_cases here : id = feature.featureId
        · rw [if_pos here, if_pos (here ▸ List.mem_cons_self), here,
            stored feature List.mem_cons_self, Option.map_some]
        · rw [if_neg here, if_neg fun member => (List.mem_cons.mp member).elim here later]

theorem completePending_does (height : Nat) (keyed : journal.state.features.Keyed) :
    (FeatureTable.completePending height).Yields
      (fun _ after => after.state.registry = journal.state.registry ∧
        after.state.crowdsales = journal.state.crowdsales ∧
        ∀ id, after.state.features.get? id =
          (journal.state.features.get? id).map (Feature.atStart height))
      (fun _ _ => False) journal := by
  have due : ∀ id, id ∈ (journal.state.features.pending.filter fun feature =>
      feature.activationBlock ≤ height).map Feature.featureId ↔
      ∃ feature, journal.state.features.get? id = some feature ∧ feature.completed = false ∧
        feature.activationBlock ≤ height := by
    intro id
    simp only [List.mem_map, List.mem_filter, FeatureTable.mem_pending_iff, decide_eq_true_eq]
    constructor
    · rintro ⟨feature, ⟨⟨⟨other, stored⟩, pending⟩, come⟩, rfl⟩
      exact ⟨feature, keyed other feature stored ▸ stored, pending, come⟩
    · rintro ⟨feature, stored, pending, come⟩
      exact ⟨feature, ⟨⟨⟨id, stored⟩, pending⟩, come⟩, keyed id feature stored⟩
  rw [FeatureTable.completePending, yields_bind, yields_state]
  refine (completeAll_does journal.state.features _ ?_).bind ?_ fun _ _ => id
  · intro feature member
    rcases FeatureTable.mem_pending_iff.mp (List.mem_filter.mp member).1 with ⟨⟨id, stored⟩, _⟩
    exact keyed id feature stored ▸ stored
  · rintro _ after ⟨registry, crowdsales, found⟩
    refine ⟨registry, crowdsales, fun id => ?_⟩
    rw [found]
    have settled := due id
    cases stored : journal.state.features.get? id with
    | none => simp
    | some feature =>
        simp only [stored, Option.some.injEq, exists_eq_left'] at settled
        by_cases come : feature.completed = false ∧ feature.activationBlock ≤ height
        · rw [if_pos (settled.mpr come), Option.map_some, Option.map_some, Feature.atStart,
            if_pos come]
        · rw [if_neg (mt settled.mp come), Option.map_some, Feature.atStart, if_neg come]

/-- The sales of the listed properties end, and no others. -/
theorem expireAll_does (height : Nat) (overdue : List PropertyId)
    (keyed : ∀ id sale, journal.state.crowdsales.get? id = some sale → sale.propertyId = id) :
    (overdue.forM (CrowdsaleBook.expireOne height)).Yields
      (fun _ after => after.state.registry = journal.state.registry ∧
        after.state.features = journal.state.features ∧
        after.state.crowdsales.participations = journal.state.crowdsales.participations ∧
        ∀ id, after.state.crowdsales.get? id =
          if id ∈ overdue then (journal.state.crowdsales.get? id).map fun sale =>
            { sale with active := false, closeBlock := some height }
          else journal.state.crowdsales.get? id)
      (fun _ _ => False) journal := by
  induction overdue generalizing journal with
  | nil => exact ⟨rfl, rfl, rfl, fun _ => rfl⟩
  | cons first rest ih =>
      change (CrowdsaleBook.expireOne height first >>= fun _ =>
        rest.forM (CrowdsaleBook.expireOne height)).Yields _ _ _
      rw [yields_bind, CrowdsaleBook.expireOne, yields_bind, yields_state]
      cases stored : journal.state.crowdsales.get? first with
      | none =>
          refine (ih keyed).mono ?_ fun _ _ => id
          rintro _ after ⟨registry, features, participations, found⟩
          refine ⟨registry, features, participations, fun id => ?_⟩
          rw [found]
          by_cases here : id = first
          · simp [here, stored]
          · simp [here]
      | some sale =>
          obtain rfl := keyed first sale stored
          -- The store behind this step: the first sale is over, the others are as before.
          have written : ∀ id, (journal.record (.sale { sale with
              active := false, closeBlock := some height })).state.crowdsales.get? id =
              if id = sale.propertyId then
                some { sale with active := false, closeBlock := some height }
              else journal.state.crowdsales.get? id := fun id =>
            journal.state.crowdsales.get?_withSale sale.propertyId id _
          dsimp only
          rw [yields_edit]
          refine (ih ?_).mono ?_ fun _ _ => id
          · intro id other found
            rw [written] at found
            split at found
            · next here =>
                cases found
                exact here.symm
            · exact keyed id other found
          · rintro _ after ⟨registry, features, participations, found⟩
            refine ⟨registry, features, participations, fun id => ?_⟩
            rw [found, written]
            by_cases here : id = sale.propertyId
            · simp [here, stored]
            · simp [here]

theorem expire_does (block : Block)
    (keyed : ∀ id sale, journal.state.crowdsales.get? id = some sale → sale.propertyId = id) :
    (CrowdsaleBook.expire block.time block.height).Yields
      (fun _ after => after.state.registry = journal.state.registry ∧
        after.state.features = journal.state.features ∧
        after.state.crowdsales.participations = journal.state.crowdsales.participations ∧
        ∀ id, after.state.crowdsales.get? id =
          (journal.state.crowdsales.get? id).map (Crowdsale.atStart block))
      (fun _ _ => False) journal := by
  have overdue : ∀ id, id ∈ (journal.state.crowdsales.active.filter fun sale =>
      sale.deadline < block.time).map Crowdsale.propertyId ↔
      ∃ sale, journal.state.crowdsales.get? id = some sale ∧ sale.active = true ∧
        sale.deadline < block.time := by
    intro id
    simp only [List.mem_map, List.mem_filter, CrowdsaleBook.mem_active_iff, decide_eq_true_eq]
    constructor
    · rintro ⟨sale, ⟨⟨⟨other, stored⟩, active⟩, late⟩, rfl⟩
      exact ⟨sale, keyed other sale stored ▸ stored, active, late⟩
    · rintro ⟨sale, stored, active, late⟩
      exact ⟨sale, ⟨⟨⟨id, stored⟩, active⟩, late⟩, keyed id sale stored⟩
  rw [CrowdsaleBook.expire, yields_bind, yields_state]
  refine (expireAll_does block.height _ keyed).bind ?_ fun _ _ => id
  rintro _ after ⟨registry, features, participations, found⟩
  refine ⟨registry, features, participations, fun id => ?_⟩
  rw [found]
  have settled := overdue id
  cases stored : journal.state.crowdsales.get? id with
  | none => simp
  | some sale =>
      simp only [stored, Option.some.injEq, exists_eq_left'] at settled
      by_cases late : sale.active = true ∧ sale.deadline < block.time
      · rw [if_pos (settled.mpr late), Option.map_some, Option.map_some, Crowdsale.atStart,
          if_pos late]
      · rw [if_neg (mt settled.mp late), Option.map_some, Crowdsale.atStart, if_neg late]

theorem prelude_does {s : State} (regular : s.Regular) (block : Block) :
    s.Begins block (prelude block (.start s)).2.state := by
  have started : (prelude block).Yields (fun _ after => s.Begins block after.state)
      (fun _ _ => False) (.start s) := by
    refine (completePending_does block.height regular.keyed).bind ?_ fun _ _ => id
    rintro _ between ⟨registry, crowdsales, feature⟩
    refine (expire_does block ?_).bind ?_ fun _ _ => id
    · intro id sale stored
      rw [crowdsales] at stored
      exact regular.trading.keyed stored
    · rintro _ after ⟨registry', features, participations, sale⟩
      exact ⟨registry'.trans registry, fun id => (sale id).trans (by rw [crowdsales]; rfl),
        participations.trans (congrArg _ crowdsales), fun id => (features ▸ feature id)⟩
  revert started
  unfold Attempt.Yields
  rcases prelude block (.start s) with ⟨reason | _, after⟩
  · exact False.elim
  · exact id

end Engine

/-! ## Regular states -/

theorem State.Begins.keyed {s after : State} {block : Block} (begins : s.Begins block after)
    (keyed : s.features.Keyed) : after.features.Keyed := by
  intro id feature stored
  rw [begins.feature id] at stored
  rcases Option.map_eq_some_iff.mp stored with ⟨old, found, rfl⟩
  rw [Feature.atStart]
  split <;> exact keyed id old found

theorem Execute.Deed.keyed {rules : Rules} {tx : TxContext} {s after : State}
    {details : TxDetails} {payload : Payload} (deed : Deed rules tx s details after payload)
    (keyed : s.features.Keyed) : after.features.Keyed := by
  intro id feature stored
  cases deed.feature id with
  | kept entry => exact keyed id feature (entry ▸ stored)
  | removed _ entry =>
      rw [entry] at stored
      cases stored
  | alreadyActive _ _ _ _ entry => exact keyed id feature (entry ▸ stored)
  | scheduled _ _ _ _ _ entry number =>
      rw [entry] at stored
      cases stored
      exact number

namespace Engine

theorem features_genesisState (config : EngineConfig) :
    (genesisState config).features = .empty :=
  genesisState_keeps (fun s => s.features = .empty) rfl (fun _ _ _ _ empty => empty)
    (fun _ _ _ empty => empty) config

/-- Sales stay in order and features stay under their own numbers, whatever is accepted. -/
def orderly (rules : Rules) : Law rules where
  holds s := s.Trading ∧ s.features.Keyed
  genesis := by
    refine ⟨genesisState_trading rules.config, ?_⟩
    rw [features_genesisState]
    intro id feature found
    cases found
  prelude := fun block _ sound held =>
    ⟨prelude_trading held.1 block, (prelude_does ⟨sound, held.1, held.2⟩ block).keyed held.2⟩
  message := fun tx m s sound held => by
    have traded := (trading rules).message tx m s sound held.1
    have start : (Journal.start s).state.Sound := sound
    have done := Execute.message_does rules tx start held.1 m
    exact (traded.and done).mono (fun _ _ both => ⟨both.1, both.2.keyed held.2⟩)
      fun _ _ _ => trivial
  forget := fun _ _ held => ⟨held.1.of_same rfl rfl, held.2⟩

end Engine

namespace State.Regular

variable {rules : Rules} {s : State}

theorem genesis (rules : Rules) : (Engine.genesisState rules.config).Regular :=
  ⟨Engine.genesisState_sound rules.config, (Engine.orderly rules).genesis.1,
    (Engine.orderly rules).genesis.2⟩

theorem of_reached (reached : s.Reached rules) : s.Regular :=
  ⟨reached.sound, ((Engine.orderly rules).of_reached reached).2.1,
    ((Engine.orderly rules).of_reached reached).2.2⟩

/-- Whatever happens leads from regular states to regular ones. -/
theorem next (regular : s.Regular) (event : Event) : (event.next rules s).Regular := by
  have held : (Engine.orderly rules).holds s := ⟨regular.trading, regular.keyed⟩
  cases event with
  | start block =>
      have kept := (Engine.orderly rules).prelude block s regular.sound held
      exact ⟨Engine.prelude_sound block regular.sound, kept.1, kept.2⟩
  | transaction block position tx =>
      have start : (Journal.start s).state.Sound := regular.sound
      have kept := (Engine.orderly rules).processTransaction block position tx start held
      exact ⟨Engine.processTransaction_sound rules block position tx start, kept.1, kept.2⟩

theorem follow (regular : s.Regular) (events : List Event) : (s.follow rules events).Regular := by
  induction events generalizing s with
  | nil => exact regular
  | cons event rest ih => exact ih (regular.next event)

theorem before (regular : s.Regular) {events : List Event} {moment : Moment}
    (member : moment ∈ s.history rules events) : moment.before.Regular := by
  rcases State.mem_history member with ⟨earlier, _, _, met⟩
  exact met ▸ regular.follow earlier

end State.Regular

/-- Applying blocks after some calls leads along the course of the blocks. -/
theorem Session.run_offered (rules : Rules) (calls : List Call) (blocks : List Block) :
    (run rules (calls ++ blocks.map .apply)).engine.state =
      (run rules calls).engine.state.follow rules ((run rules calls).engine.course blocks) := by
  have sameRules : (run rules calls).engine.rules = rules :=
    (run_follows (Engine.orderly rules).invariant calls fun _ _ => trivial).sameRules
  have offered := Engine.state_offered (run rules calls) blocks
  rw [sameRules] at offered
  rw [run, List.foldl_append]
  exact offered

/-! ## What an event does -/

/-- What a message is told about the transaction that a record is of. -/
def TxRecord.context (record : TxRecord) : TxContext where
  txid := record.txid
  sender := record.sender
  reference := record.reference
  block := record.blockHeight
  blockTime := record.blockTime

namespace Moment

variable {rules : Rules} {moment : Moment}

/-- A transaction is accepted, with this record. -/
def Accepts (rules : Rules) (moment : Moment) (record : TxRecord) : Prop :=
  moment.record? rules = some record ∧ record.valid = true

/-- A block starts, or a transaction is refused without a trace, or the message of one has run
to its end. -/
inductive Ran (rules : Rules) (moment : Moment) : Prop
  | started (block : Block) (event : moment.event = .start block)
      (none : ∀ record, ¬ moment.Accepts rules record)
  | refused (within : moment.event ≠ .start moment.event.block)
      (same : moment.after rules = moment.before)
      (none : ∀ record, ¬ moment.Accepts rules record)
  | accepted (within : moment.event ≠ .start moment.event.block)
      (record : TxRecord) (m : Message) (done : Journal) (accepts : moment.Accepts rules record)
      (carried : record.payload = some m.payload)
      (height : record.blockHeight = moment.event.block.height)
      (time : record.blockTime = moment.event.block.time)
      (run : Execute.message rules record.context m (.start moment.before) =
        (.ok record.details, done))
      (state : moment.after rules = done.state)

theorem ran (rules : Rules) (canonical : moment.before.Canonical) : moment.Ran rules := by
  rcases moment with ⟨s, event⟩
  cases event with
  | start block => exact .started block rfl fun _ accepts => nomatch accepts.1
  | transaction block position tx =>
      have start : (Journal.start s).state.Canonical := canonical
      rcases Engine.processTransaction_outcome rules block position tx start with
        ⟨invalid, same⟩ | ⟨m, details, after, _, run, result⟩
      · refine .refused nofun (congrArg Journal.state same) ?_
        rintro record ⟨made, valid⟩
        cases made
        cases invalid.symm.trans valid
      · have made : Moment.record? rules ⟨s, .transaction block position tx⟩ = some _ :=
          congrArg (some ∘ Prod.fst) result
        exact .accepted nofun _ m after ⟨made, rfl⟩ rfl rfl rfl run
          (congrArg (Journal.state ∘ Prod.snd) result)

/-- A block starts, or a transaction is refused without a trace, or one is accepted and does
what its message says. -/
inductive Outcome (rules : Rules) (moment : Moment) : Prop
  | started (block : Block) (event : moment.event = .start block)
      (begins : moment.before.Begins block (moment.after rules))
      (none : ∀ record, ¬ moment.Accepts rules record)
  | refused (within : moment.event ≠ .start moment.event.block)
      (same : moment.after rules = moment.before)
      (none : ∀ record, ¬ moment.Accepts rules record)
  | accepted (within : moment.event ≠ .start moment.event.block)
      (record : TxRecord) (payload : Payload) (accepts : moment.Accepts rules record)
      (carried : record.payload = some payload)
      (height : record.blockHeight = moment.event.block.height)
      (time : record.blockTime = moment.event.block.time)
      (deed : Execute.Deed rules record.context moment.before record.details
        (moment.after rules) payload)

theorem outcome (rules : Rules) (regular : moment.before.Regular) : moment.Outcome rules := by
  cases moment.ran rules regular.sound.canonical with
  | started block event none =>
      have begins : moment.before.Begins block (moment.after rules) := by
        rw [after, event]
        exact Engine.prelude_does regular block
      exact .started block event begins none
  | refused within same none => exact .refused within same none
  | accepted within record m done accepts carried height time run state =>
      have start : (Journal.start moment.before).state.Sound := regular.sound
      refine .accepted within record m.payload accepts carried height time ?_
      rw [state]
      exact (Execute.message_does rules record.context start regular.trading m).of_ok run

end Moment

/-! ## Within a block -/

namespace State.Regular

variable {rules : Rules} {s : State}

/-- What the start of a block brings about and its transactions keep, each of them finds. -/
theorem amid (holds : Block → State → Prop) (regular : s.Regular)
    (step : ∀ moment : Moment, moment.before.Regular →
      (moment.event = .start moment.event.block ∨ holds moment.event.block moment.before) →
      holds moment.event.block (moment.after rules))
    (blocks : List Block) {moment : Moment}
    (member : moment ∈ s.history rules (blocks.flatMap Block.events)) :
    moment.event = .start moment.event.block ∨ holds moment.event.block moment.before := by
  have later : ∀ (block : Block) (transactions : List Tx) (position : Nat) (s : State),
      s.Regular → holds block s →
      ∀ moment ∈ s.history rules (block.eventsFrom position transactions),
        holds moment.event.block moment.before := by
    intro block transactions
    induction transactions with
    | nil => exact fun _ _ _ _ => nofun
    | cons tx rest ih =>
        intro position s regular held moment member
        rcases List.mem_cons.mp member with rfl | inside
        · exact held
        · exact ih (position + 1) _ (regular.next (.transaction block position tx))
            (step ⟨s, .transaction block position tx⟩ regular (Or.inr held)) moment inside
  induction blocks generalizing s with
  | nil => cases member
  | cons block rest ih =>
      rw [List.flatMap_cons, history_append, List.mem_append] at member
      rcases member with inside | behind
      · rcases List.mem_cons.mp inside with rfl | inside
        · exact Or.inl rfl
        · exact Or.inr (later block block.transactions 0 _ (regular.next (.start block))
            (step ⟨s, .start block⟩ regular (Or.inl rfl)) moment inside)
      · exact ih (regular.follow _) behind

end State.Regular
end TokenOverlay
