import TokenOverlay.Proofs.Linked
import TokenOverlay.Proofs.Replay
import TokenOverlay.Proofs.Switching

namespace TokenOverlay

/-!
When a feature is on.  What happened on a chain says it: an activation is in
force from the block on that it is aimed at, unless it is replaced before that
block starts, and until the feature is switched off.  The status that is stored
for the feature keeps up with this at every event, so the stored features of an
engine are the ones that its active chain has switched on.

Activations are aimed at later blocks here, that is, the network asks for a
notice of one block at least.
-/

open Block (Linked tipOf)

/-! ## Control messages -/

namespace Moment

variable {rules : Rules} {moment : Moment} {record : TxRecord} {payload : Payload}
  {id : FeatureId} {target : Nat}

/-- An accepted message aims a feature at a block. -/
def Activates (rules : Rules) (id : FeatureId) (target : Nat) (moment : Moment) : Prop :=
  ∃ record aim version, moment.Accepts rules record ∧
    record.payload = some (.activate id aim version) ∧ aim.toNat = target

/-- An accepted message switches a feature off. -/
def Deactivates (rules : Rules) (id : FeatureId) (moment : Moment) : Prop :=
  ∃ record, moment.Accepts rules record ∧ record.payload = some (.deactivate id)

theorem activates_iff (accepts : moment.Accepts rules record)
    (carried : record.payload = some payload) : moment.Activates rules id target ↔
      ∃ aim version, payload = .activate id aim version ∧ aim.toNat = target := by
  constructor
  · rintro ⟨other, aim, version, accepts', carried', aimed⟩
    have same := accepts.1.symm.trans accepts'.1
    cases same
    rw [carried] at carried'
    exact ⟨aim, version, Option.some.inj carried', aimed⟩
  · rintro ⟨aim, version, rfl, aimed⟩
    exact ⟨record, aim, version, accepts, carried, aimed⟩

theorem deactivates_iff (accepts : moment.Accepts rules record)
    (carried : record.payload = some payload) :
    moment.Deactivates rules id ↔ payload = .deactivate id := by
  constructor
  · rintro ⟨other, accepts', carried'⟩
    have same := accepts.1.symm.trans accepts'.1
    cases same
    rw [carried] at carried'
    exact Option.some.inj carried'
  · rintro rfl
    exact ⟨record, accepts, carried⟩

/-- Control messages are accepted from authorized senders, and activations with due notice. -/
theorem control (regular : moment.before.Regular) (accepts : moment.Accepts rules record)
    (id : FeatureId) :
    (∀ target version, record.payload = some (.activate id target version) →
      rules.config.authorizes record.sender = true ∧
        moment.event.block.height + rules.params.minActivationBlocks ≤ target.toNat ∧
        target.toNat ≤ moment.event.block.height + rules.params.maxActivationBlocks) ∧
    (record.payload = some (.deactivate id) →
      rules.config.authorizes record.sender = true) := by
  cases moment.outcome rules regular with
  | started _ _ _ none => exact absurd accepts (none record)
  | refused _ _ none => exact absurd accepts (none record)
  | accepted _ other payload accepts' carried height _ deed =>
      have same := accepts.1.symm.trans accepts'.1
      cases same
      refine ⟨fun target version asked => ?_, fun asked => ?_⟩
      · rw [carried] at asked
        cases asked
        rcases deed with ⟨authorized, admitted, _⟩
        have noticed := GraceWindow.admits_iff.mp admitted
        rw [TxRecord.context, height] at noticed
        exact ⟨authorized, noticed⟩
      · rw [carried] at asked
        cases asked
        rcases deed with ⟨authorized, _⟩
        exact authorized

/-- With a notice of one block at least, activations are aimed at later blocks. -/
theorem Activates.ahead (activates : moment.Activates rules id target)
    (notice : 1 ≤ rules.params.minActivationBlocks) (regular : moment.before.Regular) :
    moment.event.block.height < target := by
  rcases activates with ⟨record, aim, version, accepts, asked, rfl⟩
  have noticed := ((control regular accepts id).1 aim version asked).2.1
  omega

/-- What is not accepted is no control message. -/
theorem plain_of_none (none : ∀ record, ¬ moment.Accepts rules record) :
    ¬ moment.Deactivates rules id ∧ ∀ target, ¬ moment.Activates rules id target :=
  ⟨fun ⟨record, accepts, _⟩ => none record accepts,
    fun _ ⟨record, _, _, accepts, _⟩ => none record accepts⟩

end Moment

/-! ## Activations that stand -/

section

variable (rules : Rules) (id : FeatureId)

/-- Some activation aims the feature at a block, it has not been replaced before that block, and
the feature has not been switched off since. -/
def Standing (past : List Moment) (target : Nat) : Prop :=
  ∃ first activation middle, past = first ++ activation :: middle ∧
    activation.Activates rules id target ∧
    (∀ moment ∈ middle, ¬ moment.Deactivates rules id) ∧
    ∀ moment ∈ middle, ∀ other, moment.Activates rules id other →
      target ≤ moment.event.block.height

/-- An activation in an earlier block aimed the feature at a block that has been reached, and it
stands. -/
def InForce (height : Nat) (past : List Moment) : Prop :=
  ∃ first activation middle target, past = first ++ activation :: middle ∧
    activation.Activates rules id target ∧ activation.event.block.height < height ∧
    target ≤ height ∧ (∀ moment ∈ middle, ¬ moment.Deactivates rules id) ∧
    ∀ moment ∈ middle, ∀ other, moment.Activates rules id other →
      target ≤ moment.event.block.height

end

section

variable {rules : Rules} {id : FeatureId} {past : List Moment} {moment : Moment}
  {target height : Nat}

/-- What stands behind one more moment is what it sets up, or what stood before and what it
neither ends nor replaces. -/
theorem standing_concat : Standing rules id (past ++ [moment]) target ↔
    moment.Activates rules id target ∨ Standing rules id past target ∧
      ¬ moment.Deactivates rules id ∧
      ∀ other, moment.Activates rules id other → target ≤ moment.event.block.height := by
  constructor
  · rintro ⟨first, activation, middle, split, activates, staying, kept⟩
    rcases List.eq_nil_or_concat middle with rfl | ⟨middle, last, rfl⟩
    · rcases List.append_singleton_inj.mp split with ⟨rfl, rfl⟩
      exact Or.inl activates
    · rw [List.concat_eq_append, ← List.cons_append, ← List.append_assoc] at split
      rcases List.append_singleton_inj.mp split with ⟨rfl, rfl⟩
      have member : moment ∈ middle.concat moment := by simp
      refine Or.inr ⟨⟨first, activation, middle, rfl, activates, ?_, ?_⟩, staying moment member,
        kept moment member⟩
      · exact fun other inside => staying other (by simp [inside])
      · exact fun other inside => kept other (by simp [inside])
  · rintro (activates | ⟨⟨first, activation, middle, rfl, activates, staying, kept⟩, stays, keeps⟩)
    · exact ⟨past, moment, [], rfl, activates, nofun, nofun⟩
    · refine ⟨first, activation, middle ++ [moment], ?_, activates, ?_, ?_⟩
      · simp
      · intro other member
        rcases List.mem_append.mp member with inside | last
        · exact staying other inside
        · exact List.mem_singleton.mp last ▸ stays
      · intro other member
        rcases List.mem_append.mp member with inside | last
        · exact kept other inside
        · exact List.mem_singleton.mp last ▸ keeps

/-- A moment that is no control message of the feature changes nothing about what stands. -/
theorem standing_concat_of_plain (staying : ¬ moment.Deactivates rules id)
    (idle : ∀ other, ¬ moment.Activates rules id other) :
    Standing rules id (past ++ [moment]) target ↔ Standing rules id past target := by
  rw [standing_concat]
  constructor
  · rintro (activates | ⟨standing, _⟩)
    · exact absurd activates (idle target)
    · exact standing
  · exact fun standing => Or.inr ⟨standing, staying, fun other activates =>
      absurd activates (idle other)⟩

/-- Activations that are aimed at later blocks are in force when they stand and their block has
come. -/
theorem inForce_iff (ahead : ∀ moment ∈ past, ∀ target, moment.Activates rules id target →
      moment.event.block.height < target) :
    InForce rules id height past ↔ ∃ target ≤ height, Standing rules id past target := by
  constructor
  · rintro ⟨first, activation, middle, target, split, activates, _, come, staying, kept⟩
    exact ⟨target, come, first, activation, middle, split, activates, staying, kept⟩
  · rintro ⟨target, come, first, activation, middle, split, activates, staying, kept⟩
    have member : activation ∈ past := by rw [split]; simp
    have before := ahead activation member target activates
    exact ⟨first, activation, middle, target, split, activates, by omega, come, staying, kept⟩

end

/-! ## The stored status -/

/-- The stored status of a feature tells what stands: nothing, an activation aimed at a block
that is still to come, or one whose block has come. -/
inductive Tracks (rules : Rules) (id : FeatureId) (next : Nat) (past : List Moment) :
    Option (Nat × Bool) → Prop
  | off (nothing : ∀ target, ¬ Standing rules id past target) : Tracks rules id next past none
  | pending (target : Nat) (ahead : next ≤ target) (standing : Standing rules id past target)
      (only : ∀ other, Standing rules id past other → other = target) :
      Tracks rules id next past (some (target, false))
  | on (target : Nat) (come : target < next) (standing : Standing rules id past target) :
      Tracks rules id next past (some (target, true))

namespace Tracks

variable {rules : Rules} {id : FeatureId} {next : Nat} {past : List Moment}
  {status : Option (Nat × Bool)}

/-- A feature is on exactly if something stands whose block has come. -/
theorem on_iff (tracks : Tracks rules id next past status) :
    (status.map Prod.snd).getD false = true ↔
      ∃ target, target < next ∧ Standing rules id past target := by
  cases tracks with
  | off nothing => simp [nothing]
  | pending target ahead standing only =>
      simp only [Option.map_some, Option.getD_some, Bool.false_eq_true, false_iff]
      rintro ⟨other, come, standing'⟩
      have same := only other standing'
      omega
  | on target come standing => simpa using ⟨target, come, standing⟩

/-- The status keeps up with the start of the next block. -/
theorem start (tracks : Tracks rules id next past status) {moment : Moment}
    (idle : ∀ record, ¬ moment.Accepts rules record)
    (timely : next ≤ moment.event.block.height + 1) :
    Tracks rules id (moment.event.block.height + 1) (past ++ [moment])
      (status.map fun status =>
        (status.1, status.2 || decide (status.1 ≤ moment.event.block.height))) := by
  have same : ∀ target, Standing rules id (past ++ [moment]) target ↔
      Standing rules id past target := fun target =>
    standing_concat_of_plain (Moment.plain_of_none idle).1 (Moment.plain_of_none idle).2
  cases tracks with
  | off nothing => exact .off fun target standing => nothing target ((same target).mp standing)
  | pending target ahead standing only =>
      by_cases come : target ≤ moment.event.block.height
      · simp only [Option.map_some, Bool.false_or, come, decide_true]
        exact .on target (by omega) ((same target).mpr standing)
      · simp only [Option.map_some, Bool.false_or, come, decide_false]
        exact .pending target (by omega) ((same target).mpr standing)
          fun other standing' => only other ((same other).mp standing')
  | on target come standing =>
      simp only [Option.map_some, Bool.true_or]
      exact .on target (by omega) ((same target).mpr standing)

theorem congr (tracks : Tracks rules id next past status) {later : List Moment}
    (same : ∀ target, Standing rules id later target ↔ Standing rules id past target) :
    Tracks rules id next later status := by
  cases tracks with
  | off nothing => exact .off fun target standing => nothing target ((same target).mp standing)
  | pending target ahead standing only =>
      exact .pending target ahead ((same target).mpr standing)
        fun other standing' => only other ((same other).mp standing')
  | on target come standing => exact .on target come ((same target).mpr standing)

/-- The status keeps up with an accepted message, if activations are aimed at later blocks. -/
theorem message (tracks : Tracks rules id next past status) {moment : Moment}
    {record : TxRecord} {payload : Payload} (accepts : moment.Accepts rules record)
    (carried : record.payload = some payload)
    (current : next = moment.event.block.height + 1)
    (ahead : ∀ target, moment.Activates rules id target → next ≤ target) :
    Tracks rules id next (past ++ [moment]) (payload.switch id status) := by
  have activates : ∀ target, moment.Activates rules id target ↔ ∃ aim version,
      payload = .activate id aim version ∧ aim.toNat = target :=
    fun _ => Moment.activates_iff accepts carried
  have deactivates : moment.Deactivates rules id ↔ payload = .deactivate id :=
    Moment.deactivates_iff accepts carried
  by_cases off : payload = .deactivate id
  · subst off
    rw [Payload.switch, if_pos rfl]
    refine .off fun target standing => ?_
    rcases standing_concat.mp standing with starts | ⟨_, stays, _⟩
    · rcases (activates target).mp starts with ⟨_, _, impossible, _⟩
      cases impossible
    · exact stays (deactivates.mpr rfl)
  by_cases aimed : ∃ aim version, payload = .activate id aim version
  · rcases aimed with ⟨aim, version, rfl⟩
    have starts : moment.Activates rules id aim.toNat :=
      (activates aim.toNat).mpr ⟨aim, version, rfl, rfl⟩
    cases active : (status.map Prod.snd).getD false with
    | true =>
        rw [Payload.switch, if_neg fun both => by simp [active] at both]
        cases tracks with
        | off => cases active
        | pending => cases active
        | on target come standing =>
            refine .on target come (standing_concat.mpr (Or.inr ⟨standing, ?_, fun _ _ => ?_⟩))
            · exact mt deactivates.mp off
            · omega
    | false =>
        rw [Payload.switch, if_pos ⟨rfl, active⟩]
        refine .pending aim.toNat (ahead _ starts) (standing_concat.mpr (Or.inl starts)) ?_
        intro other standing
        rcases standing_concat.mp standing with starts' | ⟨old, _, kept⟩
        · rcases (activates other).mp starts' with ⟨_, _, same, value⟩
          cases same
          exact value.symm
        · -- What stood before has been replaced in time.
          have come := kept aim.toNat starts
          cases tracks with
          | off nothing => exact absurd old (nothing other)
          | pending target later _ only =>
              have same := only other old
              omega
          | on => cases active
  · rw [Payload.switch_of_plain off fun aim version same => aimed ⟨aim, version, same⟩]
    refine tracks.congr fun target => standing_concat_of_plain (mt deactivates.mp off) ?_
    intro other starts
    rcases (activates other).mp starts with ⟨aim, version, same, _⟩
    exact aimed ⟨aim, version, same⟩

section

variable (notice : 1 ≤ rules.params.minActivationBlocks)

include notice

/-- The status keeps up with whatever happens: with the start of the block that is next, or with
a transaction of the block that has started. -/
theorem step {moment : Moment} (regular : moment.before.Regular)
    (tracks : Tracks rules id next past (moment.before.features.status? id))
    (timely : next ≤ moment.event.block.height + 1)
    (current : moment.event ≠ .start moment.event.block →
      next = moment.event.block.height + 1) :
    Tracks rules id (moment.event.block.height + 1) (past ++ [moment])
      ((moment.after rules).features.status? id) := by
  cases moment.outcome rules regular with
  | started block event begins none =>
      have same : moment.event.block = block := by
        rw [event]
        rfl
      rw [begins.status id, ← same]
      exact tracks.start none timely
  | refused within same none =>
      rw [same, ← current within]
      exact tracks.congr fun target =>
        standing_concat_of_plain (Moment.plain_of_none none).1 (Moment.plain_of_none none).2
  | accepted within record payload accepts carried _ _ deed =>
      rw [deed.status id, ← current within]
      refine tracks.message accepts carried (current within) fun target activates => ?_
      have later := activates.ahead notice regular
      have now := current within
      omega

theorem transactions {block : Block} (done : List Tx) (position : Nat) {s : State}
    (regular : s.Regular)
    (tracks : Tracks rules id (block.height + 1) past (s.features.status? id)) :
    Tracks rules id (block.height + 1)
      (past ++ s.history rules (block.eventsFrom position done))
      ((s.follow rules (block.eventsFrom position done)).features.status? id) := by
  induction done generalizing position past s with
  | nil =>
      rw [Block.eventsFrom, State.history, List.append_nil]
      exact tracks
  | cons tx rest ih =>
      have met : (Moment.mk s (.transaction block position tx)).before.Regular := regular
      have after := tracks.step notice met (Nat.le_refl _) fun _ => rfl
      have later := ih (position + 1) (regular.next (.transaction block position tx)) after
      rw [List.append_assoc] at later
      exact later

/-- The status keeps up with the start of the next block and with its first transactions. -/
theorem opening {block : Block} (done : List Tx) {s : State} (regular : s.Regular)
    (tracks : Tracks rules id block.height past (s.features.status? id)) :
    Tracks rules id (block.height + 1) (past ++ s.history rules (block.opening done))
      ((s.follow rules (block.opening done)).features.status? id) := by
  have met : (Moment.mk s (.start block)).before.Regular := regular
  have started := tracks.step notice met (Nat.le_succ _) fun within => absurd rfl within
  have later := transactions notice done 0 (regular.next (.start block)) started
  rw [List.append_assoc] at later
  exact later

end

end Tracks

/-! ## Chains -/

namespace Block

/-- All that happens on a chain, whose blocks are given newest first. -/
def past (chain : List Block) : List Event := chain.reverse.flatMap Block.events

theorem past_cons (block : Block) (older : List Block) :
    past (block :: older) = past older ++ block.events := by
  simp [past]

end Block

namespace Engine

variable {rules : Rules} {id : FeatureId}

theorem replayState_eq_follow (chain : List Block) :
    replayState rules chain = (genesisState rules.config).follow rules (Block.past chain) := by
  induction chain with
  | nil => rfl
  | cons block older ih =>
      rw [replayState, ih, state_processBlock, Block.past_cons, State.follow_append]

theorem regular_replayState (chain : List Block) : (replayState rules chain).Regular := by
  rw [replayState_eq_follow]
  exact (State.Regular.genesis rules).follow _

/-- On a chain the status of a feature tells what stands by what happened on the chain. -/
theorem tracks_replayState (notice : 1 ≤ rules.params.minActivationBlocks) {chain : List Block}
    (linked : Linked rules.params.genesisBlock chain) (id : FeatureId) :
    Tracks rules id (rules.params.genesisBlock + chain.length)
      ((genesisState rules.config).history rules (Block.past chain))
      ((replayState rules chain).features.status? id) := by
  induction chain with
  | nil =>
      have empty : (replayState rules []).features.status? id = none := by
        rw [replayState, features_genesisState]
        rfl
      rw [empty]
      refine .off ?_
      rintro target ⟨first, activation, middle, impossible, _⟩
      simp [Block.past, State.history] at impossible
  | cons block older ih =>
      have before := ih linked.2.2
      rw [← linked.1] at before
      have after := before.opening notice block.transactions (regular_replayState older)
      rw [linked.1, replayState_eq_follow older, ← State.history_append] at after
      rw [Block.past_cons, replayState, state_processBlock, replayState_eq_follow older]
      exact after

/-- Within a block that is linked to a chain, the features that are on are those in force. -/
theorem gated (notice : 1 ≤ rules.params.minActivationBlocks) {block : Block}
    {older : List Block} (linked : Linked rules.params.genesisBlock (block :: older))
    (done : List Tx) (id : FeatureId) :
    ((genesisState rules.config).follow rules
        (Block.past older ++ block.opening done)).features.isActive id = true ↔
      InForce rules id block.height
        ((genesisState rules.config).history rules (Block.past older ++ block.opening done)) := by
  have before := tracks_replayState notice linked.2.2 id
  rw [← linked.1] at before
  have within := before.opening notice done (regular_replayState older)
  rw [replayState_eq_follow, ← State.history_append, ← State.follow_append] at within
  rw [FeatureTable.isActive_eq, within.on_iff, inForce_iff]
  · simp only [Nat.lt_succ_iff]
  · intro moment member target activates
    exact activates.ahead notice ((State.Regular.genesis rules).before member)

/-- The features of an engine are those of its chain. -/
def switching (rules : Rules) : Invariant rules where
  allowed _ := True
  holds chain s := (orderly rules).holds s ∧ s.Alike (replayState rules chain)
  genesis := ⟨(orderly rules).genesis, fun _ => rfl⟩
  block := by
    rintro block chain s _ sound ⟨held, alike⟩
    have regular : s.Regular := ⟨sound, held.1, held.2⟩
    refine ⟨(orderly rules).invariant.block block chain s trivial sound held, ?_⟩
    rw [replayState, state_processBlock, state_processBlock]
    exact alike.follow regular (regular_replayState chain) block.events
  forget := by
    rintro block newer chain s gone _ _ ⟨held, alike⟩
    exact ⟨(orderly rules).forget s gone held, alike⟩

end Engine
/-! ## Runs -/

namespace Session

/-- After any calls, a feature is on within the next block, behind any of its transactions,
exactly if it is in force by what happened on the active chain and in the block so far, and the
same holds within each block of the active chain.  Activations and deactivations are accepted
there from authorized senders only, and activations only if they are aimed at a block inside
the grace window.  A stored feature is on if its block has come, and pending if it has not. -/
theorem run_gates_features (rules : Rules) (notice : 1 ≤ rules.params.minActivationBlocks)
    (calls : List Call) :
    let session := run rules calls
    let genesis := Engine.genesisState rules.config
    (∀ block, session.engine.misfit? block = none → ∀ (done : List Tx) (id : FeatureId),
      (Engine.processFrom rules block 0 (Engine.prelude block (.start session.engine.state)).2
          done).2.state.features.isActive id = true ↔
        InForce rules id block.height
          (genesis.history rules (Block.past session.active ++ block.opening done))) ∧
    (∀ newer block older, session.active = newer ++ block :: older →
      ∀ (done : List Tx) (id : FeatureId),
        (genesis.follow rules
            (Block.past older ++ block.opening done)).features.isActive id = true ↔
          InForce rules id block.height
            (genesis.history rules (Block.past older ++ block.opening done))) ∧
    (∀ events, ∀ moment ∈ genesis.history rules events, ∀ record, moment.Accepts rules record →
      ∀ id,
        (∀ target version, record.payload = some (.activate id target version) →
          rules.config.authorizes record.sender = true ∧
          moment.event.block.height + rules.params.minActivationBlocks ≤ target.toNat ∧
          target.toNat ≤ moment.event.block.height + rules.params.maxActivationBlocks) ∧
        (record.payload = some (.deactivate id) →
          rules.config.authorizes record.sender = true)) ∧
    ∀ id feature, session.engine.state.features.get? id = some feature →
      ∃ tip, session.engine.tip = some tip ∧
        (feature.completed = true → feature.activationBlock ≤ tip.height) ∧
        (feature.completed = false → tip.height < feature.activationBlock) := by
  intro session genesis
  have follows := run_follows (Engine.switching rules) calls fun _ _ => trivial
  have regular : session.engine.state.Regular := .of_reached (.idle calls)
  have alike : session.engine.state.Alike (Engine.replayState rules session.active) :=
    follows.unwinds.holds.2
  refine ⟨?_, ?_, ?_, ?_⟩
  · intro block fits done id
    have same : (session.engine.state.follow rules (block.opening done)).features.status? id = _ :=
      alike.follow regular (Engine.regular_replayState session.active) (block.opening done) id
    rw [Engine.replayState_eq_follow, ← State.follow_append] at same
    rw [← Engine.gated notice (follows.linked_of_fits fits) done id, FeatureTable.isActive_eq,
      FeatureTable.isActive_eq, ← same, Engine.state_processFrom]
    rfl
  · intro newer block older split done id
    have linked : Linked rules.params.genesisBlock session.active := follows.linked
    rw [split] at linked
    exact Engine.gated notice linked.of_append done id
  · intro events moment member record accepts id
    exact Moment.control ((State.Regular.genesis rules).before member) accepts id
  · intro id feature stored
    have status : session.engine.state.features.status? id =
        some (feature.activationBlock, feature.completed) := by
      rw [FeatureTable.status?, stored]
      rfl
    have tracks : Tracks rules id (rules.params.genesisBlock + session.active.length) _ _ :=
      Engine.tracks_replayState notice follows.linked id
    rw [← alike id, status] at tracks
    have linked : Linked rules.params.genesisBlock session.active := follows.linked
    have atTip : session.engine.tip = tipOf session.active := follows.tip
    cases chain : session.active with
    | nil =>
        have none := alike id
        rw [chain, Engine.replayState, Engine.features_genesisState, status] at none
        cases none
    | cons block older =>
        rw [chain] at linked atTip
        have next : rules.params.genesisBlock + session.active.length = block.height + 1 := by
          rw [chain, linked.1]
          rfl
        rw [next] at tracks
        refine ⟨⟨block.height, block.hash⟩, atTip, ?_⟩
        cases completed : feature.completed with
        | false =>
            rw [completed] at tracks
            cases tracks with
            | pending _ ahead =>
                exact ⟨fun on => absurd on Bool.false_ne_true, fun _ => ahead⟩
        | true =>
            rw [completed] at tracks
            cases tracks with
            | on _ come =>
                exact ⟨fun _ => Nat.lt_succ_iff.mp come,
                  fun off => absurd off.symm Bool.false_ne_true⟩

/-- Two owners of the main token, who may switch features like everyone else. -/
def switchers : Rules :=
  { twoOwners with config := { twoOwners.config with allowedSenders := ["any"] } }

/-- A block that aims a feature at the height 5, and the blocks up to the height 4. -/
def scheduling : List Call := [
  .apply ⟨0, "0", "", 0, [⟨"s", "a", none, Message.encode (Payload.activate 10 5 0).toMessage⟩]⟩,
  .apply ⟨1, "1", "0", 0, []⟩,
  .apply ⟨2, "2", "1", 0, []⟩,
  .apply ⟨3, "3", "2", 0, []⟩,
  .apply ⟨4, "4", "3", 0, []⟩]

/-- The feature is on within the block that it was aimed at, and it is in force there. -/
theorem run_gates_features_scheduled :
    let session := run switchers scheduling
    1 ≤ switchers.params.minActivationBlocks ∧
    session.engine.misfit? ⟨5, "5", "4", 0, []⟩ = none ∧
    (Engine.processFrom switchers ⟨5, "5", "4", 0, []⟩ 0
      (Engine.prelude ⟨5, "5", "4", 0, []⟩ (.start session.engine.state)).2
        []).2.state.features.isActive 10 = true ∧
    InForce switchers 10 5 ((Engine.genesisState switchers.config).history switchers
      (Block.past session.active ++ Block.opening ⟨5, "5", "4", 0, []⟩ [])) := by
  intro session
  have notice : 1 ≤ switchers.params.minActivationBlocks := by decide
  have fits : session.engine.misfit? ⟨5, "5", "4", 0, []⟩ = none := by decide +kernel
  have on : (Engine.processFrom switchers ⟨5, "5", "4", 0, []⟩ 0
      (Engine.prelude ⟨5, "5", "4", 0, []⟩ (.start session.engine.state)).2
        []).2.state.features.isActive 10 = true := by decide +kernel
  have gates := (run_gates_features switchers notice scheduling).1 _ fits [] 10
  exact ⟨notice, fits, on, gates.mp on⟩

end Session
end TokenOverlay
