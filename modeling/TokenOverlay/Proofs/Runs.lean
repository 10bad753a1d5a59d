import TokenOverlay.Proofs.Gating

namespace TokenOverlay

/-!
Runs over rollbacks.  What an engine has been through since the first state is a
list of events on its active chain; a rollback leads back to a state of before,
in which nothing but receipts is forgotten, and the run goes on from there.
Laws of the state hold all along a run.
-/

/-- What has happened from one state to another; in between receipts may have been forgotten. -/
inductive State.Runs (rules : Rules) : State → List Moment → State → Prop
  | done (s : State) : Runs rules s [] s
  | event {s final : State} {event : Event} {moments : List Moment}
      (later : Runs rules (event.next rules s) moments final) :
      Runs rules s (⟨s, event⟩ :: moments) final
  | forget {s final : State} {moments : List Moment} (gone : List String)
      (later : Runs rules (s.forget gone) moments final) : Runs rules s moments final

namespace State.Runs

variable {rules : Rules} {s between final : State} {earlier later : List Moment} {moment : Moment}

theorem append (first : s.Runs rules earlier between) (second : between.Runs rules later final) :
    s.Runs rules (earlier ++ later) final := by
  induction first with
  | done => exact second
  | event _ ih => exact .event (ih second)
  | forget gone _ ih => exact .forget gone (ih second)

theorem single (rules : Rules) (moment : Moment) :
    moment.before.Runs rules [moment] (moment.after rules) :=
  .event (.done (moment.after rules))

/-- The moments of a history are a run. -/
theorem of_history (rules : Rules) (s : State) (events : List Event) :
    (s.history rules events).map Moment.event = events ∧
      s.Runs rules (s.history rules events) (s.follow rules events) := by
  induction events generalizing s with
  | nil => exact ⟨rfl, .done s⟩
  | cons event rest ih =>
      rcases ih (event.next rules s) with ⟨events, runs⟩
      exact ⟨congrArg (List.cons event) events, .event runs⟩

/-- A run comes past each of its moments. -/
theorem split (runs : s.Runs rules (earlier ++ moment :: later) final) :
    s.Runs rules earlier moment.before ∧ (moment.after rules).Runs rules later final := by
  generalize whole : earlier ++ moment :: later = moments at runs
  induction runs generalizing earlier with
  | done => simp at whole
  | event rest ih =>
      cases earlier with
      | nil =>
          cases whole
          exact ⟨.done _, rest⟩
      | cons first others =>
          cases whole
          rcases ih rfl with ⟨before, after⟩
          exact ⟨.event before, after⟩
  | forget gone _ ih =>
      rcases ih whole with ⟨before, after⟩
      exact ⟨.forget gone before, after⟩

end State.Runs

namespace Engine

variable {rules : Rules} {s final : State} {moments : List Moment}

/-- A law that holds where a run starts holds where it ends. -/
theorem Law.run (law : Law rules) (runs : s.Runs rules moments final) (sound : s.Sound)
    (held : law.holds s) : final.Sound ∧ law.holds final := by
  induction runs with
  | done => exact ⟨sound, held⟩
  | @event s _ event _ _ ih =>
      cases event with
      | start block => exact ih (prelude_sound block sound) (law.prelude block s sound held)
      | transaction block position tx =>
          have start : (Journal.start s).state.Sound := sound
          exact ih (processTransaction_sound rules block position tx start)
            (law.processTransaction block position tx start held)
  | forget gone _ ih => exact ih (sound.forget gone) (law.forget _ gone held)

/-- A run along each chain leads from the first state to the one that an engine has there. -/
def tracing (rules : Rules) : Invariant rules where
  allowed _ := True
  holds chain s := ∃ moments, moments.map Moment.event = Block.past chain ∧
    (genesisState rules.config).Runs rules moments s
  genesis := ⟨[], rfl, .done _⟩
  block := by
    rintro block chain s _ _ ⟨moments, past, runs⟩
    have within := State.Runs.of_history rules s block.events
    refine ⟨moments ++ s.history rules block.events, ?_, ?_⟩
    · rw [List.map_append, past, within.1, Block.past_cons]
    · rw [state_processBlock]
      exact runs.append within.2
  forget := by
    rintro _ _ chain s gone _ _ ⟨moments, past, runs⟩
    have whole := runs.append (.forget gone (.done (s.forget gone)))
    rw [List.append_nil] at whole
    exact ⟨moments, past, whole⟩

end Engine

namespace Session

/-- After any calls, and then within a block, a run has led from the first state to the state
that is there, by the events of the active chain and of the block so far. -/
theorem run_traces (rules : Rules) (calls : List Call) :
    let session := run rules calls
    let genesis := Engine.genesisState rules.config
    (∃ moments, moments.map Moment.event = Block.past session.active ∧
      genesis.Runs rules moments session.engine.state) ∧
    ∀ (block : Block) (done : List Tx), ∃ moments,
      moments.map Moment.event = Block.past session.active ++ block.opening done ∧
      genesis.Runs rules moments (Engine.processFrom rules block 0
        (Engine.prelude block (.start session.engine.state)).2 done).2.state := by
  intro session genesis
  have follows := run_follows (Engine.tracing rules) calls fun _ _ => trivial
  rcases follows.unwinds.holds with ⟨moments, past, runs⟩
  refine ⟨⟨moments, past, runs⟩, fun block done => ?_⟩
  have within := State.Runs.of_history rules session.engine.state (block.opening done)
  refine ⟨moments ++ session.engine.state.history rules (block.opening done), ?_, ?_⟩
  · rw [List.map_append, past, within.1]
  · rw [Engine.state_processFrom]
    exact runs.append within.2

end Session
end TokenOverlay
