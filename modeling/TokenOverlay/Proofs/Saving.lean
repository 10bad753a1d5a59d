import TokenOverlay.Proofs.Convergence

namespace TokenOverlay

/-!
What is on file when a round is over.  Nothing is assumed about the source: it
may fail at any question, answer with blocks that do not fit, or change its
chain from one question to the next.  Every step of the round either leaves the
engine alone or is counted in the outcome, and an outcome that counts something
is saved before the round ends.
-/

namespace Engine

/-- The engine comes from a fresh one by calls alone. -/
def InUse (rules : Rules) (e : Engine) : Prop := ∃ calls, (Session.run rules calls).engine = e

namespace InUse

variable {rules : Rules} {e after : Engine}

theorem fresh (rules : Rules) : InUse rules (.fresh rules) := ⟨[], rfl⟩

theorem applyBlock (inUse : InUse rules e) {block : Block} {summary : BlockSummary}
    (applied : e.applyBlock block = .ok (after, summary)) : InUse rules after := by
  rcases inUse with ⟨calls, rfl⟩
  refine ⟨calls ++ [.apply block], ?_⟩
  simp only [Session.run_concat, Session.call, applied]

theorem rollbackTo (inUse : InUse rules e) (height : Nat) :
    InUse rules (e.rollbackTo height).2 := by
  rcases inUse with ⟨calls, rfl⟩
  refine ⟨calls ++ [.rollback height], ?_⟩
  rw [Session.run_concat, Session.call]
  rcases (Session.run rules calls).engine.rollbackTo height with ⟨reason | txids, after⟩ <;> rfl

/-- The books of an engine in use are in order, also after a rollback. -/
theorem verifySupply_rollbackTo (inUse : InUse rules e) (height : Nat) :
    (e.rollbackTo height).2.verifySupply = .ok () := by
  rcases inUse with ⟨calls, rfl⟩
  exact (Session.run_follows_books rules calls).verifySupply_rollbackTo height

end InUse

/-- No block is refused for the history that it would need. -/
theorem applyBlock_ne_reorgInconsistency (e : Engine) (block : Block) (text : String) :
    e.applyBlock block ≠ .error (.reorgInconsistency text) := by
  intro refused
  unfold applyBlock misfit? at refused
  by_cases inOrder : block.height ≠ e.nextHeight
  · simp only [if_pos inOrder] at refused
    cases refused
  · cases atTip : e.tip with
    | none =>
        simp only [if_neg inOrder, atTip] at refused
        cases refused
    | some tip =>
        by_cases other : tip.hash ≠ block.parentHash
        · simp only [if_neg inOrder, atTip, if_pos other] at refused
          cases refused
        · simp only [if_neg inOrder, atTip, if_neg other] at refused
          cases refused

end Engine

open Engine (InUse)

/-- A stored snapshot is written down to the tip, which comes last. -/
theorem StoredSnapshot.toList_render (s : StoredSnapshot) : ∃ before, s.toJson.render.toList =
    before ++ ((Json.ofOption Tip.toJson s.snapshot.tip).render ++ "\x7d\x7d").toList := by
  refine ⟨?before, ?same⟩
  case same =>
    simp only [toJson, Snapshot.toJson, Json.render, Json.renderMembers, String.toList_append]
    rw [show "\x7d\x7d".toList = "\x7d".toList ++ "\x7d".toList from rfl]
    simp only [← List.append_assoc]
    rfl

/-- The file holds a snapshot, saved for a network at some time. -/
def StoredFile.Keeps (file : StoredFile) (network : String) (snapshot : Snapshot) : Prop :=
  ∃ savedAt, file = .text
    (StoredSnapshot.toJson ⟨StoredSnapshot.currentFormat, network, savedAt, snapshot⟩).render

/-- Where the file holds two snapshots, their tips are written alike. -/
theorem StoredFile.Keeps.render_tip {file : StoredFile} {network : String} {left right : Snapshot}
    (keeps : file.Keeps network left) (also : file.Keeps network right)
    (length : (Json.ofOption Tip.toJson left.tip).render.toList.length =
      (Json.ofOption Tip.toJson right.tip).render.toList.length) :
    (Json.ofOption Tip.toJson left.tip).render.toList =
      (Json.ofOption Tip.toJson right.tip).render.toList := by
  rcases keeps with ⟨first, rfl⟩
  rcases also with ⟨second, same⟩
  injection same with same
  rcases StoredSnapshot.toList_render ⟨StoredSnapshot.currentFormat, network, first, left⟩ with
    ⟨before, written⟩
  rcases StoredSnapshot.toList_render ⟨StoredSnapshot.currentFormat, network, second, right⟩ with
    ⟨other, rewritten⟩
  rw [same, rewritten, String.toList_append, String.toList_append, ← List.append_assoc,
    ← List.append_assoc] at written
  exact (List.append_inj' (List.append_cancel_right written) length.symm).2.symm

/-- The round ended because the engine and the source have no history in common. -/
def Halt.Fatal (halt : Halt) : Prop :=
  ∃ text, halt = .failed (.engine (.reorgInconsistency text))

namespace Follower

variable {σ : Type}

/-- What is on file is the snapshot of the engine, or nothing has happened that could be saved. -/
def InStep (config : FollowerConfig σ) (f : Follower σ) : Prop :=
  f.file.Keeps config.network f.engine.snapshot ∨
    f.file = .absent ∧ f.engine = .fresh f.engine.rules

/-- Since the start neither the engine nor the file changed, or what is on file is the snapshot of
the engine. -/
def Filed (config : FollowerConfig σ) (start f : Follower σ) : Prop :=
  f.engine = start.engine ∧ f.file = start.file ∨
    f.file.Keeps config.network f.engine.snapshot

/-- Blocks were taken back, and then the supply did not add up. -/
def OutOfBalance (start f : Follower σ) (halt : Halt) : Prop :=
  ∃ height reason, halt = .failed (.engine reason) ∧
    start.engine.rollbackTo height = (.error reason, f.engine) ∧
    f.engine.verifySupply = .error reason ∧ f.file = start.file

/-- The file is still that of the start, and an engine that changed is counted in the outcome. -/
structure Counted (start : Follower σ) (outcome : SyncOutcome) (f : Follower σ) : Prop where
  file : f.file = start.file
  engine : outcome.changed = false → f.engine = start.engine
  inUse : ∀ rules, InUse rules start.engine → InUse rules f.engine

/-- The follower is as it was at the start, but for the source and the time. -/
abbrev Idle (start f : Follower σ) : Prop := f.Ready (fun _ => True) start.file start.engine

/-- What a round leaves behind when it is over. -/
def Done (config : FollowerConfig σ) (start f : Follower σ) : Prop :=
  start.Filed config f ∧ ∀ rules, InUse rules start.engine → InUse rules f.engine

variable {config : FollowerConfig σ} {start f : Follower σ}

theorem Idle.refl (f : Follower σ) : f.Idle f := ⟨trivial, rfl, rfl⟩

theorem Idle.counted (idle : start.Idle f) (outcome : SyncOutcome) : start.Counted outcome f where
  file := idle.file
  engine := fun _ => idle.engine
  inUse := fun _ inUse => idle.engine ▸ inUse

theorem Idle.done (idle : start.Idle f) : start.Done config f :=
  ⟨Or.inl ⟨idle.engine, idle.file⟩, fun _ inUse => idle.engine ▸ inUse⟩

theorem InStep.not_directory (inStep : f.InStep config) : f.file ≠ .directory := by
  rcases inStep with ⟨savedAt, text⟩ | ⟨absent, _⟩
  · rw [text]
    exact nofun
  · rw [absent]
    exact nofun

theorem Done.inStep (done : start.Done config f) (inStep : start.InStep config) :
    f.InStep config := by
  rcases done.1 with ⟨engine, file⟩ | keeps
  · unfold InStep
    rw [engine, file]
    exact inStep
  · exact Or.inl keeps

theorem not_outOfBalance {rules : Rules} (inUse : InUse rules start.engine) {halt : Halt} :
    ¬ start.OutOfBalance f halt := by
  rintro ⟨height, reason, _, run, check, _⟩
  have passes := inUse.verifySupply_rollbackTo height
  rw [run, check] at passes
  cases passes

end Follower

namespace Sync

open Follower (Idle Counted Done InStep Filed OutOfBalance)

variable {σ α : Type} {config : FollowerConfig σ} {start f : Follower σ} {savedAt : String}

/-! ## Questions -/

theorem askOnce_yields (question : Attempt σ SourceError α) (idle : start.Idle f) :
    (askOnce question).Yields (fun _ => start.Idle)
      (fun halt after => ¬ halt.Fatal ∧ start.Idle after) f := by
  rcases answer : question f.sourceState with ⟨error | value, state⟩
  · simp only [Attempt.Yields, askOnce, answer]
    refine ⟨?_, trivial, idle.file, idle.engine⟩
    rintro ⟨text, impossible⟩
    cases impossible
  · simp only [Attempt.Yields, askOnce, answer]
    exact ⟨trivial, idle.file, idle.engine⟩

theorem pause_yields (ms : Nat) (idle : start.Idle f) :
    (pause ms).Yields (fun _ => start.Idle)
      (fun halt after => ¬ halt.Fatal ∧ start.Idle after) f := by
  cases moment : f.stopMs with
  | none =>
      simp only [Attempt.Yields, pause, moment]
      exact ⟨trivial, idle.file, idle.engine⟩
  | some stop =>
      by_cases late : stop < f.clockMs + ms
      · simp only [Attempt.Yields, pause, moment, if_pos late]
        refine ⟨?_, trivial, idle.file, idle.engine⟩
        rintro ⟨text, impossible⟩
        cases impossible
      · simp only [Attempt.Yields, pause, moment, if_neg late]
        exact ⟨trivial, idle.file, idle.engine⟩

/-- While a question is put to the source the engine and the file rest, however it ends. -/
theorem ask_yields (name : String) (question : Attempt σ SourceError α) (idle : start.Idle f) :
    (ask config name question).Yields (fun _ => start.Idle)
      (fun halt after => ¬ halt.Fatal ∧ start.Idle after) f := by
  unfold ask Retry.run
  generalize config.retry.maxAttempts - 1 = reserve
  generalize 0 = failures
  induction reserve generalizing failures f with
  | zero =>
      have tried := askOnce_yields question idle
      rcases run : askOnce question f with ⟨halt | value, g⟩
      · simp only [Attempt.Yields, Retry.tryFrom, run]
        exact tried.of_error run
      · by_cases again : 0 < failures
        · simp only [Attempt.Yields, Retry.tryFrom, run, if_pos again]
          exact tried.of_ok run
        · simp only [Attempt.Yields, Retry.tryFrom, run, if_neg again]
          exact tried.of_ok run
  | succ reserve ih =>
      have tried := askOnce_yields question idle
      unfold Attempt.Yields Retry.tryFrom
      rcases run : askOnce question f with ⟨halt | value, g⟩
      · have waited := pause_yields (config.retry.delay (failures + 1)) (tried.of_error run).2
        have again := waited.bind (fun _ _ idle => ih idle (failures + 1))
          fun _ _ failing => failing
        exact again
      · by_cases again : 0 < failures
        · simp only [if_pos again]
          exact tried.of_ok run
        · simp only [if_neg again]
          exact tried.of_ok run

theorem engine_yields (idle : start.Idle f) {failed : Halt → Follower σ → Prop} :
    Sync.engine.Yields (fun engine after => engine = start.engine ∧ start.Idle after) failed f :=
  ⟨idle.engine, idle⟩

/-! ## Going back -/

theorem agreesAt_yields (height : Nat) (idle : start.Idle f) :
    (agreesAt config height).Yields (fun _ => start.Idle) (fun _ => start.Idle) f := by
  unfold agreesAt
  refine (engine_yields idle).bind ?_ fun _ _ rests => rests
  rintro engine g ⟨_, idle⟩
  cases engine.blockHashAt? height with
  | none => exact idle
  | some hash =>
      exact (ask_yields _ (config.source.blockHash height) idle).bind (fun _ _ rests => rests)
        fun _ _ failing => failing.2

/-- The search for the common block only asks, and it does not go up. -/
theorem ancestorFrom_yields (height : Nat) (idle : start.Idle f) :
    (ancestorFrom config height).Yields (fun common after => common ≤ height ∧ start.Idle after)
      (fun _ => start.Idle) f := by
  induction height generalizing f with
  | zero =>
      unfold ancestorFrom
      refine (agreesAt_yields 0 idle).bind ?_ fun _ _ rests => rests
      intro agrees g idle
      cases agrees with
      | true => exact ⟨Nat.le_refl 0, idle⟩
      | false => exact idle
  | succ below ih =>
      unfold ancestorFrom
      refine (agreesAt_yields (below + 1) idle).bind ?_ fun _ _ rests => rests
      intro agrees g idle
      cases agrees with
      | true => exact ⟨Nat.le_refl (below + 1), idle⟩
      | false =>
          refine (engine_yields idle).bind ?_ fun _ _ rests => rests
          rintro engine h ⟨_, idle⟩
          by_cases first : below + 1 ≤ engine.rules.params.genesisBlock
          · rw [if_pos first]
            exact idle
          · rw [if_neg first]
            exact (ih idle).mono (fun _ _ found => ⟨Nat.le_succ_of_le found.1, found.2⟩)
              fun _ _ rests => rests

/-- A rollback is done, is refused and changes nothing, or finds the books out of balance. -/
theorem rollback_yields (height : Nat) (idle : start.Idle f) :
    (rollback height).Yields
      (fun _ after => after.file = start.file ∧
        after.engine = (start.engine.rollbackTo height).2)
      (fun halt after => start.Idle after ∨ start.OutOfBalance after halt) f := by
  unfold rollback
  refine (engine_yields idle).bind ?_ fun _ _ failing => failing
  rintro engine g ⟨rfl, idle⟩
  rcases start.engine.rollbackTo_cases height with
    ⟨outcome, _⟩ | ⟨tip, _, _, ⟨missing, _, _, _, outcome⟩ | ⟨_, outcome⟩⟩
  · rw [outcome]
    exact ⟨idle.file, rfl⟩
  · rw [outcome]
    exact Or.inl ⟨trivial, idle.file, rfl⟩
  · generalize back : (start.engine.disconnectAbove height (tip.height - height)).1 = gone at outcome
    cases check : gone.verifySupply with
    | ok done =>
        rw [check] at outcome
        rw [outcome]
        exact ⟨idle.file, rfl⟩
    | error reason =>
        rw [check] at outcome
        rw [outcome]
        exact Or.inr ⟨height, reason, rfl, outcome, check, idle.file⟩

/-- A round that goes back counts the blocks it takes back. -/
theorem reconcile_yields (height : Nat) (idle : start.Idle f) :
    (reconcile config height).Yields (fun rolledBack => start.Counted ⟨rolledBack, 0⟩)
      (fun halt after => start.Idle after ∨ start.OutOfBalance after halt) f := by
  unfold reconcile
  refine (engine_yields idle).bind ?_ fun _ _ failing => failing
  rintro engine g ⟨rfl, idle⟩
  cases start.engine.tip with
  | none => exact idle.counted _
  | some tip =>
      refine (ancestorFrom_yields (min tip.height height) idle).bind ?_ fun _ _ => Or.inl
      rintro common h ⟨bound, idle⟩
      by_cases here : common = tip.height
      · rw [if_pos here]
        exact idle.counted _
      · rw [if_neg here]
        refine (rollback_yields common idle).bind ?_ fun _ _ failing => failing
        rintro _ after ⟨file, engine⟩
        have counts : 0 < tip.height - common := by omega
        constructor
        · exact file
        · intro unchanged
          simp [SyncOutcome.changed, counts] at unchanged
        · intro rules inUse
          rw [engine]
          exact inUse.rollbackTo common

/-! ## Going on -/

/-- A block is applied, does not fit and is left for the next round, or is not to be had. -/
theorem applyNext_yields (height : Nat) (idle : start.Idle f) :
    (applyNext config height).Yields
      (fun taken after => after.file = start.file ∧
        if taken then ∃ block summary, start.engine.applyBlock block = .ok (after.engine, summary)
        else after.engine = start.engine)
      (fun halt after => ¬ halt.Fatal ∧ start.Idle after) f := by
  unfold applyNext
  refine (ask_yields _ (config.source.block height) idle).bind ?_ fun _ _ failing => failing
  intro block g idle
  refine (engine_yields idle).bind ?_ fun _ _ failing => failing
  rintro engine h ⟨rfl, idle⟩
  cases applied : start.engine.applyBlock block with
  | ok result => exact ⟨idle.file, block, result.2, applied⟩
  | error reason =>
      cases reason with
      | parentMismatch number expected got => exact ⟨idle.file, idle.engine⟩
      | outOfOrderBlock expected got =>
          refine ⟨?_, idle⟩
          rintro ⟨text, impossible⟩
          cases impossible
      | reorgInconsistency text =>
          exact absurd applied (start.engine.applyBlock_ne_reorgInconsistency block text)

/-! ## Saving -/

/-- Where the file can be replaced, whatever the outcome counts is on file afterwards. -/
theorem persistIfChanged_gives {outcome : SyncOutcome} (counted : start.Counted outcome f)
    (saves : config.saves = some savedAt) (place : start.file ≠ .directory) :
    (persistIfChanged config outcome).Gives () (start.Done config) f := by
  unfold persistIfChanged
  cases changed : outcome.changed with
  | false =>
      exact ⟨f, rfl, Or.inl ⟨counted.engine changed, counted.file⟩, counted.inUse⟩
  | true =>
      refine ⟨{ f with file := .text (StoredSnapshot.toJson
        ⟨StoredSnapshot.currentFormat, config.network, savedAt, f.engine.snapshot⟩).render },
        ?_, Or.inr ⟨savedAt, rfl⟩, counted.inUse⟩
      rw [← counted.file] at place
      rw [if_pos rfl]
      unfold persist
      simp only [saves]
      cases present : f.file with
      | absent => rfl
      | text content => rfl
      | directory => exact absurd present place

/-- What is applied is counted, and it is saved before a failure is passed on. -/
theorem applyFrom_yields {outcome : SyncOutcome} (height count : Nat)
    (counted : start.Counted outcome f) (saves : config.saves = some savedAt)
    (place : start.file ≠ .directory) :
    (applyFrom config outcome height count).Yields (fun outcome => start.Counted outcome)
      (fun halt after => halt ≠ .stopped → start.Done config after) f := by
  induction count generalizing outcome height f with
  | zero => exact counted
  | succ count ih =>
      have next : (applyNext config height).Yields _ _ f := applyNext_yields height (Idle.refl f)
      unfold Attempt.Yields applyFrom
      rcases run : applyNext config height f with ⟨halt | taken, g⟩
      · have idle := (next.of_error run).2
        cases halt with
        | stopped => exact fun returned => absurd rfl returned
        | failed error =>
            have same : start.Counted outcome g := {
              file := idle.file.trans counted.file
              engine := fun unchanged => idle.engine.trans (counted.engine unchanged)
              inUse := fun rules inUse => idle.engine ▸ counted.inUse rules inUse }
            rcases persistIfChanged_gives same saves place with ⟨after, saved, done⟩
            simp only [Attempt.bind_run, saved]
            exact fun _ => done
      · have went := next.of_ok run
        cases taken with
        | false =>
            exact {
              file := went.1.trans counted.file
              engine := fun unchanged => went.2.trans (counted.engine unchanged)
              inUse := fun rules inUse => went.2 ▸ counted.inUse rules inUse }
        | true =>
            rcases went with ⟨file, block, summary, applied⟩
            refine ih (height + 1) ?_
            constructor
            · exact file.trans counted.file
            · intro unchanged
              simp [SyncOutcome.changed] at unchanged
            · intro rules inUse
              exact (counted.inUse rules inUse).applyBlock applied

/-! ## The whole round -/

/-- A round that is not cut short leaves the engine alone, saves it, or finds its books out of
balance. -/
theorem once_yields (f : Follower σ) (saves : config.saves = some savedAt)
    (place : f.file ≠ .directory) :
    (once config).Yields (fun _ => f.Done config)
      (fun halt after => halt ≠ .stopped → f.Done config after ∨ f.OutOfBalance after halt) f := by
  unfold once
  refine (ask_yields _ config.source.blockCount (Idle.refl f)).bind ?_
    fun _ _ failing _ => Or.inl failing.2.done
  intro top g idle
  refine (reconcile_yields top idle).bind ?_ ?_
  · intro rolledBack g counted
    refine Attempt.yields_bind.mpr ?_
    refine (applyFrom_yields _ _ counted saves place).bind ?_
      fun _ _ failing returned => Or.inl (failing returned)
    intro outcome g counted
    rcases persistIfChanged_gives counted saves place with ⟨after, saved, done⟩
    simp only [Attempt.Yields, Attempt.bind_run, saved]
    exact done
  · rintro halt after (idle | unbalanced) _
    · exact Or.inl idle.done
    · exact Or.inr unbalanced

theorem once_ends (f : Follower σ) (saves : config.saves = some savedAt)
    (place : f.file ≠ .directory) (returned : (once config f).1 ≠ .error .stopped) :
    f.Done config (once config f).2 ∨
      ∃ halt, (once config f).1 = .error halt ∧ f.OutOfBalance (once config f).2 halt := by
  have yields := once_yields f saves place
  rcases run : once config f with ⟨halt | outcome, after⟩
  · rw [run] at returned
    have ended : halt ≠ .stopped := fun same => returned (congrArg Except.error same)
    exact (yields.of_error run ended).imp id fun unbalanced => ⟨halt, rfl, unbalanced⟩
  · exact Or.inl (yields.of_ok run)

/-- With an engine in use no round finds the books out of balance. -/
theorem once_done {rules : Rules} (inUse : InUse rules f.engine)
    (saves : config.saves = some savedAt) (place : f.file ≠ .directory)
    (returned : (once config f).1 ≠ .error .stopped) : f.Done config (once config f).2 := by
  rcases once_ends f saves place returned with done | ⟨_, _, unbalanced⟩
  · exact done
  · exact absurd unbalanced (Follower.not_outOfBalance inUse)

/-- Round after round what is on file stays in step with an engine in use. -/
theorem rounds_inStep {rules : Rules} (saves : config.saves = some savedAt) (count : Nat)
    (inUse : InUse rules f.engine) (inStep : f.InStep config) :
    (rounds config count).Yields (fun _ after => InUse rules after.engine ∧ after.InStep config)
      (fun halt after => halt ≠ .stopped → InUse rules after.engine ∧ after.InStep config) f := by
  induction count generalizing f with
  | zero => exact ⟨inUse, inStep⟩
  | succ count ih =>
      have waits : ∀ g : Follower σ, f.Done config g →
          (do pause config.intervalMs; rounds config count : Sync σ Unit).Yields
            (fun _ after => InUse rules after.engine ∧ after.InStep config)
            (fun halt after => halt ≠ .stopped → InUse rules after.engine ∧ after.InStep config)
            g := by
        intro g done
        refine (pause_yields config.intervalMs (Idle.refl g)).bind ?_ ?_
        · intro _ after idle
          have rested : g.Done config after := idle.done
          exact ih (idle.engine ▸ done.2 rules inUse) (rested.inStep (done.inStep inStep))
        · rintro _ after ⟨_, idle⟩ _
          have rested : g.Done config after := idle.done
          exact ⟨idle.engine ▸ done.2 rules inUse, rested.inStep (done.inStep inStep)⟩
      have ended := once_done inUse saves inStep.not_directory
      unfold Attempt.Yields rounds
      rcases run : once config f with ⟨halt | outcome, after⟩
      · rw [run] at ended
        cases halt with
        | stopped => exact fun returned => absurd rfl returned
        | failed error =>
            have done := ended (by simp)
            cases error with
            | engine reason =>
                cases reason with
                | reorgInconsistency text =>
                    exact fun _ => ⟨done.2 rules inUse, done.inStep inStep⟩
                | outOfOrderBlock expected got => exact waits after done
                | parentMismatch height expected got => exact waits after done
            | source reason => exact waits after done
            | store reason => exact waits after done
            | processing text => exact waits after done
      · rw [run] at ended
        exact waits after (ended (by simp))

/-- Whatever the source answers, when a round is over the engine has not changed or what is on
file is its snapshot, unless the books were found out of balance after blocks had been taken back.
That does not happen to an engine in use: with it, what is on file stays in step. -/
theorem once_saves (config : FollowerConfig σ) (f : Follower σ)
    (saves : config.saves = some savedAt) (place : f.file ≠ .directory)
    (returned : (once config f).1 ≠ .error .stopped) :
    (f.Filed config (once config f).2 ∨
      ∃ halt, (once config f).1 = .error halt ∧ f.OutOfBalance (once config f).2 halt) ∧
    ∀ rules, InUse rules f.engine →
      f.Filed config (once config f).2 ∧ InUse rules (once config f).2.engine ∧
      (f.InStep config → (once config f).2.InStep config) := by
  constructor
  · exact (once_ends f saves place returned).imp And.left id
  · intro rules inUse
    have done := once_done inUse saves place returned
    exact ⟨done.1, done.2 rules inUse, done.inStep⟩

end Sync

namespace Session

open Sync (once)

/-- A follower that has saved nothing is in step before its first round and after it. -/
theorem once_saves_overtaken :
    overtaken.saves = some "2024-01-01T00:00:00Z" ∧ (behind []).file ≠ .directory ∧
    (once overtaken (behind [])).1 ≠ .error .stopped ∧
    InUse twoOwners (behind []).engine ∧ (behind []).InStep overtaken ∧
    (behind []).Filed overtaken (once overtaken (behind [])).2 ∧
    InUse twoOwners (once overtaken (behind [])).2.engine ∧
    (once overtaken (behind [])).2.InStep overtaken := by
  have returned : (once overtaken (behind [])).1 ≠ .error .stopped := by decide +kernel
  have inUse : InUse twoOwners (behind []).engine := .fresh twoOwners
  have inStep : (behind []).InStep overtaken := Or.inr ⟨rfl, rfl⟩
  have saved := (Sync.once_saves overtaken (behind []) rfl nofun returned).2 twoOwners inUse
  exact ⟨rfl, nofun, returned, inUse, inStep, saved.1, saved.2.1, saved.2.2 inStep⟩

/-- The follower of `overtaken` whose engine was brought back from a file that says too much about
the supply of the test token. -/
def misled : Follower LocalChain :=
  let snapshot : Snapshot := { (run twoOwners reorganization).engine.snapshot with
    state := (run twoOwners reorganization).engine.state.withRegistry fun r => r.withSupply 2 1 }
  { behind reorganization with
    engine := .resume twoOwners snapshot
    file := .text (StoredSnapshot.toJson
      ⟨StoredSnapshot.currentFormat, overtaken.network, "2024-01-01T00:00:00Z", snapshot⟩).render }

/-- The books of `misled` are found out of balance when its round goes back. -/
theorem misled_reconcile : ∃ halt after,
    Sync.reconcile overtaken 2 misled = (.error halt, after) ∧
    Sync.once overtaken misled = (.error halt, after) ∧
    halt ≠ .stopped ∧ after.engine.tip = some ⟨0, "x"⟩ := by
  have refused : (Sync.reconcile overtaken 2 misled).1.isOk = false := by decide +kernel
  have going : (Sync.reconcile overtaken 2 misled).1 ≠ .error .stopped := by decide +kernel
  have tip : (Sync.reconcile overtaken 2 misled).2.engine.tip = some ⟨0, "x"⟩ := by
    decide +kernel
  have asked : Sync.sourceHeight overtaken misled = (.ok 2, misled) := rfl
  rcases run : Sync.reconcile overtaken 2 misled with ⟨halt | rolledBack, after⟩
  · rw [run] at going tip
    refine ⟨halt, after, rfl, ?_, fun same => going (congrArg Except.error same), tip⟩
    simp only [Sync.once, Attempt.bind_run, asked, run]
  · rw [run] at refused
    cases refused

/-- What is on file is the snapshot of `misled` when its round starts.  When the round is over a
block has been taken back, and the file still holds the snapshot from before. -/
theorem once_leaves_misled :
    overtaken.saves = some "2024-01-01T00:00:00Z" ∧ misled.file ≠ .directory ∧
    misled.file.Keeps overtaken.network misled.engine.snapshot ∧
    (once overtaken misled).1 ≠ .error .stopped ∧
    ¬ ((once overtaken misled).2.engine = misled.engine ∨
      (once overtaken misled).2.file.Keeps overtaken.network
        (once overtaken misled).2.engine.snapshot) := by
  rcases misled_reconcile with ⟨halt, after, run, round, going, tip⟩
  have keeps : misled.file.Keeps overtaken.network misled.engine.snapshot := ⟨_, rfl⟩
  have above : misled.engine.tip = some ⟨1, "z"⟩ := by decide +kernel
  have file : after.file = misled.file := by
    rcases (Sync.reconcile_yields 2 (Follower.Idle.refl misled)).of_error run with
      idle | ⟨_, _, _, _, _, same⟩
    · exact idle.file
    · exact same
  refine ⟨rfl, nofun, keeps, ?_, ?_⟩
  · rw [round]
    exact fun stopped => going (Except.error.inj stopped)
  · rw [round]
    rintro (engine | late)
    · rw [engine, above] at tip
      cases tip
    · rw [file] at late
      have alike := keeps.render_tip late
      change (Json.ofOption Tip.toJson misled.engine.tip).render.toList.length =
          (Json.ofOption Tip.toJson after.engine.tip).render.toList.length →
        (Json.ofOption Tip.toJson misled.engine.tip).render.toList =
          (Json.ofOption Tip.toJson after.engine.tip).render.toList at alike
      rw [above, tip] at alike
      exact absurd (alike (by decide +kernel)) (by decide +kernel)

end Session
end TokenOverlay
