import TokenOverlay.Proofs.Saving
import TokenOverlay.Proofs.Window

namespace TokenOverlay

/-!
How deep a fork may be.  A round looks for the common block through the hashes
that the engine knows, an engine goes back through the undo entries that it
has.  To go back to a block its own entry is not needed, but its hash is known
from nowhere else, so the follower gives up one block before the engine has to.
-/

open Block (Linked since CommonAt HighestCommon)

/-- Below the floor no hash is known, but for the newest block. -/
theorem Engine.Retains.blockHashAt?_eq_none {e : Engine} {chain : List Block} {floor height : Nat}
    (retains : e.Retains chain floor) (low : height < floor) (old : height + 1 ≠ e.nextHeight) :
    e.blockHashAt? height = none := by
  have gone : e.undoChain.get? height = none := by
    rw [← Option.not_isSome_iff_eq_none, retains.kept]
    omega
  unfold blockHashAt?
  cases atTip : e.tip with
  | none => rw [gone]; rfl
  | some tip =>
      have top := nextHeight_of_some atTip
      have other : tip.height ≠ height := by omega
      simp only [if_neg other, gone]
      rfl

namespace Sync

open Source (Answers)
open Follower (Ready On)

variable {σ : Type} {config : FollowerConfig σ} {steady : σ → Prop} {file : StoredFile}
  {f : Follower σ} {rules : Rules} {invariant : Engine.Invariant rules} {mine : List Block}

/-! ## Giving up -/

/-- The search gives up at the first height whose hash the engine does not know. -/
theorem ancestorFrom_refuses {engine : Engine} {height lost : Nat}
    (late : engine.rules.params.genesisBlock ≤ lost)
    (unknown : engine.blockHashAt? lost = none) (le : lost ≤ height)
    (differs : ∀ h, lost < h → h ≤ height → ∃ own other,
      engine.blockHashAt? h = some own ∧ Answers steady (config.source.blockHash h) other ∧
        other ≠ own)
    (ready : f.Ready steady file engine) :
    (ancestorFrom config height).Refuses (.failed (tooDeep lost)) (Ready steady file engine) f := by
  have stops : ∀ g : Follower σ, g.Ready steady file engine →
      (agreesAt config lost).Refuses (.failed (tooDeep lost)) (Ready steady file engine) g := by
    intro g ready
    unfold agreesAt
    refine (engine_gives ready).refuses ?_
    intro h ready
    rw [unknown]
    exact Attempt.refuses_fail ready
  induction height generalizing f with
  | zero =>
      have here : lost = 0 := Nat.le_zero.mp le
      subst here
      exact (stops f ready).bind
  | succ below ih =>
      unfold ancestorFrom
      by_cases here : lost = below + 1
      · subst here
        exact (stops f ready).bind
      · have above : lost < below + 1 := Nat.lt_of_le_of_ne le here
        rcases differs (below + 1) above (Nat.le_refl _) with ⟨own, other, atOwn, atOther, differ⟩
        refine (agreesAt_gives atOwn atOther ready).refuses ?_
        intro g ready
        rw [decide_eq_false differ]
        refine (engine_gives ready).refuses ?_
        intro g ready
        rw [if_neg (by omega)]
        exact ih (Nat.le_of_lt_succ above)
          (fun h low high => differs h low (Nat.le_succ_of_le high)) ready

/-- Where the common block lies below the floor and is not the tip, the round gives up. -/
theorem once_refuses {first floor common : Nat} {tip : Tip} {newest : Block} {older : List Block}
    (on : f.On steady file invariant mine) (retains : f.engine.Retains mine floor)
    (serves : config.source.Serves (newest :: older) steady)
    (linked : Linked first (newest :: older)) (atTip : f.engine.tip = some tip)
    (highest : HighestCommon mine (newest :: older) common) (deep : common < tip.height)
    (lost : common < floor) :
    ∃ height, common ≤ height ∧ height < floor ∧
      (once config).Refuses (.failed (tooDeep height)) (Ready steady file f.engine) f := by
  have follows := on.follows
  have meets := highest
  rcases meets.1 with ⟨own, memberOwn, other, memberOther, rfl, atOther, _⟩
  have next := Engine.nextHeight_of_some atTip
  have top : rules.params.genesisBlock + mine.length = tip.height + 1 :=
    follows.nextHeight_eq.symm.trans next
  have sourceTop : first + (newest :: older).length = newest.height + 1 := by
    rw [linked.1, List.length_cons]
    rfl
  have low := follows.linked.le_height memberOwn
  have otherLow := linked.height_lt memberOther
  -- Hashes are known from the floor up and of the tip; this is the next height to be asked for.
  obtain ⟨height, here⟩ : ∃ height,
      height = min (min (tip.height - 1) newest.height) (floor - 1) := ⟨_, rfl⟩
  refine ⟨height, by omega, by omega, ?_⟩
  have unknown : f.engine.blockHashAt? height = none :=
    retains.blockHashAt?_eq_none (by omega) (by omega)
  have differs : ∀ h, height < h → h ≤ min tip.height newest.height → ∃ mine theirs,
      f.engine.blockHashAt? h = some mine ∧
        Answers steady (config.source.blockHash h) theirs ∧ theirs ≠ mine := by
    intro h above below
    have inMine : h < rules.params.genesisBlock + mine.length := by omega
    have inTheirs : h < first + (newest :: older).length := by omega
    rcases highest.differ follows.linked linked (by omega) inMine inTheirs with
      ⟨left, memberLeft, right, memberRight, atLeft, atRight, differ⟩
    have hash := retains.blockHashAt?_eq follows memberLeft (by omega)
    have answer := serves.blockHash right memberRight
    rw [atLeft] at hash
    rw [atRight] at answer
    exact ⟨left.hash, right.hash, hash, answer, differ⟩
  have late : f.engine.rules.params.genesisBlock ≤ height := by
    rw [follows.sameRules]
    omega
  unfold once
  refine (ask_gives _ (serves.blockCount newest rfl) on.ready).refuses ?_
  intro g ready
  refine Attempt.Refuses.bind ?_
  unfold reconcile
  refine (engine_gives ready).refuses ?_
  intro g ready
  rw [atTip]
  exact (ancestorFrom_refuses late unknown (by omega) differs ready).bind

/-! ## Not giving up -/

theorem persistIfChanged_not_fatal (config : FollowerConfig σ) (outcome : SyncOutcome)
    (f : Follower σ) :
    (persistIfChanged config outcome).Yields (fun _ _ => True) (fun halt _ => ¬ halt.Fatal) f := by
  rcases persistIfChanged_cases config outcome f with ⟨file, saved⟩ | ⟨_, _, error, refused⟩
  · simp only [Attempt.Yields, saved]
  · simp only [Attempt.Yields, refused]
    rintro ⟨text, impossible⟩
    cases impossible

/-- Once the round is back on the chain of the source, nothing is fatal any more. -/
theorem applyFrom_not_fatal (config : FollowerConfig σ) (outcome : SyncOutcome) (height count : Nat)
    (f : Follower σ) :
    (applyFrom config outcome height count).Yields (fun _ _ => True)
      (fun halt _ => ¬ halt.Fatal) f := by
  induction count generalizing outcome height f with
  | zero => trivial
  | succ count ih =>
      have next : (applyNext config height).Yields _ _ f :=
        applyNext_yields height (Follower.Idle.refl f)
      unfold Attempt.Yields applyFrom
      rcases run : applyNext config height f with ⟨halt | taken, g⟩
      · have passing := (next.of_error run).1
        cases halt with
        | stopped => exact passing
        | failed error =>
            exact (persistIfChanged_not_fatal config outcome g).bind (fun _ _ _ => passing)
              fun _ _ failing => failing
      · cases taken with
        | false => trivial
        | true => exact ih _ _ g

/-- From the floor on and at the tip, the common block can be gone back to. -/
theorem once_not_fatal {first floor common : Nat} {tip : Tip} {newest : Block} {older : List Block}
    (on : f.On steady file invariant mine) (retains : f.engine.Retains mine floor)
    (serves : config.source.Serves (newest :: older) steady)
    (linked : Linked first (newest :: older)) (atTip : f.engine.tip = some tip)
    (highest : HighestCommon mine (newest :: older) common)
    (kept : common = tip.height ∨ floor ≤ common) :
    (once config).Yields (fun _ _ => True) (fun halt _ => ¬ halt.Fatal) f := by
  have counting : (sourceHeight config).Gives newest.height (Ready steady file f.engine) f :=
    ask_gives _ (serves.blockCount newest rfl) on.ready
  rcases counting with ⟨g, counted, ready⟩
  have same := ready.engine
  rw [← same] at retains atTip
  rcases reconcile_gives (ready.on on.follows) retains serves linked atTip highest kept with
    ⟨back, wentBack, _⟩
  unfold once
  simp only [Attempt.Yields, Attempt.bind_run, counted, wentBack, Sync.engine]
  exact (applyFrom_not_fatal config _ _ _ back).bind
    (fun outcome after _ => (persistIfChanged_not_fatal config outcome after).bind
      (fun _ _ _ => trivial) fun _ _ failing => failing)
    fun _ _ failing => failing

end Sync

namespace Session

open Sync (once tooDeep)
open Follower (On)

/-- An engine in use refuses to go back exactly to where the entry of the block above is gone. -/
theorem rollbackTo_refuses_iff (rules : Rules) (calls : List Call) (height : Nat) {tip : Tip}
    (atTip : (run rules calls).engine.tip = some tip) :
    (∃ reason, ((run rules calls).engine.rollbackTo height).1 = .error reason) ↔
      height < tip.height ∧ height + 1 < windowStart rules calls := by
  have follows := run_follows_books rules calls
  have retains := run_retains_window rules calls
  have low := retains.floor_le
  have next := Engine.nextHeight_of_some atTip
  have accepts := follows.rollbackTo_accepts_iff height
  constructor
  · rintro ⟨reason, refused⟩
    by_contra inside
    have accepted := accepts.mpr (by
      intro other same above h high below
      cases atTip.symm.trans same
      exact (retains.kept h).mpr ⟨by omega, by omega⟩)
    rcases accepted with ⟨txids, after, outcome⟩
    rw [outcome] at refused
    cases refused
  · rintro ⟨above, outside⟩
    rcases run : (Session.run rules calls).engine.rollbackTo height with ⟨reason | txids, after⟩
    · exact ⟨reason, rfl⟩
    · have kept := accepts.mp ⟨txids, after, run⟩ tip atTip above (height + 1) (by omega) (by omega)
      have bounds := (retains.kept (height + 1)).mp kept
      omega

/-- Beside a source that keeps to one chain, a round gives up on a fork exactly if the highest
common block is not the tip and its own undo entry is gone; the engine is then as it was.  The
engine itself could still go back to that block while the entry of the block above it is kept. -/
theorem once_gives_up_iff {σ : Type} {config : FollowerConfig σ} {steady : σ → Prop}
    {f : Follower σ} (rules : Rules) (calls : List Call) {first common : Nat} {newest : Block}
    {older : List Block} {tip : Tip} (engine : f.engine = (run rules calls).engine)
    (serves : config.source.Serves (newest :: older) steady) (ready : steady f.sourceState)
    (linked : Linked first (newest :: older)) (atTip : f.engine.tip = some tip)
    (highest : HighestCommon (run rules calls).active (newest :: older) common) :
    ((∃ text, (once config f).1 = .error (.failed (.engine (.reorgInconsistency text)))) ↔
      common < tip.height ∧ common < windowStart rules calls) ∧
    (common < tip.height → common < windowStart rules calls →
      ∃ height, common ≤ height ∧ height < windowStart rules calls ∧
        (once config f).1 = .error (.failed (tooDeep height)) ∧
        (once config f).2.engine = f.engine) ∧
    ((∃ reason, (f.engine.rollbackTo common).1 = .error reason) ↔
      common < tip.height ∧ common + 1 < windowStart rules calls) := by
  have follows := run_follows_books rules calls
  have retains := run_retains_window rules calls
  have refuses := rollbackTo_refuses_iff rules calls common (engine ▸ atTip)
  rw [← engine] at follows retains refuses
  have on : f.On steady f.file (Engine.booksOnly rules) (run rules calls).active :=
    ⟨⟨ready, rfl, rfl⟩, follows⟩
  have gives : common < tip.height → common < windowStart rules calls →
      ∃ height, common ≤ height ∧ height < windowStart rules calls ∧
        (once config f).1 = .error (.failed (tooDeep height)) ∧
        (once config f).2.engine = f.engine := by
    intro deep lost
    rcases Sync.once_refuses on retains serves linked atTip highest deep lost with
      ⟨height, high, low, after, outcome, left⟩
    refine ⟨height, high, low, ?_⟩
    rw [outcome]
    exact ⟨rfl, left.engine⟩
  refine ⟨⟨?_, ?_⟩, gives, refuses⟩
  · rintro ⟨text, fatal⟩
    by_contra inside
    have bound : common ≤ tip.height := by
      rcases highest.1 with ⟨own, member, _, _, rfl, _, _⟩
      have below := follows.linked.height_lt member
      rw [← follows.nextHeight_eq, Engine.nextHeight_of_some atTip] at below
      omega
    have passing := Sync.once_not_fatal on retains serves linked atTip highest (by omega)
    unfold Attempt.Yields at passing
    rcases outcome : once config f with ⟨halt | done, after⟩
    · rw [outcome] at passing fatal
      exact passing ⟨text, Except.error.inj fatal⟩
    · rw [outcome] at fatal
      cases fatal
  · rintro ⟨deep, lost⟩
    rcases gives deep lost with ⟨height, _, _, outcome, _⟩
    exact ⟨_, outcome⟩

/-- Two blocks are kept undoable. -/
def shallow : Rules := { twoOwners with config := { twoOwners.config with maxReorgDepth := 2 } }

def straight : List Call := [
  .apply ⟨0, "x", "", 0, []⟩, .apply ⟨1, "y", "x", 1, []⟩, .apply ⟨2, "z", "y", 2, []⟩,
  .apply ⟨3, "u", "z", 3, []⟩]

/-- A chain that parts from `straight` above the first height. -/
def parting : LocalChain where
  genesis := ⟨0, "x", "", 0, []⟩
  above := [⟨3, "w", "v", 5, []⟩, ⟨2, "v", "y", 4, []⟩, ⟨1, "y", "x", 1, []⟩]
  pool := []
  sequence := 0

/-- A follower of `overtaken` with a fork of the two blocks that are kept undoable. -/
def parted : Follower LocalChain where
  engine := (run shallow straight).engine
  file := .absent
  sourceState := parting
  clockMs := 0
  stopMs := none

/-- How `parted` stands to its source. -/
theorem parted_forks :
    overtaken.source.Serves parting.descending (fun state => state = parting) ∧
    Linked 0 parting.descending ∧ parted.engine.tip = some ⟨3, "u"⟩ ∧
    HighestCommon (run shallow straight).active parting.descending 1 ∧
    windowStart shallow straight = 2 := by
  have linked : Linked 0 parting.descending := by
    refine ⟨rfl, ?_, rfl, ?_, rfl, ?_, rfl, ?_, trivial⟩ <;> rintro parent ⟨⟩ <;> rfl
  have meets : ∀ own ∈ (run shallow straight).active, ∀ other ∈ parting.descending,
      own.height = other.height → own.hash = other.hash → own.height ≤ 1 := by decide +kernel
  have shared : CommonAt (run shallow straight).active parting.descending 1 :=
    ⟨⟨1, "y", "x", 1, []⟩, by decide +kernel, ⟨1, "y", "x", 1, []⟩, by decide +kernel, rfl, rfl,
      rfl⟩
  refine ⟨LocalChain.source_serves (by decide +kernel), linked, by decide +kernel, ⟨shared, ?_⟩,
    by decide +kernel⟩
  rintro height ⟨own, memberOwn, other, memberOther, rfl, same, hash⟩
  exact meets own memberOwn other memberOther same.symm hash

theorem once_gives_up_parted :
    overtaken.source.Serves parting.descending (fun state => state = parting) ∧
    Linked 0 parting.descending ∧ parted.engine.tip = some ⟨3, "u"⟩ ∧
    HighestCommon (run shallow straight).active parting.descending 1 ∧
    (∃ text, (once overtaken parted).1 = .error (.failed (.engine (.reorgInconsistency text)))) ∧
    (once overtaken parted).2.engine = parted.engine ∧
    ¬ ∃ reason, (parted.engine.rollbackTo 1).1 = .error reason := by
  rcases parted_forks with ⟨serves, linked, tip, highest, start⟩
  rcases once_gives_up_iff shallow straight rfl serves rfl linked tip highest with
    ⟨fatal, left, refused⟩
  rw [start] at fatal left refused
  rcases left (by decide) (by decide) with ⟨_, _, _, _, same⟩
  exact ⟨serves, linked, tip, highest, fatal.mpr (by decide), same,
    fun error => absurd (refused.mp error).2 (by decide)⟩

/-- The follower gives up on a fork of as many blocks as the engine keeps undoable, though the
engine would go back to the common block. -/
theorem parted_could_follow :
    overtaken.source.Serves parting.descending (fun state => state = parting) ∧
    HighestCommon (run shallow straight).active parting.descending 1 ∧
    (once overtaken parted).1 = .error (.failed (tooDeep 1)) ∧
    ∃ txids after, (run shallow straight).engine.rollbackTo 1 = (.ok txids, after) ∧
      after.tip = some ⟨1, "y"⟩ := by
  rcases parted_forks with ⟨serves, linked, tip, highest, start⟩
  have follows := run_follows_books shallow straight
  have on : parted.On (fun state => state = parting) .absent (Engine.booksOnly shallow)
      (run shallow straight).active := ⟨⟨rfl, rfl, rfl⟩, follows⟩
  have retains := run_retains_window shallow straight
  rw [start] at retains
  rcases Sync.once_refuses on retains serves linked tip highest (by decide) (by decide) with
    ⟨height, low, high, after, outcome, _⟩
  have here : height = 1 := by omega
  subst here
  have back : ((run shallow straight).engine.rollbackTo 1).1.isOk = true := by decide +kernel
  have top : ((run shallow straight).engine.rollbackTo 1).2.tip = some ⟨1, "y"⟩ := by
    decide +kernel
  refine ⟨serves, highest, congrArg Prod.fst outcome, ?_⟩
  rcases run : (Session.run shallow straight).engine.rollbackTo 1 with ⟨reason | txids, left⟩
  · rw [run] at back
    cases back
  · rw [run] at top
    exact ⟨txids, left, rfl, top⟩

end Session
end TokenOverlay
