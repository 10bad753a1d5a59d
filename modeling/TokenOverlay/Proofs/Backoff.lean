import TokenOverlay.Retry
import Mathlib.Data.ENat.Lattice
import Mathlib.Data.List.Induction

namespace TokenOverlay

/-!
How often a call is tried, and what is reported and waited in between.  An
onlooker writes down each call with its outcome, each line of the log and each
wait; watching changes nothing.  A run goes through its failures one by one: each
of them leads from the world of one call to the world of the next.  So with as
many tries in reserve as there are failures to come, the run arrives at the call
that ends it, which is the first that succeeds or the last that there is.
-/

open Attempt

namespace Retry

variable {σ ε α β : Type}

/-! ## Waits -/

/-- The power and the product are cut one after the other, which comes to one cut of the whole. -/
theorem delay_succ (retry : Retry) (failures : ℕ) :
    retry.delay (failures + 1) = min (retry.baseDelayMs * 2 ^ failures) (UInt64.size - 1) := by
  change min (retry.baseDelayMs * min (2 ^ failures) longestDelay) longestDelay =
    min (retry.baseDelayMs * 2 ^ failures) longestDelay
  by_cases short : 2 ^ failures ≤ longestDelay
  · rw [Nat.min_eq_left short]
  · -- where the power is cut, any base but nothing takes the product to the bound as well
    rcases Nat.eq_zero_or_pos retry.baseDelayMs with zero | pos
    · rw [zero, Nat.zero_mul, Nat.zero_mul]
    · have long : longestDelay ≤ 2 ^ failures := Nat.le_of_not_le short
      have capped : longestDelay ≤ retry.baseDelayMs * longestDelay := Nat.le_mul_of_pos_left _ pos
      rw [Nat.min_eq_right long, Nat.min_eq_right capped,
        Nat.min_eq_right (capped.trans (Nat.mul_le_mul_left _ long))]

/-! ## The onlooker -/

/-- What an onlooker sees of a run. -/
inductive Step (ε α : Type) where
  | called (outcome : Except ε α)
  | reported (line : LogLine)
  | waited (ms : ℕ)

def Step.isCall : Step ε α → Bool
  | called _ => true
  | _ => false

/-- A world and what has been seen in it. -/
structure Watched (σ ε α : Type) where
  world : σ
  seen : List (Step ε α)

namespace Watched

/-- Do something in the world under the eyes of the onlooker. -/
def act (deed : Attempt σ ε β) (step : Except ε β → Step ε α) :
    Attempt (Watched σ ε α) ε β := fun watched =>
  ((deed watched.world).1,
    ⟨(deed watched.world).2, watched.seen ++ [step (deed watched.world).1]⟩)

theorem act_run (deed : Attempt σ ε β) (step : Except ε β → Step ε α) (watched : Watched σ ε α) :
    act deed step watched =
      ((deed watched.world).1,
        ⟨(deed watched.world).2, watched.seen ++ [step (deed watched.world).1]⟩) := rfl

end Watched

namespace Surroundings

/-- The same surroundings under the eyes of an onlooker. -/
def watched (around : Surroundings σ ε) : Surroundings (Watched σ ε α) ε where
  describe := around.describe
  pause := fun ms => Watched.act (around.pause ms) fun _ => .waited ms
  report := fun line => Watched.act (around.report line) fun _ => .reported line

/-- Every wait comes to its end and every report is taken. -/
structure Calm (around : Surroundings σ ε) : Prop where
  pause : ∀ ms world, (around.pause ms world).1 = .ok ()
  report : ∀ line world, (around.report line world).1 = .ok ()

namespace Calm

variable {around : Surroundings σ ε}

theorem watched (calm : around.Calm) : (around.watched (α := α)).Calm where
  pause := fun ms watched => calm.pause ms watched.world
  report := fun line watched => calm.report line watched.world

theorem pause_bind (calm : around.Calm) (ms : ℕ) (next : Attempt σ ε β) (world : σ) :
    (around.pause ms >>= fun _ => next) world = next (around.pause ms world).2 := by
  rw [bind_run, ← Prod.mk.eta (p := around.pause ms world), calm.pause]

theorem report_bind (calm : around.Calm) (line : LogLine) (next : Attempt σ ε β) (world : σ) :
    (around.report line >>= fun _ => next) world = next (around.report line world).2 := by
  rw [bind_run, ← Prod.mk.eta (p := around.report line world), calm.report]

end Calm
end Surroundings

/-! ## Outcomes in their order -/

/-- The first calls fail, with these reasons. -/
def Fails (outcomes : ℕ → Except ε α) (reasons : List ε) : Prop :=
  (List.range reasons.length).map outcomes = reasons.map .error

theorem fails_nil (outcomes : ℕ → Except ε α) : Fails outcomes [] := rfl

theorem fails_concat {outcomes : ℕ → Except ε α} {reasons : List ε} {reason : ε} :
    Fails outcomes (reasons ++ [reason]) ↔
      Fails outcomes reasons ∧ outcomes reasons.length = .error reason := by
  unfold Fails
  rw [List.length_append, List.length_singleton, List.range_succ, List.map_append, List.map_append]
  constructor
  · intro same
    rcases List.append_inj' same rfl with ⟨earlier, last⟩
    exact ⟨earlier, List.singleton_inj.mp last⟩
  · intro ⟨earlier, last⟩
    rw [earlier, List.map_singleton, List.map_singleton, last]

/-- Of some outcomes one after the other, the first success comes after `k` failures, if there is
one at all. -/
structure FirstSuccess (outcomes : ℕ → Except ε α) (k : ℕ∞) : Prop where
  fails : ∀ n : ℕ, n < k → ∃ reason, outcomes n = .error reason
  succeeds : ∀ n : ℕ, n = k → ∃ value, outcomes n = .ok value

/-- The tries come to an end with the first success, or else with the last try. -/
structure Ended (retry : Retry) (k : ℕ∞) (failures : ℕ) : Prop where
  within : failures < retry.maxAttempts
  last : k = failures ∨ retry.maxAttempts ≤ k ∧ failures + 1 = retry.maxAttempts

namespace FirstSuccess

variable {outcomes : ℕ → Except ε α} {k : ℕ∞}

theorem exists_reasons (first : FirstSuccess outcomes k) (n : ℕ) (before : n ≤ k) :
    ∃ reasons, reasons.length = n ∧ Fails outcomes reasons := by
  induction n with
  | zero => exact ⟨[], rfl, fails_nil outcomes⟩
  | succ n ih =>
      have lt : (n : ℕ∞) < k := lt_of_lt_of_le (Nat.cast_lt.mpr (Nat.lt_succ_self n)) before
      rcases ih lt.le with ⟨reasons, rfl, fails⟩
      rcases first.fails reasons.length lt with ⟨reason, failed⟩
      exact ⟨reasons ++ [reason], List.length_append, fails_concat.mpr ⟨fails, failed⟩⟩

theorem exists_ended (first : FirstSuccess outcomes k) (retry : Retry) :
    ∃ reasons, Fails outcomes reasons ∧ retry.Ended k reasons.length := by
  have pos := retry.maxAttempts_pos
  rcases lt_or_ge k (retry.maxAttempts : ℕ∞) with early | late
  · lift k to ℕ using ne_top_of_lt early
    rcases first.exists_reasons k le_rfl with ⟨reasons, rfl, fails⟩
    exact ⟨reasons, fails, Nat.cast_lt.mp early, Or.inl rfl⟩
  · have before : ((retry.maxAttempts - 1 : ℕ) : ℕ∞) ≤ k :=
      le_trans (Nat.cast_le.mpr (Nat.sub_le _ 1)) late
    rcases first.exists_reasons _ before with ⟨reasons, length, fails⟩
    exact ⟨reasons, fails, by omega, Or.inr ⟨late, by omega⟩⟩

end FirstSuccess

/-! ## One try -/

section Tries

variable (retry : Retry) (task : Task) (around : Surroundings σ ε) (call : Attempt σ ε α)

/-- The world after a failure is reported and the wait that follows it is over. -/
def afterFailure (failures : ℕ) (reason : ε) (world : σ) : σ :=
  let line := task.retrying retry failures (around.describe reason)
  (around.pause (retry.delay failures) (around.report line world).2).2

/-- The world after a run is closed with the report on its last call, if there is one to make. -/
def afterLast (failures : ℕ) : Except ε α → σ → σ
  | .ok _, world =>
      if 0 < failures then (around.report (task.recovered failures) world).2 else world
  | .error reason, world => (around.report (task.gaveUp retry (around.describe reason)) world).2

variable {retry task around call} {reserve failures : ℕ} {reason : ε} {world after : σ}

theorem tryFrom_of_failed (calm : around.Calm) (failed : call world = (.error reason, after)) :
    retry.tryFrom task around call (reserve + 1) failures world =
      retry.tryFrom task around call reserve (failures + 1)
        (retry.afterFailure task around (failures + 1) reason after) := by
  conv_lhs => unfold tryFrom
  simp only [failed]
  rw [calm.report_bind, calm.pause_bind]
  rfl

/-- A run ends with a call that succeeds, and with a failure if there is nothing in reserve. -/
theorem tryFrom_of_last (calm : around.Calm)
    (last : reserve = 0 ∨ ∃ value, (call world).1 = .ok value) :
    retry.tryFrom task around call reserve failures world =
      ((call world).1, retry.afterLast task around failures (call world).1 (call world).2) := by
  rcases answer : call world with ⟨reason | value, after⟩
  · have spent : reserve = 0 := by
      rcases last with spent | ⟨value, succeeds⟩
      · exact spent
      · rw [answer] at succeeds
        cases succeeds
    subst spent
    unfold tryFrom
    simp only [answer]
    rw [calm.report_bind]
    rfl
  · unfold tryFrom
    by_cases again : 0 < failures
    · simp only [answer, afterLast, if_pos again]
      rw [calm.report_bind]
      rfl
    · simp only [answer, afterLast, if_neg again]

/-! ## One failure after the other -/

variable (retry task around call) (start : σ)

/-- The world in which the call is made after some failures; it does not matter to a run what comes
after a success. -/
def stage : ℕ → σ
  | 0 => start
  | failures + 1 =>
      match call (stage failures) with
      | (.ok _, after) => after
      | (.error reason, after) => retry.afterFailure task around (failures + 1) reason after

/-- What the call answers when it is made once more after some failures, each of them reported and
waited out. -/
def outcome (failures : ℕ) : Except ε α := (call (retry.stage task around call start failures)).1

variable {retry task around call start} {reasons : List ε}

theorem stage_succ_of_failed
    (failed : retry.outcome task around call start failures = .error reason) :
    retry.stage task around call start (failures + 1) =
      retry.afterFailure task around (failures + 1) reason
        (call (retry.stage task around call start failures)).2 := by
  unfold outcome at failed
  rw [stage]
  rcases answer : call (retry.stage task around call start failures) with ⟨other | value, after⟩
  · rw [answer] at failed
    cases failed
    rfl
  · rw [answer] at failed
    cases failed

/-- Each failure takes one of the tries in reserve. -/
theorem tryFrom_stage (calm : around.Calm)
    (fails : Fails (retry.outcome task around call start) reasons) (reserve : ℕ) :
    retry.tryFrom task around call (reserve + reasons.length) 0 start =
      retry.tryFrom task around call reserve reasons.length
        (retry.stage task around call start reasons.length) := by
  induction reasons using List.reverseRecOn generalizing reserve with
  | nil => rfl
  | append_singleton reasons reason ih =>
      rcases fails_concat.mp fails with ⟨earlier, failed⟩
      -- the earlier failures are met with one try more in reserve, which the last of them takes
      rw [List.length_append, List.length_singleton, stage_succ_of_failed failed,
        ← tryFrom_of_failed calm (Prod.ext failed rfl), ← ih earlier (reserve + 1),
        Nat.add_right_comm, Nat.add_assoc]

/-- A run goes to where the tries come to an end. -/
theorem run_of_ended {k : ℕ∞} (calm : around.Calm)
    (first : FirstSuccess (retry.outcome task around call start) k)
    (fails : Fails (retry.outcome task around call start) reasons)
    (ended : retry.Ended k reasons.length) :
    retry.run task around call start =
      (retry.outcome task around call start reasons.length,
        retry.afterLast task around reasons.length
          (retry.outcome task around call start reasons.length)
          (call (retry.stage task around call start reasons.length)).2) := by
  have within := ended.within
  have tries : retry.maxAttempts - 1 = retry.maxAttempts - 1 - reasons.length + reasons.length := by
    omega
  unfold run
  rw [tries, tryFrom_stage calm fails]
  refine tryFrom_of_last calm ?_
  rcases ended.last with here | ⟨_, spent⟩
  · exact Or.inr (first.succeeds _ here.symm)
  · exact Or.inl (by omega)

end Tries

/-! ## What is seen -/

section Course

variable (retry : Retry) (task : Task) (describe : ε → String)

/-- A failure after which the call is tried again: the call, the warning and the wait. -/
def round (failures : ℕ) (reason : ε) : List (Step ε α) :=
  let wait := min (retry.baseDelayMs * 2 ^ failures) (UInt64.size - 1)
  [.called (.error reason),
    .reported ⟨.warning,
      s!"[{task.network}] {task.name} failed (attempt {failures + 1}/{retry.maxAttempts})" ++
        s!": {describe reason}. Retrying in {wait}ms"⟩,
    .waited wait]

/-- The report after the last call. -/
def closing (failures : ℕ) : Except ε α → List (Step ε α)
  | .ok _ =>
      if 0 < failures then
        [.reported ⟨.info,
          s!"[{task.network}] {task.name} succeeded after {failures} retries"⟩]
      else []
  | .error reason =>
      let text := describe reason
      [.reported ⟨.error,
        s!"[{task.network}] {task.name} failed after {retry.maxAttempts} attempts: {text}"⟩]

/-- The failures that are followed by another try. -/
def rounds (reasons : List ε) : List (Step ε α) :=
  (reasons.mapIdx (retry.round task describe)).flatten

/-- All that is seen of a run with these failures and this last outcome. -/
def course (reasons : List ε) (last : Except ε α) : List (Step ε α) :=
  retry.rounds task describe reasons ++
    .called last :: retry.closing task describe reasons.length last

variable {retry task describe}

theorem round_eq (failures : ℕ) (reason : ε) :
    retry.round task describe failures reason =
      [.called (.error reason),
        .reported (task.retrying retry (failures + 1) (describe reason)),
        (.waited (retry.delay (failures + 1)) : Step ε α)] := by
  unfold round Task.retrying
  rw [delay_succ]

theorem rounds_concat (reasons : List ε) (reason : ε) :
    (retry.rounds task describe (reasons ++ [reason]) : List (Step ε α)) =
      retry.rounds task describe reasons ++ retry.round task describe reasons.length reason := by
  unfold rounds
  rw [List.mapIdx_concat, List.flatten_concat]

theorem calls_round (failures : ℕ) (reason : ε) :
    (retry.round task describe failures reason : List (Step ε α)).countP Step.isCall = 1 := rfl

theorem calls_rounds (reasons : List ε) :
    (retry.rounds task describe reasons : List (Step ε α)).countP Step.isCall = reasons.length := by
  induction reasons using List.reverseRecOn with
  | nil => rfl
  | append_singleton reasons reason ih =>
      rw [rounds_concat, List.countP_append, ih, calls_round, List.length_append,
        List.length_singleton]

theorem calls_closing (failures : ℕ) (last : Except ε α) :
    (retry.closing task describe failures last).countP Step.isCall = 0 := by
  rcases last with reason | value
  · rfl
  · unfold closing
    by_cases again : 0 < failures
    · rw [if_pos again]
      rfl
    · rw [if_neg again]
      rfl

theorem calls_course (reasons : List ε) (last : Except ε α) :
    (retry.course task describe reasons last).countP Step.isCall = reasons.length + 1 := by
  unfold course
  rw [List.countP_append, calls_rounds, List.countP_cons_of_pos rfl, calls_closing]

end Course

/-! ## Under the eyes of the onlooker -/

section Watching

variable {retry : Retry} {task : Task} {around : Surroundings σ ε} {call : Attempt σ ε α}
  {start : σ} {reasons : List ε}

theorem afterFailure_watched (failures : ℕ) (reason : ε) (watched : Watched σ ε α) :
    retry.afterFailure task around.watched failures reason watched =
      ⟨retry.afterFailure task around failures reason watched.world,
        watched.seen ++ [.reported (task.retrying retry failures (around.describe reason)),
          .waited (retry.delay failures)]⟩ :=
  congrArg (Watched.mk _) (List.append_assoc _ _ _)

theorem afterLast_watched (failures : ℕ) (last : Except ε α) (watched : Watched σ ε α) :
    retry.afterLast task around.watched failures last watched =
      ⟨retry.afterLast task around failures last watched.world,
        watched.seen ++ retry.closing task around.describe failures last⟩ := by
  rcases last with reason | value
  · rfl
  · by_cases again : 0 < failures
    · simp only [afterLast, closing, if_pos again]
      rfl
    · simp only [afterLast, closing, if_neg again, List.append_nil]

theorem world_stage_watched (n : ℕ) :
    (retry.stage task around.watched (Watched.act call .called) ⟨start, []⟩ n).world =
      retry.stage task around call start n := by
  induction n with
  | zero => rfl
  | succ n ih =>
      rw [stage, stage, Watched.act_run, ih]
      rcases call (retry.stage task around call start n) with ⟨reason | value, after⟩
      · exact congrArg Watched.world (afterFailure_watched (n + 1) reason _)
      · rfl

/-- Watching changes no outcome. -/
theorem outcome_watched :
    retry.outcome task around.watched (Watched.act call .called) ⟨start, []⟩ =
      retry.outcome task around call start := by
  funext n
  unfold outcome
  rw [Watched.act_run, world_stage_watched]

theorem stage_watched (fails : Fails (retry.outcome task around call start) reasons) :
    retry.stage task around.watched (Watched.act call .called) ⟨start, []⟩ reasons.length =
      ⟨retry.stage task around call start reasons.length,
        retry.rounds task around.describe reasons⟩ := by
  induction reasons using List.reverseRecOn with
  | nil => rfl
  | append_singleton reasons reason ih =>
      rcases fails_concat.mp fails with ⟨earlier, failed⟩
      have seen : retry.outcome task around.watched (Watched.act call .called) ⟨start, []⟩
          reasons.length = .error reason := (congrFun outcome_watched _).trans failed
      have answer : (call (retry.stage task around call start reasons.length)).1 = .error reason :=
        failed
      rw [List.length_append, List.length_singleton, stage_succ_of_failed seen,
        stage_succ_of_failed failed, ih earlier, Watched.act_run, afterFailure_watched, answer,
        rounds_concat, round_eq, List.append_assoc]
      rfl

/-- A run that ends after some failures is seen to make them, and the last call. -/
theorem run_watched {k : ℕ∞} (calm : around.Calm)
    (first : FirstSuccess (retry.outcome task around call start) k)
    (fails : Fails (retry.outcome task around call start) reasons)
    (ended : retry.Ended k reasons.length) :
    retry.run task around.watched (Watched.act call .called) ⟨start, []⟩ =
      (retry.outcome task around call start reasons.length,
        ⟨(retry.run task around call start).2,
          retry.course task around.describe reasons
            (retry.outcome task around call start reasons.length)⟩) := by
  have watching := run_of_ended calm.watched (outcome_watched.symm ▸ first)
    (outcome_watched.symm ▸ fails) ended
  rw [watching, run_of_ended calm first fails ended, outcome_watched, afterLast_watched,
    stage_watched fails, Watched.act_run]
  exact congrArg (Prod.mk _) (congrArg (Watched.mk _) (List.append_assoc _ _ _))

end Watching

/-! ## The whole run -/

/-- What there is to see of a run in which the first success, if there is one, comes after `k`
failures. -/
structure Tried (retry : Retry) (task : Task) (describe : ε → String)
    (outcomes : ℕ → Except ε α) (k : ℕ∞) (last : Except ε α) (seen : List (Step ε α)) : Prop where
  calls : (seen.countP Step.isCall : ℕ∞) = min (k + 1) retry.maxAttempts
  answers : ∀ n : ℕ, n = k → n < retry.maxAttempts →
    last = outcomes n ∧ ∃ value, last = .ok value
  givesUp : retry.maxAttempts ≤ k →
    last = outcomes (retry.maxAttempts - 1) ∧ ∃ reason, last = .error reason
  course : ∃ reasons, Fails outcomes reasons ∧ seen = retry.course task describe reasons last

/-- What there is to see follows from where the tries come to an end. -/
theorem tried_of_ended {outcomes : ℕ → Except ε α} {k : ℕ∞} {retry : Retry} {reasons : List ε}
    (first : FirstSuccess outcomes k) (fails : Fails outcomes reasons)
    (ended : retry.Ended k reasons.length) (task : Task) (describe : ε → String) :
    retry.Tried task describe outcomes k (outcomes reasons.length)
      (retry.course task describe reasons (outcomes reasons.length)) := by
  have within : (reasons.length : ℕ∞) < retry.maxAttempts := Nat.cast_lt.mpr ended.within
  refine ⟨?_, ?_, ?_, reasons, fails, rfl⟩
  · rw [calls_course, Nat.cast_add_one]
    rcases ended.last with rfl | ⟨late, spent⟩
    · rw [min_eq_left (Order.add_one_le_of_lt within)]
    · rw [min_eq_right (late.trans le_self_add), ← spent, Nat.cast_add_one]
  · intro n here early
    rcases ended.last with same | ⟨late, _⟩
    · have equal : n = reasons.length := Nat.cast_inj.mp (here.trans same)
      rw [equal]
      exact ⟨rfl, first.succeeds _ same.symm⟩
    · rw [← here, Nat.cast_le] at late
      exact absurd early (Nat.not_lt_of_le late)
  · intro late
    rcases ended.last with same | ⟨_, spent⟩
    · rw [same] at late
      exact absurd within (not_lt_of_ge late)
    · have equal : retry.maxAttempts - 1 = reasons.length := by omega
      rw [equal]
      exact ⟨rfl, first.fails _ (lt_of_lt_of_le within late)⟩

/-- A call is tried until it succeeds for the first time, but no more often than is allowed.  Each
failure before that is reported and waited out, and the wait doubles each time. -/
theorem run_tries (retry : Retry) (task : Task) {around : Surroundings σ ε} (calm : around.Calm)
    (call : Attempt σ ε α) (start : σ) {k : ℕ∞}
    (first : FirstSuccess (retry.outcome task around call start) k) :
    ∃ last after seen,
      retry.run task around call start = (last, after) ∧
      retry.run task around.watched (Watched.act call .called) ⟨start, []⟩ =
        (last, ⟨after, seen⟩) ∧
      retry.Tried task around.describe (retry.outcome task around call start) k last seen := by
  rcases first.exists_ended retry with ⟨reasons, fails, ended⟩
  have run := run_of_ended calm first fails ended
  have watched := run_watched calm first fails ended
  rw [run] at watched
  exact ⟨_, _, _, run, watched, tried_of_ended first fails ended task around.describe⟩

/-- A call that is refused twice, in a world that counts the calls. -/
def refusedTwice : Attempt ℕ String ℕ := fun calls =>
  (if calls < 2 then .error "refused" else .ok (calls + 1), calls + 1)

/-- Surroundings in which nothing happens. -/
def idle : Surroundings ℕ String where
  describe := fun reason => reason
  pause := fun _ => pure ()
  report := fun _ => pure ()

/-- Three tries, with a wait that does not fit into 64 bits when it is doubled. -/
def thrice : Retry := withConfig 3 10000000000000000000

def getBlock : Task := ⟨"regtest", "Get block 7"⟩

/-- The call answers at the last try, after a wait that is cut. -/
theorem run_tries_refusedTwice :
    idle.Calm ∧ FirstSuccess (thrice.outcome getBlock idle refusedTwice 0) 2 ∧
    ∃ seen,
      thrice.run getBlock idle refusedTwice 0 = (.ok 3, 3) ∧
      thrice.run getBlock idle.watched (Watched.act refusedTwice .called) ⟨0, []⟩ =
        (.ok 3, ⟨3, seen⟩) ∧
      thrice.Tried getBlock idle.describe (thrice.outcome getBlock idle refusedTwice 0) 2 (.ok 3)
        seen := by
  have calm : idle.Calm := ⟨fun _ _ => rfl, fun _ _ => rfl⟩
  have first : FirstSuccess (thrice.outcome getBlock idle refusedTwice 0) 2 := by
    constructor
    · intro n early
      have below : n < 2 := by exact_mod_cast early
      match n, below with
      | 0, _ => exact ⟨"refused", rfl⟩
      | 1, _ => exact ⟨"refused", rfl⟩
    · intro n here
      have two : n = 2 := by exact_mod_cast here
      rw [two]
      exact ⟨3, rfl⟩
  have ends : thrice.run getBlock idle refusedTwice 0 = (.ok 3, 3) := by cbv
  rcases run_tries thrice getBlock calm refusedTwice 0 first with
    ⟨last, after, seen, run, watched, tried⟩
  rw [ends] at run
  rcases Prod.mk.inj run with ⟨rfl, rfl⟩
  exact ⟨calm, first, seen, ends, watched, tried⟩

end Retry
end TokenOverlay
