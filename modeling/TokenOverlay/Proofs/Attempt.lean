import TokenOverlay.State.Journal

namespace TokenOverlay

/-!
What an attempt yields: one condition on the state after success and one on
the state after failure.  The rules below compute both conditions backwards
through an action, so the theorem about a handler is read off its text.
-/

namespace Attempt

variable {σ ε α β : Type}

/-- From this state the attempt succeeds into one condition or fails into the other. -/
def Yields (attempt : Attempt σ ε α) (accepted : α → σ → Prop) (failed : ε → σ → Prop)
    (state : σ) : Prop :=
  match attempt state with
  | (.ok value, after) => accepted value after
  | (.error reason, after) => failed reason after

variable {accepted accepted' : α → σ → Prop} {failed failed' : ε → σ → Prop} {state after : σ}

theorem yields_pure {value : α} :
    (pure value : Attempt σ ε α).Yields accepted failed state ↔ accepted value state := Iff.rfl

theorem yields_fail {reason : ε} :
    (fail reason : Attempt σ ε α).Yields accepted failed state ↔ failed reason state := Iff.rfl

theorem yields_bind {attempt : Attempt σ ε β} {next : β → Attempt σ ε α} :
    (attempt >>= next).Yields accepted failed state ↔
      attempt.Yields (fun value => (next value).Yields accepted failed) failed state := by
  simp only [Yields, bind_run]
  rcases attempt state with ⟨reason | value, after⟩ <;> exact Iff.rfl

theorem Yields.mono {attempt : Attempt σ ε α} (yields : attempt.Yields accepted failed state)
    (onSuccess : ∀ value after, accepted value after → accepted' value after)
    (onFailure : ∀ reason after, failed reason after → failed' reason after) :
    attempt.Yields accepted' failed' state := by
  revert yields
  unfold Yields
  rcases attempt state with ⟨reason | value, after⟩
  · exact onFailure reason after
  · exact onSuccess value after

/-- Two things that one run yields, it yields together. -/
theorem Yields.and {attempt : Attempt σ ε α} (first : attempt.Yields accepted failed state)
    (second : attempt.Yields accepted' failed' state) :
    attempt.Yields (fun value after => accepted value after ∧ accepted' value after)
      (fun reason after => failed reason after ∧ failed' reason after) state := by
  revert first second
  unfold Yields
  rcases attempt state with ⟨reason | value, after⟩
  · exact And.intro
  · exact And.intro

/-- Run an attempt, and go on from whatever its success leaves behind. -/
theorem Yields.bind {attempt : Attempt σ ε β} {next : β → Attempt σ ε α}
    {between : β → σ → Prop} {failed' : ε → σ → Prop}
    (yields : attempt.Yields between failed' state)
    (onSuccess : ∀ value after, between value after → (next value).Yields accepted failed after)
    (onFailure : ∀ reason after, failed' reason after → failed reason after) :
    (attempt >>= next).Yields accepted failed state :=
  yields_bind.mpr (yields.mono onSuccess onFailure)

theorem Yields.of_ok {attempt : Attempt σ ε α} {value : α}
    (yields : attempt.Yields accepted failed state) (run : attempt state = (.ok value, after)) :
    accepted value after := by
  unfold Yields at yields
  rw [run] at yields
  exact yields

theorem Yields.of_error {attempt : Attempt σ ε α} {reason : ε}
    (yields : attempt.Yields accepted failed state)
    (run : attempt state = (.error reason, after)) : failed reason after := by
  unfold Yields at yields
  rw [run] at yields
  exact yields

/-- A run that succeeds has gone through its first step and then its second. -/
theorem bind_ok {attempt : Attempt σ ε β} {next : β → Attempt σ ε α} {value : α}
    (run : (attempt >>= next) state = (.ok value, after)) :
    ∃ first between, attempt state = (.ok first, between) ∧
      next first between = (.ok value, after) := by
  rw [bind_run] at run
  rcases step : attempt state with ⟨reason | first, between⟩
  · rw [step] at run
    cases run
  · rw [step] at run
    exact ⟨first, between, rfl, run⟩

/-! ### Runs whose value is known -/

/-- From this state the attempt succeeds with a value, and leaves a condition behind. -/
def Gives (attempt : Attempt σ ε α) (value : α) (left : σ → Prop) (state : σ) : Prop :=
  ∃ after, attempt state = (.ok value, after) ∧ left after

theorem gives_pure {value : α} {left : σ → Prop} (holds : left state) :
    (pure value : Attempt σ ε α).Gives value left state := ⟨state, rfl, holds⟩

theorem Gives.mono {attempt : Attempt σ ε α} {value : α} {left left' : σ → Prop}
    (gives : attempt.Gives value left state) (weaker : ∀ after, left after → left' after) :
    attempt.Gives value left' state := by
  rcases gives with ⟨after, run, holds⟩
  exact ⟨after, run, weaker after holds⟩

theorem Gives.bind {attempt : Attempt σ ε β} {next : β → Attempt σ ε α} {first : β} {value : α}
    {between left : σ → Prop} (gives : attempt.Gives first between state)
    (rest : ∀ after, between after → (next first).Gives value left after) :
    (attempt >>= next).Gives value left state := by
  rcases gives with ⟨middle, run, holds⟩
  rcases rest middle holds with ⟨after, runRest, leaves⟩
  refine ⟨after, ?_, leaves⟩
  rw [bind_run, run]
  exact runRest

/-- From this state the attempt fails with a reason, and leaves a condition behind. -/
def Refuses (attempt : Attempt σ ε α) (reason : ε) (left : σ → Prop) (state : σ) : Prop :=
  ∃ after, attempt state = (.error reason, after) ∧ left after

theorem refuses_fail {reason : ε} {left : σ → Prop} (holds : left state) :
    (fail reason : Attempt σ ε α).Refuses reason left state := ⟨state, rfl, holds⟩

theorem Refuses.bind {attempt : Attempt σ ε β} {next : β → Attempt σ ε α} {reason : ε}
    {left : σ → Prop} (refuses : attempt.Refuses reason left state) :
    (attempt >>= next).Refuses reason left state := by
  rcases refuses with ⟨after, run, leaves⟩
  refine ⟨after, ?_, leaves⟩
  rw [bind_run, run]

/-- What is refused after a first step that succeeds. -/
theorem Gives.refuses {attempt : Attempt σ ε β} {next : β → Attempt σ ε α} {first : β} {reason : ε}
    {between left : σ → Prop} (gives : attempt.Gives first between state)
    (rest : ∀ after, between after → (next first).Refuses reason left after) :
    (attempt >>= next).Refuses reason left state := by
  rcases gives with ⟨middle, run, holds⟩
  rcases rest middle holds with ⟨after, runRest, leaves⟩
  refine ⟨after, ?_, leaves⟩
  rw [bind_run, run]
  exact runRest

end Attempt

namespace Action

open Attempt

variable {α β : Type} {accepted : α → Journal → Prop} {failed : Rejection → Journal → Prop}
  {journal : Journal}

theorem yields_state {accepted : State → Journal → Prop} :
    Action.state.Yields accepted failed journal ↔ accepted journal.state journal := Iff.rfl

theorem yields_edit {change : Edit} {accepted : Unit → Journal → Prop} :
    (Action.edit change).Yields accepted failed journal ↔ accepted () (journal.record change) :=
  Iff.rfl

theorem yields_guard {condition : Prop} [Decidable condition] {reason : Rejection}
    {accepted : Unit → Journal → Prop} :
    (Action.guard condition reason).Yields accepted failed journal ↔
      (condition → accepted () journal) ∧ (¬ condition → failed reason journal) := by
  by_cases holds : condition <;>
    simp [Action.guard, Attempt.guard, holds, yields_pure, yields_fail]

theorem yields_require {reason : Rejection} {value : Option α} :
    (Action.require reason value).Yields accepted failed journal ↔
      (∀ v, value = some v → accepted v journal) ∧ (value = none → failed reason journal) := by
  cases value <;> simp [Action.require, Attempt.require, yields_pure, yields_fail]

/-- A sum that has to fit is there exactly if it fits. -/
theorem yields_add {a b : Int} {reason : Rejection} {accepted : Int → Journal → Prop} :
    (Action.require reason (Amount.add? a b)).Yields accepted failed journal ↔
      (Amount.Fits (a + b) → accepted (a + b) journal) ∧
        (¬ Amount.Fits (a + b) → failed reason journal) := by
  rw [yields_require, Amount.add?]
  by_cases fits : Amount.Fits (a + b) <;> simp [fits]

theorem yields_ite {condition : Prop} [Decidable condition] {yes no : Action α} :
    (if condition then yes else no).Yields accepted failed journal ↔
      (condition → yes.Yields accepted failed journal) ∧
        (¬ condition → no.Yields accepted failed journal) := by
  by_cases holds : condition <;> simp [holds]

/-- A condition that every step of a loop keeps holds after the loop. -/
theorem yields_forM {items : List β} {step : β → Action Unit} (keeps : Journal → Prop)
    {failed : Rejection → Journal → Prop}
    (kept : ∀ item ∈ items, ∀ journal, keeps journal →
      (step item).Yields (fun _ => keeps) failed journal)
    (start : keeps journal) : (items.forM step).Yields (fun _ => keeps) failed journal := by
  induction items generalizing journal with
  | nil => exact start
  | cons item rest ih =>
      change (step item >>= fun _ => rest.forM step).Yields _ _ _
      refine (kept item List.mem_cons_self journal start).bind ?_ fun _ _ failing => failing
      intro _ after held
      exact ih (fun other member => kept other (List.mem_cons_of_mem item member)) held

end Action
end TokenOverlay
