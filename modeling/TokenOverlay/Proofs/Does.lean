import TokenOverlay.Proofs.Checks

namespace TokenOverlay

/-!
What an action leaves behind if it succeeds.  An action is gone through step by
step: what is only read changes nothing and is known afterwards, and what moves
tokens or changes offers leaves the registry, the sales and the features alone.
-/

open Attempt TokenOverlay.Action

/-- The registry, the sales and the features are the same. -/
structure State.Aside (s after : State) : Prop where
  registry : after.registry = s.registry
  crowdsales : after.crowdsales = s.crowdsales
  features : after.features = s.features

namespace State

variable {s between after : State}

theorem Aside.refl (s : State) : s.Aside s := ⟨rfl, rfl, rfl⟩

theorem Aside.trans (first : s.Aside between) (second : between.Aside after) : s.Aside after where
  registry := second.registry.trans first.registry
  crowdsales := second.crowdsales.trans first.crowdsales
  features := second.features.trans first.features

/-- From a state on, the registry, the sales and the features are left alone. -/
abbrev aside (base : State) : Condition := .ofState base.Aside

end State

/-! ## Actions that succeed -/

namespace Action

variable {α β : Type}

/-- What the action leaves behind if it succeeds. -/
def Does (action : Action α) (done : α → Journal → Prop) (journal : Journal) : Prop :=
  action.Yields done (fun _ _ => True) journal

namespace Does

variable {action : Action α} {next : α → Action β} {between done' : α → Journal → Prop}
  {done : β → Journal → Prop} {journal : Journal}

theorem mono (does : action.Does between journal)
    (weaker : ∀ value after, between value after → done' value after) :
    action.Does done' journal :=
  Yields.mono does weaker fun _ _ _ => trivial

theorem and (first : action.Does between journal) (second : action.Does done' journal) :
    action.Does (fun value after => between value after ∧ done' value after) journal :=
  Yields.mono (Yields.and first second) (fun _ _ both => both) fun _ _ _ => trivial

theorem bind (first : action.Does between journal)
    (later : ∀ value after, between value after → (next value).Does done after) :
    (action >>= next).Does done journal :=
  Yields.bind first later fun _ _ _ => trivial

/-- How the first step ran is known afterwards. -/
theorem running (later : ∀ value after, action journal = (.ok value, after) →
    (next value).Does done after) : (action >>= next).Does done journal := by
  refine yields_bind.mpr ?_
  unfold Yields
  rcases run : action journal with ⟨reason | value, after⟩
  · trivial
  · exact later value after run

/-- What comes out in the end may not depend on what was done before. -/
theorem ending (later : ∀ value after, (next value).Does done after) :
    (action >>= next).Does done journal :=
  running fun value after _ => later value after

/-- What is read first is known afterwards, and nothing has changed by it. -/
theorem reading (reads : ReadsOnly action)
    (later : ∀ value, action journal = (.ok value, journal) → (next value).Does done journal) :
    (action >>= next).Does done journal := by
  refine running fun value after run => ?_
  have same := reads journal
  rw [run] at same
  subst same
  exact later value run

/-- An action that leaves the registry, the sales and the features alone. -/
theorem aside (keeps : (State.aside journal.state).Keeps action) :
    action.Does (fun _ after => journal.state.Aside after.state) journal :=
  keeps journal (.refl _)

end Does
end Action

/-! ## Balances and offers -/

namespace State

variable {base : State}

theorem aside_balance (address : Address) (property : PropertyId) (next : Balance) :
    base.aside.Keeps (Action.edit (.balance address property next)) :=
  .edit fun _ aside => .trans aside ⟨rfl, rfl, rfl⟩

theorem aside_offer (seller : Address) (property : PropertyId) (next : Option Offer) :
    base.aside.Keeps (Action.edit (.offer seller property next)) :=
  .edit fun _ aside => .trans aside ⟨rfl, rfl, rfl⟩

theorem credit_aside (address : Address) (property : PropertyId) (amount : Int) :
    base.aside.Keeps (Ledger.credit address property amount) :=
  Condition.keeps_credit aside_balance address property amount

theorem debit_aside (address : Address) (property : PropertyId) (amount : Int) :
    base.aside.Keeps (Ledger.debit address property amount) :=
  Condition.keeps_debit aside_balance address property amount

end State

end TokenOverlay
