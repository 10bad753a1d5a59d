namespace TokenOverlay

/-!
Computations that change a state and may fail.  A failed attempt keeps the
changes it made before it failed; whoever wants them gone has to take them
back, which is what the undo journal is for.
-/

/-- A change of state that answers a value or fails. -/
def Attempt (σ : Type) (ε : Type) (α : Type) : Type := σ → Except ε α × σ

namespace Attempt

variable {σ ε α β γ : Type}

def run (attempt : Attempt σ ε α) (state : σ) : Except ε α × σ := attempt state

instance : Monad (Attempt σ ε) where
  pure value := fun state => (.ok value, state)
  bind attempt next := fun state =>
    match attempt state with
    | (.ok value, after) => next value after
    | (.error reason, after) => (.error reason, after)

/-- Fail without changing anything. -/
def fail (reason : ε) : Attempt σ ε α := fun state => (.error reason, state)

def read : Attempt σ ε σ := fun state => (.ok state, state)

def modify (change : σ → σ) : Attempt σ ε Unit := fun state => (.ok (), change state)

/-- The value that is there, or a failure. -/
def require (reason : ε) : Option α → Attempt σ ε α
  | some value => pure value
  | none => fail reason

/-- Go on only if a condition holds. -/
def guard (condition : Prop) [Decidable condition] (reason : ε) : Attempt σ ε Unit :=
  if condition then pure () else fail reason

@[simp] theorem pure_run (value : α) (state : σ) :
    (pure value : Attempt σ ε α) state = (.ok value, state) := rfl

@[simp] theorem bind_run (attempt : Attempt σ ε α) (next : α → Attempt σ ε β) (state : σ) :
    (attempt >>= next) state =
      match attempt state with
      | (.ok value, after) => next value after
      | (.error reason, after) => (.error reason, after) := rfl

@[simp] theorem fail_run (reason : ε) (state : σ) :
    (fail reason : Attempt σ ε α) state = (.error reason, state) := rfl

@[simp] theorem read_run (state : σ) : (read : Attempt σ ε σ) state = (.ok state, state) := rfl

@[simp] theorem modify_run (change : σ → σ) (state : σ) :
    (modify change : Attempt σ ε Unit) state = (.ok (), change state) := rfl

theorem bind_pure_run (attempt : Attempt σ ε α) : (attempt >>= pure) = attempt := by
  funext state
  rw [bind_run]
  rcases attempt state with ⟨reason | value, after⟩ <;> rfl

theorem bind_assoc_run (attempt : Attempt σ ε α) (next : α → Attempt σ ε β)
    (last : β → Attempt σ ε γ) :
    ((attempt >>= next) >>= last) = attempt >>= fun value => next value >>= last := by
  funext state
  simp only [bind_run]
  rcases attempt state with ⟨reason | value, after⟩ <;> rfl

instance : LawfulMonad (Attempt σ ε) :=
  LawfulMonad.mk' _ (fun attempt => bind_pure_run attempt) (fun _ _ => rfl)
    (fun attempt next last => bind_assoc_run attempt next last)

end Attempt
end TokenOverlay
