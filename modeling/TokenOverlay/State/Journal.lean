import TokenOverlay.Attempt
import TokenOverlay.Rejection
import TokenOverlay.State.Edit

namespace TokenOverlay

/-!
A state together with the entries that take its latest edits back, and the
actions that work on both.
-/

/-- A state and its undo entries, newest first. -/
structure Journal where
  state : State
  entries : List UndoEntry
deriving DecidableEq

namespace Journal

def start (state : State) : Journal := ⟨state, []⟩

/-- Make an edit and note how to take it back. -/
def record (journal : Journal) (edit : Edit) : Journal :=
  ⟨journal.state.apply edit, journal.state.inverse edit :: journal.entries⟩

/-- The entries above the oldest `mark` ones, newest first. -/
def since (journal : Journal) (mark : Nat) : List UndoEntry :=
  journal.entries.take (journal.entries.length - mark)

/-- Take back everything above the oldest `mark` entries. -/
def revertTo (journal : Journal) (mark : Nat) : Journal :=
  ⟨journal.state.revertAll (journal.since mark),
    journal.entries.drop (journal.entries.length - mark)⟩

end Journal

/-- An action on the state that may be rejected; a rejected action keeps its edits and their
entries until they are taken back. -/
abbrev Action := Attempt Journal Rejection

namespace Action

def state : Action State := fun journal => (.ok journal.state, journal)

/-- Make one edit. -/
def edit (edit : Edit) : Action Unit := Attempt.modify fun journal => journal.record edit

def reject (reason : Rejection) : Action α := Attempt.fail reason

def require (reason : Rejection) (value : Option α) : Action α := Attempt.require reason value

def guard (condition : Prop) [Decidable condition] (reason : Rejection) : Action Unit :=
  Attempt.guard condition reason

end Action
end TokenOverlay
