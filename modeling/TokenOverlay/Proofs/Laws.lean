import TokenOverlay.Proofs.Session

namespace TokenOverlay

/-!
The states that an engine passes through, and how a law of the state is shown
to hold in all of them.  It has to hold before the first block and to survive
the start of a block and an accepted message; rejected transactions and
rollbacks lead back to states in which it held already.
-/

/-- The states that an engine passes through: after any calls, and then within a block, before
its first transaction and after each of them. -/
inductive State.Reached (rules : Rules) : State → Prop
  | idle (calls : List Call) : Reached rules (Session.run rules calls).engine.state
  | amid (calls : List Call) (block : Block) (done : List Tx) :
      Reached rules (Engine.processFrom rules block 0
        (Engine.prelude block (.start (Session.run rules calls).engine.state)).2 done).2.state

namespace Engine

/-- A property of sound states that every engine is born with and that accepted messages keep. -/
structure Law (rules : Rules) where
  holds : State → Prop
  genesis : holds (genesisState rules.config)
  prelude : ∀ (block : Block) (s : State), s.Sound → holds s →
    holds (prelude block (.start s)).2.state
  message : ∀ (tx : TxContext) (m : Message) (s : State), s.Sound → holds s →
    (Execute.message rules tx m).Yields (fun _ after => holds after.state) (fun _ _ => True)
      (.start s)
  forget : ∀ (s : State) (gone : List String), holds s → holds (s.forget gone)

section Steps

variable (rules : Rules) (block : Block) (holds : State → Prop)

/-- What a message keeps when it is accepted, its transaction keeps. -/
theorem processTransaction_keeps (position : Nat) (tx : Tx) {journal : Journal}
    (sound : journal.state.Sound) (held : holds journal.state)
    (message : ∀ m, Message.decode tx.payload = .ok m →
      (Execute.message rules (contextOf block tx) m).Yields (fun _ after => holds after.state)
        (fun _ _ => True) (.start journal.state)) :
    holds (processTransaction rules block position tx journal).2.state := by
  rcases processTransaction_outcome rules block position tx sound.canonical with
    ⟨_, same⟩ | ⟨m, details, after, decoded, run, outcome⟩
  · rw [same]
    exact held
  · have kept := (message m decoded).of_ok run
    rw [outcome]
    exact kept

theorem processFrom_keeps (position : Nat) {transactions : List Tx} {journal : Journal}
    (sound : journal.state.Sound) (held : holds journal.state)
    (message : ∀ tx ∈ transactions, ∀ m, Message.decode tx.payload = .ok m →
      ∀ s : State, s.Sound → holds s →
        (Execute.message rules (contextOf block tx) m).Yields (fun _ after => holds after.state)
          (fun _ _ => True) (.start s)) :
    holds (processFrom rules block position journal transactions).2.state := by
  induction transactions generalizing position journal with
  | nil => exact held
  | cons tx rest ih =>
      have first := processTransaction_keeps rules block holds position tx sound held
        fun m decoded => message tx List.mem_cons_self m decoded journal.state sound held
      exact ih (position + 1) (processTransaction_sound rules block position tx sound) first
        fun other member => message other (List.mem_cons_of_mem tx member)

end Steps

namespace Law

variable {rules : Rules} (law : Law rules)

theorem processTransaction (block : Block) (position : Nat) (tx : Tx) {journal : Journal}
    (sound : journal.state.Sound) (held : law.holds journal.state) :
    law.holds (processTransaction rules block position tx journal).2.state :=
  processTransaction_keeps rules block law.holds position tx sound held
    fun m _ => law.message (contextOf block tx) m journal.state sound held

theorem processFrom (block : Block) (transactions : List Tx) (position : Nat) {journal : Journal}
    (sound : journal.state.Sound) (held : law.holds journal.state) :
    law.holds (processFrom rules block position journal transactions).2.state :=
  processFrom_keeps rules block law.holds position sound held
    fun tx _ m _ s => law.message (contextOf block tx) m s

/-- The law holds along every chain, and again wherever a rollback leads. -/
def invariant : Invariant rules where
  allowed _ := True
  holds _ s := law.holds s
  genesis := law.genesis
  block := fun block _ s _ sound held =>
    law.processFrom block block.transactions 0 (prelude_sound block sound)
      (law.prelude block s sound held)
  forget := fun _ _ _ s gone _ _ held => law.forget s gone held

/-- A law holds in every state that an engine passes through, and so do the books. -/
theorem of_reached {s : State} (reached : s.Reached rules) : s.Sound ∧ law.holds s := by
  have idle : ∀ calls, (Session.run rules calls).engine.state.Sound ∧
      law.holds (Session.run rules calls).engine.state := by
    intro calls
    have follows := Session.run_follows law.invariant calls fun _ _ => trivial
    exact ⟨follows.unwinds.sound, follows.unwinds.holds⟩
  cases reached with
  | idle calls => exact idle calls
  | amid calls block done =>
      rcases idle calls with ⟨sound, held⟩
      have started := prelude_sound block sound
      exact ⟨processFrom_sound rules block done 0 started,
        law.processFrom block done 0 started (law.prelude block _ sound held)⟩

end Law
end Engine

/-- The books are in order in every state that an engine passes through. -/
theorem State.Reached.sound {rules : Rules} {s : State} (reached : s.Reached rules) : s.Sound :=
  let books : Engine.Law rules :=
    { holds := fun _ => True
      genesis := trivial
      prelude := fun _ _ _ _ => trivial
      message := fun tx m s sound _ =>
        have start : (Journal.start s).state.Sound := sound
        (Execute.message_keeps_books rules tx m start).mono
          (fun _ _ _ => trivial) fun _ _ _ => trivial
      forget := fun _ _ _ => trivial }
  (books.of_reached reached).1

end TokenOverlay
