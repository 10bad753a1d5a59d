import TokenOverlay.Proofs.Events

namespace TokenOverlay

/-!
What becomes of the features depends on the features alone.  The start of a
block and the control messages work on one status per feature, every other
message leaves them as they are, and whether a control message is accepted
does not depend on anything else either.  So states that agree on the features
still agree after the same events, however different they are otherwise.
-/

open Attempt TokenOverlay.Action

/-! ## Statuses -/

namespace FeatureTable

variable {table : FeatureTable} {id : FeatureId}

/-- The block that a feature is scheduled for, and whether the feature is on already. -/
def status? (table : FeatureTable) (id : FeatureId) : Option (Nat × Bool) :=
  (table.get? id).map fun feature => (feature.activationBlock, feature.completed)

theorem isActive_eq : table.isActive id = ((table.status? id).map Prod.snd).getD false := by
  unfold isActive status?
  cases table.get? id <;> rfl

theorem isSome_status? : (table.status? id).isSome = (table.get? id).isSome := by
  simp [status?]

end FeatureTable

/-- The status that an accepted message leaves a feature in. -/
def Payload.switch (id : FeatureId) (status : Option (Nat × Bool)) :
    Payload → Option (Nat × Bool)
  | .deactivate other => if other = id then none else status
  | .activate other target _ =>
      if other = id ∧ (status.map Prod.snd).getD false = false then some (target.toNat, false)
      else status
  | _ => status

theorem Payload.switch_of_plain {payload : Payload} {id : FeatureId}
    (staying : payload ≠ .deactivate id)
    (idle : ∀ target version, payload ≠ .activate id target version)
    (status : Option (Nat × Bool)) : payload.switch id status = status := by
  cases payload with
  | deactivate other =>
      have different : other ≠ id := fun same => staying (congrArg Payload.deactivate same)
      exact if_neg different
  | activate other target version =>
      have different : other ≠ id := fun same => idle target version (same ▸ rfl)
      exact if_neg fun both => different both.1
  | _ => rfl

theorem State.Begins.status {s after : State} {block : Block} (begins : s.Begins block after)
    (id : FeatureId) : after.features.status? id =
      (s.features.status? id).map fun status =>
        (status.1, status.2 || decide (status.1 ≤ block.height)) := by
  unfold FeatureTable.status?
  rw [begins.feature id]
  cases s.features.get? id with
  | none => rfl
  | some feature =>
      simp only [Option.map_some, Feature.atStart]
      by_cases come : feature.activationBlock ≤ block.height <;>
        cases on : feature.completed <;> simp [come, on]

theorem Execute.Deed.status {rules : Rules} {tx : TxContext} {s after : State}
    {details : TxDetails} {payload : Payload} (deed : Deed rules tx s details after payload)
    (id : FeatureId) : after.features.status? id = payload.switch id (s.features.status? id) := by
  have unchanged : after.features.get? id = s.features.get? id →
      after.features.status? id = s.features.status? id := fun same => by
    rw [FeatureTable.status?, FeatureTable.status?, same]
  cases deed.feature id with
  | kept entry staying idle =>
      rw [Payload.switch_of_plain staying idle]
      exact unchanged entry
  | removed asked entry =>
      subst asked
      rw [FeatureTable.status?, entry, Payload.switch, if_pos rfl]
      rfl
  | alreadyActive target version asked active entry =>
      subst asked
      rw [FeatureTable.isActive_eq] at active
      rw [Payload.switch, if_neg fun off => by simp [active] at off]
      exact unchanged entry
  | scheduled target version feature asked inactive entry number aim pending =>
      subst asked
      rw [FeatureTable.isActive_eq] at inactive
      rw [Payload.switch, if_pos ⟨rfl, inactive⟩, FeatureTable.status?, entry, Option.map_some, aim,
        pending]

/-! ## Agreement on the features -/

/-- The features of two states have the same statuses. -/
def State.Alike (s other : State) : Prop :=
  ∀ id, s.features.status? id = other.features.status? id

namespace Execute

variable {rules : Rules} {tx : TxContext} {s other : State}

/-- Whether a control message is accepted does not depend on anything but the features. -/
theorem checks_alike (alike : s.Alike other) (m : Message) {id : FeatureId}
    (control : m.payload = .deactivate id ∨ ∃ target version,
      m.payload = .activate id target version) :
    (checks rules tx m (.start s)).1 = (checks rules tx m (.start other)).1 := by
  have stored : (s.features.get? id).isSome = (other.features.get? id).isSome := by
    rw [← FeatureTable.isSome_status?, ← FeatureTable.isSome_status?, alike id]
  unfold checks
  rcases control with asked | ⟨target, version, asked⟩
  · simp only [asked, payloadChecks, checkAuthority, bind_run, guard_run]
    by_cases permits : permitted rules tx m = true <;>
      by_cases authorized : rules.config.authorizes tx.sender = true <;>
      by_cases known : (FeatureId.featureName? id).isSome = true <;>
      simp [permits, authorized, known, Action.state, Journal.start, stored]
  · simp only [asked, payloadChecks, checkAuthority, bind_run, guard_run]
    by_cases permits : permitted rules tx m = true <;>
      by_cases authorized : rules.config.authorizes tx.sender = true <;>
      cases known : FeatureId.featureName? id <;>
      simp [permits, authorized, Action.require, Attempt.require]

end Execute

namespace Engine

/-- A message that can be read does what it says if its checks pass, and nothing otherwise. -/
theorem processTransaction_decoded (rules : Rules) {s : State} (regular : s.Regular)
    (block : Block) (position : Nat) {tx : Tx} {m : Message}
    (decoded : Message.decode tx.payload = .ok m) :
    ((Execute.checks rules (contextOf block tx) m (.start s)).1 = .ok () ∧
      ∃ details, Execute.Deed rules (contextOf block tx) s details
        (processTransaction rules block position tx (.start s)).2.state m.payload) ∨
    (∃ reason, (Execute.checks rules (contextOf block tx) m (.start s)).1 = .error reason) ∧
      (processTransaction rules block position tx (.start s)).2.state = s := by
  have start : (Journal.start s).state.Sound := regular.sound
  have decided := Execute.message_decided rules (contextOf block tx) start regular.trading m
  have does := Execute.message_does rules (contextOf block tx) start regular.trading m
  have edits := Journal.message_yields rules (contextOf block tx) m (.start s)
  unfold processTransaction settle
  rw [decoded]
  dsimp only
  rcases run : Execute.message rules (contextOf block tx) m (.start (Journal.start s).state) with
    ⟨reason | details, after⟩
  · refine Or.inr ⟨⟨reason, congrArg Prod.fst (decided.of_error run)⟩, ?_⟩
    exact (edits.of_error run).undo_start start.canonical
  · have deed := does.of_ok run
    exact Or.inl ⟨congrArg Prod.fst (decided.of_ok run).1, details, deed⟩

end Engine

namespace State.Alike

variable {rules : Rules} {s other : State}

/-- States that agree on the features agree on them after any event. -/
theorem next (alike : s.Alike other) (regular : s.Regular) (regular' : other.Regular)
    (event : Event) : (event.next rules s).Alike (event.next rules other) := by
  intro id
  cases event with
  | start block =>
      rw [Event.next, Event.next, (Engine.prelude_does regular block).status id,
        (Engine.prelude_does regular' block).status id, alike id]
  | transaction block position tx =>
      cases decoded : Message.decode tx.payload with
      | error reason =>
          have same : ∀ s, Event.next rules s (.transaction block position tx) = s := by
            intro s
            rw [Event.next, Engine.processTransaction, decoded]
            rfl
          rw [same, same]
          exact alike id
      | ok m =>
          -- One status after the message, whether or not it is accepted: a message that only
          -- one of the states accepts is no control message.
          have plain : (Execute.checks rules (Engine.contextOf block tx) m (.start s)).1 ≠
              (Execute.checks rules (Engine.contextOf block tx) m (.start other)).1 →
              ∀ status, m.payload.switch id status = status := by
            intro differ
            refine Payload.switch_of_plain (fun asked => ?_) fun target version asked => ?_
            · exact differ (Execute.checks_alike alike m (Or.inl asked))
            · exact differ (Execute.checks_alike alike m (Or.inr ⟨target, version, asked⟩))
          rcases Engine.processTransaction_decoded rules regular block position decoded with
            ⟨passed, _, deed⟩ | ⟨⟨reason, failed⟩, same⟩ <;>
            rcases Engine.processTransaction_decoded rules regular' block position decoded with
              ⟨passed', _, deed'⟩ | ⟨⟨reason', failed'⟩, same'⟩
          · rw [Event.next, Event.next, deed.status id, deed'.status id, alike id]
          · rw [Event.next, Event.next, deed.status id, same', alike id]
            exact plain (by simp [passed, failed']) _
          · rw [Event.next, Event.next, same, deed'.status id, alike id]
            exact (plain (by simp [failed, passed']) _).symm
          · rw [Event.next, Event.next, same, same']
            exact alike id

theorem follow (alike : s.Alike other) (regular : s.Regular) (regular' : other.Regular)
    (events : List Event) : (s.follow rules events).Alike (other.follow rules events) := by
  induction events generalizing s other with
  | nil => exact alike
  | cons event rest ih =>
      exact ih (alike.next regular regular' event) (regular.next event) (regular'.next event)

end State.Alike
end TokenOverlay
