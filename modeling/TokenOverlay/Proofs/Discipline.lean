import TokenOverlay.Proofs.Events

namespace TokenOverlay

/-!
How supplies change in time.  Each kind of property has its rule: a fixed supply
stays, a managed one follows its issuer, a protocol token is only burnt by fees,
and a crowdsale property only grows by what its running sale sells.  One event
obeys the rule, and so does every stretch of time.
-/

/-- How a supply of some kind may differ later on. -/
def PropertyKind.Allows (kind : PropertyKind) (earlier later : Int) : Prop :=
  match kind with
  | .protocol => later ≤ earlier
  | .fixed => later = earlier
  | .managed => True
  | .crowdsale => earlier ≤ later

namespace PropertyKind.Allows

variable {kind : PropertyKind} {earlier between later : Int}

theorem refl (kind : PropertyKind) (total : Int) : kind.Allows total total := by
  cases kind with
  | managed => trivial
  | protocol | crowdsale => exact Int.le_refl total
  | fixed => rfl

theorem trans (first : kind.Allows earlier between) (second : kind.Allows between later) :
    kind.Allows earlier later := by
  cases kind with
  | managed => trivial
  | protocol => exact Int.le_trans second first
  | fixed => exact Eq.trans second first
  | crowdsale => exact Int.le_trans first second

end PropertyKind.Allows

/-- Whatever changes a supply, it changes it the way its kind allows. -/
theorem Execute.ChangesSupply.allows {s : State} {tx : TxContext} {details : TxDetails}
    {payload : Payload} {p : Property} {change : Int}
    (reason : ChangesSupply s tx details payload p change) :
    p.kind.Allows p.totalTokens (p.totalTokens + change) := by
  unfold ChangesSupply at reason
  unfold PropertyKind.Allows
  cases kind : p.kind with
  | managed => trivial
  | fixed => simp only [kind] at reason
  | protocol =>
      simp only [kind] at reason
      have down := reason.1
      dsimp only
      omega
  | crowdsale =>
      simp only [kind] at reason
      have up := reason.1
      dsimp only
      omega

/-! ## One event -/

namespace Moment

variable {rules : Rules} {moment : Moment}

/-- Every registered property keeps all but its supply, and the supply changes only by an
accepted transaction that has a reason to change it. -/
def Disciplined (rules : Rules) (moment : Moment) : Prop :=
  ∀ id p, moment.before.registry.get? id = some p → ∃ change,
    (moment.after rules).registry.get? id =
      some { p with totalTokens := p.totalTokens + change } ∧
    (change = 0 ∨ ∃ record payload, moment.Accepts rules record ∧
      record.payload = some payload ∧
      Execute.ChangesSupply moment.before record.context record.details payload p change)

theorem disciplined (rules : Rules) (regular : moment.before.Regular) :
    moment.Disciplined rules := by
  intro id p registered
  have unchanged (same : (moment.after rules).registry = moment.before.registry) :
      (moment.after rules).registry.get? id = some { p with totalTokens := p.totalTokens + 0 } := by
    rw [same, registered, Int.add_zero]
  cases moment.outcome rules regular with
  | started _ _ begins => exact ⟨0, unchanged begins.registry, Or.inl rfl⟩
  | refused _ same => exact ⟨0, unchanged (congrArg State.registry same), Or.inl rfl⟩
  | accepted _ record payload accepts carried _ _ deed =>
      rcases deed.supply regular.sound regular.trading registered with ⟨change, found, reason⟩
      refine ⟨change, found, reason.imp_right fun changes => ?_⟩
      exact ⟨record, payload, accepts, carried, changes⟩

end Moment

/-! ## A stretch of time -/

namespace State

variable {rules : Rules} {s : State}

/-- A property that is registered stays registered, and its supply has moved the way its kind
allows. -/
theorem Regular.allows (regular : s.Regular) (events : List Event) {id : PropertyId}
    {p : Property} (registered : s.registry.get? id = some p) :
    ∃ total, (s.follow rules events).registry.get? id = some { p with totalTokens := total } ∧
      p.kind.Allows p.totalTokens total := by
  induction events generalizing s p with
  | nil => exact ⟨p.totalTokens, registered, .refl _ _⟩
  | cons event rest ih =>
      have met : (Moment.mk s event).before.Regular := regular
      rcases Moment.disciplined rules met id p registered with ⟨change, found, reason⟩
      have step : p.kind.Allows p.totalTokens (p.totalTokens + change) := by
        rcases reason with rfl | ⟨_, _, _, _, changes⟩
        · rw [Int.add_zero]
          exact .refl _ _
        · exact changes.allows
      rcases ih (regular.next event) found with ⟨total, later, rests⟩
      exact ⟨total, later, step.trans rests⟩

end State

/-- The protocol tokens are there from the start, and never more of them than then. -/
def Engine.burning (rules : Rules) : Law rules where
  holds s := (orderly rules).holds s ∧ ∀ ecosystem : Ecosystem, ∃ born total,
    (genesisState rules.config).registry.get? ecosystem.protocolToken = some born ∧
    s.registry.get? ecosystem.protocolToken = some { born with totalTokens := total } ∧
    born.kind = .protocol ∧ total ≤ born.totalTokens
  genesis := by
    refine ⟨(orderly rules).genesis, fun ecosystem => ?_⟩
    rcases (orderly rules).genesis.1.registry.protocolToken ecosystem with ⟨born, found, kind⟩
    exact ⟨born, born.totalTokens, found, found, kind, Int.le_refl _⟩
  prelude := by
    rintro block s sound ⟨held, tokens⟩
    refine ⟨(orderly rules).prelude block s sound held, fun ecosystem => ?_⟩
    rw [(prelude_does ⟨sound, held.1, held.2⟩ block).registry]
    exact tokens ecosystem
  message := by
    rintro tx m s sound ⟨held, tokens⟩
    have start : (Journal.start s).state.Sound := sound
    have kept := (orderly rules).message tx m s sound held
    have done := Execute.message_does rules tx start held.1 m
    refine (kept.and done).mono ?_ fun _ _ _ => trivial
    rintro details after ⟨still, deed⟩
    refine ⟨still, fun ecosystem => ?_⟩
    rcases tokens ecosystem with ⟨born, total, genesis, registered, kind, less⟩
    rcases deed.supply sound held.1 registered with ⟨change, found, reason⟩
    refine ⟨born, total + change, genesis, found, kind, ?_⟩
    rcases reason with rfl | changes
    · omega
    · have allowed := changes.allows
      simp only [PropertyKind.Allows, kind] at allowed
      omega
  forget := fun _ _ held => ⟨(orderly rules).forget _ _ held.1, held.2⟩

/-! ## Runs -/

namespace Session

/-- Blocks that are applied to an engine lead through a history of events in which every event
is disciplined: fixed supplies stay, managed ones change by the grants and revocations of their
issuers, the protocol tokens lose the fees of distributions, and crowdsale properties gain what
their running sales sell.  So between any two points of the history supplies move only the way
their kinds allow, and there are never more protocol tokens than before the first block. -/
theorem run_disciplines_supplies (rules : Rules) (calls : List Call) (blocks : List Block) :
    let session := run rules calls
    let start := session.engine.state
    let course := session.engine.course blocks
    (run rules (calls ++ blocks.map .apply)).engine.state = start.follow rules course ∧
    (∀ moment ∈ start.history rules course, moment.Disciplined rules) ∧
    (∀ earlier between later, course = earlier ++ between ++ later →
      ∀ id p, (start.follow rules earlier).registry.get? id = some p →
        ∃ total, (start.follow rules (earlier ++ between)).registry.get? id =
            some { p with totalTokens := total } ∧
          p.kind.Allows p.totalTokens total) ∧
    ∀ ecosystem : Ecosystem, ∃ born total,
      (Engine.genesisState rules.config).registry.get? ecosystem.protocolToken = some born ∧
      start.registry.get? ecosystem.protocolToken = some { born with totalTokens := total } ∧
      born.kind = .protocol ∧ total ≤ born.totalTokens := by
  intro session start course
  have regular : start.Regular := .of_reached (.idle calls)
  refine ⟨run_offered rules calls blocks, ?_, ?_, ?_⟩
  · exact fun moment member => Moment.disciplined rules (regular.before member)
  · intro earlier between later _ id p registered
    rw [State.follow_append]
    exact (regular.follow earlier).allows between registered
  · exact ((Engine.burning rules).of_reached (.idle calls)).2.2

/-- The tokens that a contribution to a sale creates have their reason in that contribution. -/
theorem run_disciplines_supplies_selling :
    let start := (run twoOwners []).engine.state
    let course := (run twoOwners []).engine.course [State.Reached.selling]
    ∃ moment ∈ start.history twoOwners course, ∃ p,
      moment.before.registry.get? 3 = some p ∧ p.totalTokens = 0 ∧
      (moment.after twoOwners).registry.get? 3 = some { p with totalTokens := 3 } ∧
      ∃ record payload, moment.Accepts twoOwners record ∧ record.payload = some payload ∧
        Execute.ChangesSupply moment.before record.context record.details payload p 3 := by
  intro start course
  have grows : ∃ moment ∈ start.history twoOwners course,
      (moment.before.registry.get? 3).map Property.totalTokens = some 0 ∧
      ((moment.after twoOwners).registry.get? 3).map Property.totalTokens = some 3 := by
    decide +kernel
  rcases grows with ⟨moment, member, empty, filled⟩
  rcases Option.map_eq_some_iff.mp empty with ⟨p, registered, nothing⟩
  rcases (run_disciplines_supplies twoOwners [] [State.Reached.selling]).2.1 moment member 3 p
    registered with ⟨change, found, reason⟩
  rw [found, Option.map_some, Option.some.injEq] at filled
  have three : change = 3 := by
    dsimp only at filled
    omega
  subst three
  refine ⟨moment, member, p, registered, nothing, ?_, reason.resolve_left (by decide)⟩
  rw [found, nothing]
  rfl

end Session
end TokenOverlay
