import TokenOverlay.Proofs.Discipline

namespace TokenOverlay

/-!
The life of a crowdsale in time.  A sale runs until its issuer closes it, until
a contribution would pass the supply ceiling, or until a block starts after its
deadline; then nothing about it changes any more.  No sale runs within a block
that is later than its deadline, so nothing is bought from it there.
-/

/-- Every sale that runs is still open at the time of a block. -/
def State.InTime (s : State) (block : Block) : Prop :=
  ∀ id sale, s.crowdsales.get? id = some sale → sale.active = true → block.time ≤ sale.deadline

/-! ## One event -/

namespace Crowdsale

/-- Why a sale that runs when an event comes does not run afterwards. -/
inductive Ends (rules : Rules) (moment : Moment) (id : PropertyId) (sale : Crowdsale) : Prop
  /-- Its issuer closes it. -/
  | closed (record : TxRecord) (accepts : moment.Accepts rules record)
      (asked : record.payload = some (.closeCrowdsale id)) (own : record.sender = sale.issuer)
  /-- A contribution would pass the supply ceiling. -/
  | filled (record : TxRecord) (raw : UInt64) (sold : Property) (c : Contribution)
      (accepts : moment.Accepts rules record)
      (paid : record.payload = some (.simpleSend sale.desiredProperty raw))
      (recipient : record.reference = some sale.issuer) (other : record.sender ≠ sale.issuer)
      (registered : moment.before.registry.get? id = some sold)
      (worth : c = Execute.contributionOf rules record.context moment.before sale
        sale.desiredProperty raw.toNat sold)
      (above : TokenOverlay.maxTokens < sold.totalTokens + c.participantShare + c.issuerShare)
  /-- A block starts after its deadline. -/
  | overdue (block : Block) (event : moment.event = .start block)
      (late : sale.deadline < block.time)

end Crowdsale

namespace Moment

variable {rules : Rules} {moment : Moment} {id : PropertyId} {sale : Crowdsale}

/-- A sale that is over is left alone, and so are the contributions to it and what it sold. -/
theorem sale_over (rules : Rules) (regular : moment.before.Regular)
    (stored : moment.before.crowdsales.get? id = some sale) (ended : sale.active = false) :
    (moment.after rules).crowdsales.get? id = some sale ∧
      (moment.after rules).crowdsales.participationsOf id =
        moment.before.crowdsales.participationsOf id ∧
      (moment.after rules).registry.get? id = moment.before.registry.get? id := by
  have idle : ∀ other, moment.before.crowdsales.get? id = some other → other.active ≠ true := by
    intro other found
    rw [stored] at found
    cases found
    simp [ended]
  have sold : (moment.after rules).registry.get? id = moment.before.registry.get? id := by
    rcases regular.trading.sales id sale stored with ⟨p, registered, _, _, agrees⟩
    rcases Moment.disciplined rules regular id p registered with ⟨change, found, reason⟩
    rcases reason with rfl | ⟨record, payload, _, _, changes⟩
    · rw [found, registered, Int.add_zero]
    · simp only [Execute.ChangesSupply, agrees.kind] at changes
      rcases changes with ⟨_, running, _, _, held, active, _⟩
      rw [regular.sound.canonical.registry.keyed id p registered] at held
      exact absurd active (idle running held)
  have both : (moment.after rules).crowdsales.get? id = some sale ∧
      (moment.after rules).crowdsales.participationsOf id =
        moment.before.crowdsales.participationsOf id := by
    cases moment.outcome rules regular with
    | started block _ begins =>
        refine ⟨?_, congrArg (fun table => (table.get? id).getD []) begins.participations⟩
        rw [begins.sale id, stored, Option.map_some, Crowdsale.atStart, ended]
        simp
    | refused _ same =>
        rw [same]
        exact ⟨stored, rfl⟩
    | accepted _ record payload _ _ _ _ deed =>
        cases deed.sale regular.trading id with
        | kept still contributions => exact ⟨still.trans stored, contributions⟩
        | opened _ missing =>
            rw [stored] at missing
            cases missing
        | closed other found running => exact absurd running (idle other found)
        | bought other _ _ _ _ found _ sells => exact absurd sells.active (idle other found)
  exact ⟨both.1, both.2, sold⟩

/-- A sale that runs goes on, or it ends for one of the three reasons. -/
theorem sale_running (regular : moment.before.Regular)
    (stored : moment.before.crowdsales.get? id = some sale) (running : sale.active = true) :
    ∃ later, (moment.after rules).crowdsales.get? id = some later ∧
      (later.active = true ∨ sale.Ends rules moment id) := by
  cases moment.outcome rules regular with
  | started block event begins =>
      refine ⟨sale.atStart block, by rw [begins.sale id, stored, Option.map_some], ?_⟩
      rw [Crowdsale.atStart]
      split
      · next late => exact Or.inr (.overdue block event late.2)
      · exact Or.inl running
  | refused _ same => exact ⟨sale, same ▸ stored, Or.inl running⟩
  | accepted _ record payload accepts carried _ _ deed =>
      cases deed.sale regular.trading id with
      | kept still => exact ⟨sale, still.trans stored, Or.inl running⟩
      | opened _ missing =>
          rw [stored] at missing
          cases missing
      | closed other found _ asked own ended =>
          rw [stored] at found
          cases found
          exact ⟨_, ended, Or.inr (.closed record accepts (asked ▸ carried) own.symm)⟩
      | bought other raw sold quote p found paid sells counted =>
          rw [stored] at found
          cases found
          refine ⟨_, counted, ?_⟩
          cases capped : quote.reachedCap with
          | false => exact Or.inl running
          | true =>
              have registered := sells.registered
              rw [regular.trading.keyed stored] at registered
              have agrees := regular.trading.agrees stored registered
              have full := sells.quoted ▸ capped
              rw [Contribution.reachedCap_iff _ agrees.total_nonneg
                (regular.trading.total_le registered)] at full
              exact Or.inr (.filled record raw sold _ accepts (paid ▸ carried) sells.recipient
                sells.other registered rfl full)

/-- Contributions are only added to a sale that runs. -/
theorem contributions_running (regular : moment.before.Regular) (id : PropertyId) :
    (moment.after rules).crowdsales.participationsOf id =
        moment.before.crowdsales.participationsOf id ∨
      moment.event ≠ .start moment.event.block ∧ ∃ sale,
        moment.before.crowdsales.get? id = some sale ∧ sale.active = true := by
  cases moment.outcome rules regular with
  | started block _ begins =>
      exact Or.inl (congrArg (fun table => (table.get? id).getD []) begins.participations)
  | refused _ same => exact Or.inl (by rw [same])
  | accepted within _ _ _ _ _ _ deed =>
      cases deed.sale regular.trading id with
      | kept _ same => exact Or.inl same
      | opened _ _ _ _ same => exact Or.inl same
      | closed _ _ _ _ _ _ same => exact Or.inl same
      | bought sale _ _ _ _ stored _ sells =>
          exact Or.inr ⟨within, sale, stored, sells.active⟩

/-- No sale runs that is over by the time of the block. -/
theorem inTime (regular : moment.before.Regular)
    (held : moment.event = .start moment.event.block ∨
      moment.before.InTime moment.event.block) :
    (moment.after rules).InTime moment.event.block := by
  intro id sale stored running
  cases moment.outcome rules regular with
  | started block event begins =>
      rw [begins.sale id] at stored
      rcases Option.map_eq_some_iff.mp stored with ⟨old, found, rfl⟩
      rw [event]
      unfold Crowdsale.atStart at running ⊢
      split at running
      · cases running
      · next early =>
          rw [if_neg early]
          exact Int.not_lt.mp fun late => early ⟨running, late⟩
  | refused within same =>
      rw [same] at stored
      exact held.resolve_left within id sale stored running
  | accepted within record payload _ _ _ time deed =>
      have before := held.resolve_left within id
      cases deed.sale regular.trading id with
      | kept still => exact before sale (still ▸ stored) running
      | opened other _ found inTime =>
          rw [stored] at found
          cases found
          exact time ▸ inTime
      | closed _ _ _ _ _ ended =>
          rw [stored] at ended
          cases ended
          cases running
      | bought other raw sold quote p found _ sells counted =>
          rw [stored] at counted
          cases counted
          have deadline : (other.accounting p quote.reachedCap).deadline = other.deadline := by
            cases quote.reachedCap <;> rfl
          rw [deadline]
          exact before other found sells.active

end Moment

/-! ## A stretch of time -/

/-- What is over stays as it is. -/
theorem State.Regular.sale_over {rules : Rules} {s : State} (regular : s.Regular)
    (events : List Event) {id : PropertyId} {sale : Crowdsale}
    (stored : s.crowdsales.get? id = some sale) (ended : sale.active = false) :
    (s.follow rules events).crowdsales.get? id = some sale ∧
      (s.follow rules events).crowdsales.participationsOf id =
        s.crowdsales.participationsOf id ∧
      (s.follow rules events).registry.get? id = s.registry.get? id := by
  induction events generalizing s with
  | nil => exact ⟨stored, rfl, rfl⟩
  | cons event rest ih =>
      have met : (Moment.mk s event).before.Regular := regular
      rcases Moment.sale_over rules met stored ended with ⟨still, contributions, sold⟩
      rcases ih (regular.next event) still with ⟨later, same, unsold⟩
      exact ⟨later, same.trans contributions, unsold.trans sold⟩

/-! ## Runs -/

namespace Session

/-- Blocks that are applied to an engine lead through a history of events.  A sale that is over
at some point of it is the same at every later one, with its contributions and with what it
sold.  No sale runs behind an event that is over by the time of its block, and whoever
contributes does so to a sale that runs and is still open then.  A sale that runs before an
event is there after it, and runs on unless its issuer closes it, a contribution would pass the
supply ceiling, or a block starts after its deadline. -/
theorem run_ends_sales (rules : Rules) (calls : List Call) (blocks : List Block) :
    let session := run rules calls
    let start := session.engine.state
    let course := session.engine.course blocks
    (run rules (calls ++ blocks.map .apply)).engine.state = start.follow rules course ∧
    (∀ earlier between later, course = earlier ++ between ++ later → ∀ id sale,
      (start.follow rules earlier).crowdsales.get? id = some sale → sale.active = false →
        (start.follow rules (earlier ++ between)).crowdsales.get? id = some sale ∧
        (start.follow rules (earlier ++ between)).crowdsales.participationsOf id =
          (start.follow rules earlier).crowdsales.participationsOf id ∧
        (start.follow rules (earlier ++ between)).registry.get? id =
          (start.follow rules earlier).registry.get? id) ∧
    (∀ moment ∈ start.history rules course, ∀ id sale,
      (moment.after rules).crowdsales.get? id = some sale → sale.active = true →
        moment.event.block.time ≤ sale.deadline) ∧
    (∀ moment ∈ start.history rules course, ∀ id,
      (moment.after rules).crowdsales.participationsOf id ≠
          moment.before.crowdsales.participationsOf id →
        ∃ sale, moment.before.crowdsales.get? id = some sale ∧ sale.active = true ∧
          moment.event.block.time ≤ sale.deadline) ∧
    ∀ moment ∈ start.history rules course, ∀ id sale,
      moment.before.crowdsales.get? id = some sale → sale.active = true →
        ∃ later, (moment.after rules).crowdsales.get? id = some later ∧
          (later.active = true ∨ sale.Ends rules moment id) := by
  intro session start course
  have regular : start.Regular := .of_reached (.idle calls)
  have stillOpen : ∀ moment ∈ start.history rules course,
      moment.event = .start moment.event.block ∨ moment.before.InTime moment.event.block :=
    fun moment member => regular.amid (fun block s => s.InTime block)
      (fun moment => Moment.inTime) (session.engine.taken blocks) member
  refine ⟨run_offered rules calls blocks, ?_, ?_, ?_, ?_⟩
  · intro earlier between later _ id sale stored ended
    rw [State.follow_append]
    exact (regular.follow earlier).sale_over between stored ended
  · intro moment member
    exact Moment.inTime (regular.before member) (stillOpen moment member)
  · intro moment member id more
    rcases Moment.contributions_running (regular.before member) id with
      same | ⟨within, sale, stored, running⟩
    · exact absurd same more
    · refine ⟨sale, stored, running, ?_⟩
      exact (stillOpen moment member).resolve_left within id sale stored running
  · exact fun moment member id sale => Moment.sale_running (regular.before member)

/-- The sale of the first block ends as the next one starts, which is after its deadline. -/
theorem run_ends_sales_deadline :
    let start := (run twoOwners []).engine.state
    let course := (run twoOwners []).engine.course [State.Reached.selling, ⟨1, "y", "x", 11, []⟩]
    ∃ moment ∈ start.history twoOwners course, ∃ sale later,
      moment.before.crowdsales.get? 3 = some sale ∧ sale.active = true ∧
      (moment.after twoOwners).crowdsales.get? 3 = some later ∧ later.active = false ∧
      sale.Ends twoOwners moment 3 := by
  intro start course
  have ended : ∃ moment ∈ start.history twoOwners course,
      (moment.before.crowdsales.get? 3).map Crowdsale.active = some true ∧
      ((moment.after twoOwners).crowdsales.get? 3).map Crowdsale.active = some false := by
    decide +kernel
  rcases ended with ⟨moment, member, before, after⟩
  rcases Option.map_eq_some_iff.mp before with ⟨sale, stored, running⟩
  rcases Option.map_eq_some_iff.mp after with ⟨later, found, closed⟩
  have ends := (run_ends_sales twoOwners [] [State.Reached.selling, ⟨1, "y", "x", 11, []⟩]).2.2.2.2
  rcases ends moment member 3 sale stored running with ⟨other, found', reason⟩
  rw [found] at found'
  cases found'
  refine ⟨moment, member, sale, later, stored, running, found, closed, ?_⟩
  exact reason.resolve_left fun still => by rw [closed] at still; cases still

end Session
end TokenOverlay
