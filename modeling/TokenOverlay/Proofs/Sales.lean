import TokenOverlay.Proofs.Bookkeeping
import TokenOverlay.Proofs.Quotes

namespace TokenOverlay

/-!
The books of the crowdsales.  What a sale has issued is written down in three
places: as the supply of the property it sells, in the counters of the sale
and in its contributions.  A purchase changes all three, one after the other,
and is therefore looked at as one step here.
-/

theorem Amount.total_append (first second : List Int) :
    total (first ++ second) = total first + total second := by
  induction first with
  | nil => simp
  | cons n rest ih =>
      rw [List.cons_append, total_cons, total_cons, ih]
      omega

/-! ## One sale -/

/-- A sale agrees with the property it sells and with the contributions it took. -/
structure Crowdsale.Agrees (sale : Crowdsale) (sold : Property)
    (contributions : List Participation) : Prop where
  kind : sold.kind = .crowdsale
  issuer : sold.issuer = sale.issuer
  creation : sold.creationTxid = sale.creationTxid
  supply : sold.totalTokens = sale.tokensIssued + sale.issuerTokens
  issued : sale.tokensIssued = Amount.total (contributions.map Participation.participantTokens)
  issuerPart : sale.issuerTokens = Amount.total (contributions.map Participation.issuerTokens)
  nonneg : 0 ≤ sale.tokensIssued ∧ 0 ≤ sale.issuerTokens
  running : sale.active = true ↔ sale.closeBlock = none
  early : sale.closedEarly = sale.maxTokens
  full : sale.maxTokens = true → sale.active = false ∧ sold.totalTokens = TokenOverlay.maxTokens

namespace Crowdsale.Agrees

variable {sale : Crowdsale} {sold : Property} {contributions : List Participation}
  (agrees : sale.Agrees sold contributions)

include agrees

/-- What is sold is never less than nothing. -/
theorem total_nonneg : 0 ≤ sold.totalTokens := by
  rw [agrees.supply]
  exact Int.add_nonneg agrees.nonneg.1 agrees.nonneg.2

/-- A sale ends at its issuer's wish or when its time is over. -/
theorem closed (txid : Option String) (block : Nat) :
    Agrees { sale with active := false, closeTxid := txid, closeBlock := some block } sold
      contributions where
  kind := agrees.kind
  issuer := agrees.issuer
  creation := agrees.creation
  supply := agrees.supply
  issued := agrees.issued
  issuerPart := agrees.issuerPart
  nonneg := agrees.nonneg
  running := by simp
  early := agrees.early
  full := fun capped => ⟨rfl, (agrees.full capped).2⟩

/-- A sale ends when no more can be sold. -/
theorem closedAtCap (p : Participation) (exhausted : sold.totalTokens = TokenOverlay.maxTokens) :
    Agrees (CrowdsaleBook.closedAtCap sale p) sold contributions where
  kind := agrees.kind
  issuer := agrees.issuer
  creation := agrees.creation
  supply := agrees.supply
  issued := agrees.issued
  issuerPart := agrees.issuerPart
  nonneg := agrees.nonneg
  running := by simp [CrowdsaleBook.closedAtCap]
  early := rfl
  full := fun _ => ⟨rfl, exhausted⟩

/-- A running sale has not reached the supply ceiling yet. -/
theorem uncapped (active : sale.active = true) : ¬ sale.maxTokens = true := by
  intro capped
  have closed := (agrees.full capped).1
  rw [active] at closed
  cases closed

theorem counted (active : sale.active = true) {p : Participation}
    (nonneg : 0 ≤ p.participantTokens ∧ 0 ≤ p.issuerTokens) :
    Agrees { sale with
        tokensIssued := sale.tokensIssued + p.participantTokens
        issuerTokens := sale.issuerTokens + p.issuerTokens }
      { sold with totalTokens := sold.totalTokens + (p.participantTokens + p.issuerTokens) }
      (contributions ++ [p]) where
  kind := agrees.kind
  issuer := agrees.issuer
  creation := agrees.creation
  supply := by
    have before := agrees.supply
    dsimp only
    omega
  issued := by
    rw [List.map_append, Amount.total_append, ← agrees.issued]
    simp
  issuerPart := by
    rw [List.map_append, Amount.total_append, ← agrees.issuerPart]
    simp
  nonneg := ⟨Int.add_nonneg agrees.nonneg.1 nonneg.1, Int.add_nonneg agrees.nonneg.2 nonneg.2⟩
  running := agrees.running
  early := agrees.early
  full := fun capped => absurd capped (agrees.uncapped active)

end Crowdsale.Agrees

/-! ## The registry -/

namespace Registry

/-- The ecosystem of a property, if it is registered. -/
def ecosystemOf? (r : Registry) (id : PropertyId) : Option Ecosystem :=
  (r.get? id).map Property.ecosystem

/-- The supply of one property is more by an amount, which may be negative, and everything else
is as before. -/
def Grown (r : Registry) (id : PropertyId) (amount : Int) (after : Registry) : Prop :=
  ∀ other, after.get? other =
    if other = id then (r.get? id).map fun p => { p with totalTokens := p.totalTokens + amount }
    else r.get? other

namespace Grown

variable {r between after : Registry} {id : PropertyId} {amount later : Int}

theorem refl (r : Registry) (id : PropertyId) : r.Grown id 0 r := by
  intro other
  split
  · next same =>
      rw [same]
      cases r.get? id with
      | none => rfl
      | some p => simp
  · rfl

theorem trans (first : r.Grown id amount between) (second : between.Grown id later after) :
    r.Grown id (amount + later) after := by
  intro other
  have one := first id
  have two := second other
  rw [if_pos rfl] at one
  rw [one] at two
  rw [two]
  split
  · cases r.get? id with
    | none => rfl
    | some p => simp [Int.add_assoc]
  · next different =>
      rw [first other, if_neg different]

theorem get?_of_ne (grown : r.Grown id amount after) {other : PropertyId} (different : other ≠ id) :
    after.get? other = r.get? other := by
  rw [grown other, if_neg different]

theorem get?_self (grown : r.Grown id amount after) {p : Property}
    (registered : r.get? id = some p) :
    after.get? id = some { p with totalTokens := p.totalTokens + amount } := by
  rw [grown id, if_pos rfl, registered, Option.map_some]

theorem supplyOf_self (grown : r.Grown id amount after) {p : Property}
    (registered : r.get? id = some p) : after.supplyOf id = p.totalTokens + amount := by
  rw [supplyOf, grown.get?_self registered, Option.map_some, Option.getD_some]

theorem ecosystemOf? (grown : r.Grown id amount after) (other : PropertyId) :
    after.ecosystemOf? other = r.ecosystemOf? other := by
  unfold Registry.ecosystemOf?
  rw [grown other]
  split
  · next same =>
      rw [same]
      cases r.get? id <;> rfl
  · rfl

/-- Every property that is registered afterwards was before, and differs in its supply only. -/
theorem origin (grown : r.Grown id amount after) {other : PropertyId} {p : Property}
    (registered : after.get? other = some p) :
    ∃ old, r.get? other = some old ∧ p.ecosystem = old.ecosystem := by
  rw [grown other] at registered
  split at registered
  · next same =>
      rcases Option.map_eq_some_iff.mp registered with ⟨old, before, rfl⟩
      exact ⟨old, same ▸ before, rfl⟩
  · exact ⟨p, registered, rfl⟩

end Grown

theorem supplyOf_of_get? {r : Registry} {id : PropertyId} {p : Property}
    (registered : r.get? id = some p) : r.supplyOf id = p.totalTokens := by
  rw [supplyOf, registered, Option.map_some, Option.getD_some]

/-- A written supply is a growth by what it exceeds the old one. -/
theorem grown_withSupply {r : Registry} {id : PropertyId} {p : Property}
    (registered : r.get? id = some p) (amount : Int) :
    r.Grown id amount (r.withSupply id (p.totalTokens + amount)) := by
  intro other
  rw [get?_withSupply, registered]
  rfl

/-- A number that may be given out belongs to its ecosystem. -/
theorem Numbered.of_admits {r : Registry} (numbered : r.Numbered) {p : Property}
    {next : PropertyId} (admits : r.Admits p next) : Ecosystem.of p.id = some p.ecosystem := by
  have start := numbered.first p.ecosystem
  rw [← admits.1] at start
  have half := numbered.half_of_admits admits
  have large : 3 ≤ p.id.toNat := by
    cases which : p.ecosystem <;> rw [which] at start
    · exact start
    · exact Nat.le_trans (by decide) start
  have apart : ∀ id : PropertyId, id.toNat < 3 → p.id ≠ id := by
    intro id small same
    rw [same] at large
    omega
  unfold Ecosystem.half at half
  rw [Ecosystem.of, if_neg (apart 0 (by decide)), if_neg (apart Ecosystem.mainToken (by decide)),
    if_neg (apart Ecosystem.testToken (by decide)), ← half]
  split <;> rfl

/-- No supply is above the ceiling, both protocol tokens are there, and every property lies in
the half of the numbers that its ecosystem has. -/
structure Orderly (r : Registry) : Prop where
  capped : ∀ id, r.supplyOf id ≤ maxTokens
  protocolToken : ∀ ecosystem : Ecosystem, ∃ p,
    r.get? ecosystem.protocolToken = some p ∧ p.kind = .protocol
  located : ∀ id p, r.get? id = some p → Ecosystem.of id = some p.ecosystem

namespace Orderly

theorem initial : Orderly Registry.initial where
  capped := by
    intro id
    rw [supplyOf_initial]
    decide
  protocolToken := by
    intro ecosystem
    cases ecosystem
    · exact ⟨.protocolToken .main "Main Protocol Token", by decide, rfl⟩
    · exact ⟨.protocolToken .test "Test Protocol Token", by decide, rfl⟩
  located := by
    intro id p found
    rw [get?, Registry.initial, SortedMap.get?_insert, SortedMap.get?_insert] at found
    split at found
    · next second =>
        cases found
        rw [second]
        rfl
    · split at found
      · next first =>
          cases found
          rw [first]
          rfl
      · cases found

variable {r : Registry} (orderly : r.Orderly)

include orderly

theorem grown {id : PropertyId} {amount : Int} {after : Registry} {p : Property}
    (growth : r.Grown id amount after) (registered : r.get? id = some p)
    (within : p.totalTokens + amount ≤ maxTokens) : after.Orderly where
  capped := by
    intro other
    by_cases same : other = id
    · rw [same, growth.supplyOf_self registered]
      exact within
    · rw [supplyOf, growth.get?_of_ne same]
      exact orderly.capped other
  protocolToken := by
    intro ecosystem
    rcases orderly.protocolToken ecosystem with ⟨token, found, kind⟩
    by_cases same : ecosystem.protocolToken = id
    · rw [same] at found ⊢
      exact ⟨_, growth.get?_self found, kind⟩
    · exact ⟨token, (growth.get?_of_ne same).trans found, kind⟩
  located := by
    intro other q found
    rcases growth.origin found with ⟨old, before, ecosystem⟩
    rw [ecosystem]
    exact orderly.located other old before

/-- A new property lies where its ecosystem gives out numbers. -/
theorem added (numbered : r.Numbered) {p : Property} {next : PropertyId}
    (admits : r.Admits p next) (within : p.totalTokens ≤ maxTokens) :
    (r.added p next).Orderly where
  capped := by
    intro other
    rw [supplyOf, get?_added]
    split
    · exact within
    · exact orderly.capped other
  protocolToken := by
    intro ecosystem
    rcases orderly.protocolToken ecosystem with ⟨token, found, kind⟩
    have taken : ecosystem.protocolToken ≠ p.id := by
      intro same
      rw [same, numbered.free_of_admits admits] at found
      cases found
    refine ⟨token, ?_, kind⟩
    rw [get?_added, if_neg taken]
    exact found
  located := by
    intro other q found
    rw [get?_added] at found
    split at found
    · next same =>
        cases found
        rw [same]
        exact numbered.of_admits admits
    · exact orderly.located other q found

end Orderly
end Registry

/-! ## All sales -/

theorem CrowdsaleBook.get?_withSale (book : CrowdsaleBook) (id other : PropertyId)
    (sale : Crowdsale) :
    (book.withSale id (some sale)).get? other = if other = id then some sale else book.get? other :=
  SortedMap.get?_insert book.sales id other sale

theorem CrowdsaleBook.participationsOf_addParticipation (book : CrowdsaleBook) (id : PropertyId)
    (p : Participation) :
    (book.addParticipation id p).participationsOf id = book.participationsOf id ++ [p] := by
  rw [participationsOf, addParticipation, SortedMap.get?_insert_self, Option.getD_some]

namespace State

/-- The registry is in order, every stored sale agrees with it and with its contributions, no
issuer runs two sales, and there are contributions to stored sales only. -/
structure Trading (s : State) : Prop where
  registry : s.registry.Orderly
  sales : ∀ id sale, s.crowdsales.get? id = some sale → ∃ sold,
    s.registry.get? id = some sold ∧ sale.propertyId = id ∧
      s.registry.ecosystemOf? sale.desiredProperty = some sold.ecosystem ∧
      sale.Agrees sold (s.crowdsales.participationsOf id)
  single : ∀ id other sale rival, s.crowdsales.get? id = some sale →
    s.crowdsales.get? other = some rival → sale.active = true → rival.active = true →
      sale.issuer = rival.issuer → id = other
  contributed : ∀ id, s.crowdsales.get? id = none → s.crowdsales.participations.get? id = none

namespace Trading

theorem initial : Trading State.initial where
  registry := Registry.Orderly.initial
  sales := by
    intro id sale found
    cases found
  single := by
    intro id other sale rival found
    cases found
  contributed := fun _ _ => rfl

variable {s after : State} (trading : s.Trading)

include trading

/-- A sale is stored under the number of what it sells. -/
theorem keyed {id : PropertyId} {sale : Crowdsale} (stored : s.crowdsales.get? id = some sale) :
    sale.propertyId = id := by
  rcases trading.sales id sale stored with ⟨_, _, keyed, _⟩
  exact keyed

/-- A sale agrees with what is registered under its number. -/
theorem agrees {id : PropertyId} {sale : Crowdsale} {sold : Property}
    (stored : s.crowdsales.get? id = some sale) (registered : s.registry.get? id = some sold) :
    sale.Agrees sold (s.crowdsales.participationsOf id) := by
  rcases trading.sales id sale stored with ⟨_, found, _, _, agrees⟩
  rw [registered] at found
  cases found
  exact agrees

/-- A property of another kind is not for sale. -/
theorem unsold {id : PropertyId} {p : Property} (registered : s.registry.get? id = some p)
    (other : p.kind ≠ .crowdsale) : s.crowdsales.get? id = none := by
  cases stored : s.crowdsales.get? id with
  | none => rfl
  | some sale => exact absurd (trading.agrees stored registered).kind other

/-- A number that is not given out yet is not for sale. -/
theorem unsold_of_free {id : PropertyId} (free : s.registry.get? id = none) :
    s.crowdsales.get? id = none := by
  cases stored : s.crowdsales.get? id with
  | none => rfl
  | some sale =>
      rcases trading.sales id sale stored with ⟨sold, found, _⟩
      rw [free] at found
      cases found

/-- The registry may change where nothing is for sale. -/
theorem ofRegistry (orderly : after.registry.Orderly) (same : after.crowdsales = s.crowdsales)
    (sold : ∀ id sale, s.crowdsales.get? id = some sale →
      after.registry.get? id = s.registry.get? id)
    (ecosystems : ∀ id ecosystem, s.registry.ecosystemOf? id = some ecosystem →
      after.registry.ecosystemOf? id = some ecosystem) : after.Trading where
  registry := orderly
  sales := by
    intro id sale stored
    rw [same] at stored ⊢
    rcases trading.sales id sale stored with ⟨p, found, keyed, desired, agrees⟩
    exact ⟨p, (sold id sale stored).trans found, keyed, ecosystems _ _ desired, agrees⟩
  single := by
    rw [same]
    exact trading.single
  contributed := by
    rw [same]
    exact trading.contributed

/-- Balances, offers, features and receipts do not matter. -/
theorem of_same (registry : after.registry = s.registry)
    (crowdsales : after.crowdsales = s.crowdsales) : after.Trading := by
  refine trading.ofRegistry ?_ crowdsales (fun _ _ _ => by rw [registry]) fun _ _ found => ?_
  · rw [registry]
    exact trading.registry
  · rw [registry]
    exact found

/-- The supply of a property that is not for sale may change. -/
theorem supplied {id : PropertyId} {amount : Int} {p : Property}
    (grown : s.registry.Grown id amount after.registry) (same : after.crowdsales = s.crowdsales)
    (registered : s.registry.get? id = some p) (unsold : s.crowdsales.get? id = none)
    (within : p.totalTokens + amount ≤ maxTokens) : after.Trading := by
  refine trading.ofRegistry (trading.registry.grown grown registered within) same ?_ ?_
  · intro other sale stored
    refine grown.get?_of_ne fun here => ?_
    rw [here, unsold] at stored
    cases stored
  · intro other ecosystem found
    rw [grown.ecosystemOf?]
    exact found

/-- A new property may be registered. -/
theorem added (numbered : s.registry.Numbered) {p : Property} {next : PropertyId}
    (admits : s.registry.Admits p next) (within : p.totalTokens ≤ maxTokens) :
    (s.apply (.register p next)).Trading := by
  have free := numbered.free_of_admits admits
  have found : ∀ id, (s.apply (.register p next)).registry.get? id = _ :=
    s.registry.get?_added p next
  have known : ∀ id q, s.registry.get? id = some q →
      (s.apply (.register p next)).registry.get? id = some q := by
    intro id q registered
    rw [found, if_neg]
    · exact registered
    · rintro rfl
      rw [free] at registered
      cases registered
  refine trading.ofRegistry (trading.registry.added numbered admits within) rfl ?_ ?_
  · intro id sale stored
    rcases trading.sales id sale stored with ⟨sold, registered, _⟩
    rw [registered]
    exact known id sold registered
  · intro id ecosystem registered
    rcases Option.map_eq_some_iff.mp registered with ⟨q, atId, rfl⟩
    rw [Registry.ecosystemOf?, known id q atId, Option.map_some]

/-- A sale may be written together with the supply that it has issued by then. -/
theorem written {id : PropertyId} {amount : Int} {sale : Crowdsale} {sold : Property}
    (grown : s.registry.Grown id amount after.registry)
    (registered : s.registry.get? id = some sold)
    (within : sold.totalTokens + amount ≤ maxTokens)
    (stored : ∀ other, after.crowdsales.get? other =
      if other = id then some sale else s.crowdsales.get? other)
    (others : ∀ other, other ≠ id → after.crowdsales.participations.get? other =
      s.crowdsales.participations.get? other)
    (keyed : sale.propertyId = id)
    (desired : s.registry.ecosystemOf? sale.desiredProperty = some sold.ecosystem)
    (agrees : sale.Agrees { sold with totalTokens := sold.totalTokens + amount }
      (after.crowdsales.participationsOf id))
    (alone : sale.active = true → ∀ other rival, s.crowdsales.get? other = some rival →
      rival.active = true → rival.issuer = sale.issuer → other = id) : after.Trading where
  registry := trading.registry.grown grown registered within
  sales := by
    intro other next found
    rw [stored] at found
    split at found
    · next here =>
        cases found
        subst here
        refine ⟨_, grown.get?_self registered, keyed, ?_, agrees⟩
        rw [grown.ecosystemOf?]
        exact desired
    · next elsewhere =>
        rcases trading.sales other next found with ⟨p, before, own, wanted, balanced⟩
        refine ⟨p, (grown.get?_of_ne elsewhere).trans before, own, ?_, ?_⟩
        · rw [grown.ecosystemOf?]
          exact wanted
        · rw [CrowdsaleBook.participationsOf, others other elsewhere]
          exact balanced
  single := by
    intro first second one two foundOne foundTwo activeOne activeTwo same
    rw [stored] at foundOne foundTwo
    split at foundOne
    · next here =>
        cases foundOne
        split at foundTwo
        · next there => rw [here, there]
        · rw [here]
          exact (alone activeOne second two foundTwo activeTwo same.symm).symm
    · split at foundTwo
      · next there =>
          cases foundTwo
          rw [there]
          exact alone activeTwo first one foundOne activeOne same
      · exact trading.single first second one two foundOne foundTwo activeOne activeTwo same
  contributed := by
    intro other missing
    rw [stored] at missing
    split at missing
    · cases missing
    · next elsewhere =>
        rw [others other elsewhere]
        exact trading.contributed other missing

end Trading
end State
end TokenOverlay
