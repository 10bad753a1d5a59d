import TokenOverlay.Proofs.Deeds

namespace TokenOverlay

/-!
What an accepted message does to one supply, to one sale and to one feature.
These are read off the list of what messages do, so that nobody has to go
through the kinds of messages again.
-/

theorem FeatureTable.get?_withFeature (table : FeatureTable) (id other : FeatureId)
    (feature : Option Feature) :
    (table.withFeature id feature).get? other = if other = id then feature else table.get? other :=
  SortedMap.get?_assign table.features id other feature

namespace Execute

/-- Why the supply of a property changes by some amount, by the kind of the property. -/
def ChangesSupply (s : State) (tx : TxContext) (details : TxDetails) (payload : Payload)
    (p : Property) (change : Int) : Prop :=
  match p.kind with
  | .protocol => change < 0 ∧ details.distributionFee = some (-change) ∧
      ∃ property raw distribution sent, payload = .sendToOwners property raw distribution ∧
        s.registry.get? property = some sent ∧ sent.ecosystem.protocolToken = p.id
  | .fixed => False
  | .managed => p.issuer = tx.sender ∧ ∃ raw memo,
      payload = .grant p.id raw memo ∧ change = raw.toNat ∨
        payload = .revoke p.id raw memo ∧ change = -raw.toNat
  | .crowdsale => 0 < change ∧ ∃ sale raw, payload = .simpleSend sale.desiredProperty raw ∧
      s.crowdsales.get? p.id = some sale ∧ sale.active = true ∧
        tx.reference = some sale.issuer ∧ tx.sender ≠ sale.issuer

/-- What an accepted message does to the sale of one property and to the contributions to it. -/
inductive SaleDeed (rules : Rules) (tx : TxContext) (s : State) (details : TxDetails)
    (after : State) (payload : Payload) (id : PropertyId) : Prop
  | kept (sale : after.crowdsales.get? id = s.crowdsales.get? id)
      (contributions : after.crowdsales.participationsOf id = s.crowdsales.participationsOf id)
  | opened (sale : Crowdsale) (missing : s.crowdsales.get? id = none)
      (stored : after.crowdsales.get? id = some sale) (inTime : tx.blockTime ≤ sale.deadline)
      (contributions : after.crowdsales.participationsOf id = s.crowdsales.participationsOf id)
  | closed (sale : Crowdsale) (stored : s.crowdsales.get? id = some sale)
      (running : sale.active = true) (asked : payload = .closeCrowdsale id)
      (own : sale.issuer = tx.sender)
      (ended : after.crowdsales.get? id = some { sale with
        active := false, closeTxid := some tx.txid, closeBlock := some tx.block })
      (contributions : after.crowdsales.participationsOf id = s.crowdsales.participationsOf id)
  | bought (sale : Crowdsale) (raw : UInt64) (sold : Property) (quote : Quote) (p : Participation)
      (stored : s.crowdsales.get? id = some sale)
      (paid : payload = .simpleSend sale.desiredProperty raw)
      (sells : s.Sells rules tx sale.desiredProperty raw details after sale sold quote p)
      (counted : after.crowdsales.get? id = some (sale.accounting p quote.reachedCap))
      (contributions : after.crowdsales.participationsOf id =
        s.crowdsales.participationsOf id ++ [p])

/-- What an accepted message does to the entry of one feature. -/
inductive FeatureDeed (s after : State) (payload : Payload) (id : FeatureId) : Prop
  | kept (entry : after.features.get? id = s.features.get? id)
      (staying : payload ≠ .deactivate id)
      (idle : ∀ target version, payload ≠ .activate id target version)
  | removed (asked : payload = .deactivate id) (entry : after.features.get? id = none)
  | alreadyActive (target version : UInt32) (asked : payload = .activate id target version)
      (active : s.features.isActive id = true)
      (entry : after.features.get? id = s.features.get? id)
  | scheduled (target version : UInt32) (feature : Feature)
      (asked : payload = .activate id target version)
      (inactive : s.features.isActive id = false)
      (entry : after.features.get? id = some feature) (number : feature.featureId = id)
      (aim : feature.activationBlock = target.toNat) (pending : feature.completed = false)

namespace Deed

variable {rules : Rules} {tx : TxContext} {s after : State} {details : TxDetails}
  {payload : Payload}

/-- A registered property keeps all but its supply, and that changes for a reason only. -/
theorem supply (deed : Deed rules tx s details after payload) (sound : s.Sound)
    (trading : s.Trading) {id : PropertyId} {p : Property}
    (registered : s.registry.get? id = some p) :
    ∃ change, after.registry.get? id = some { p with totalTokens := p.totalTokens + change } ∧
      (change = 0 ∨ ChangesSupply s tx details payload p change) := by
  have keyed := sound.canonical.registry.keyed
  have unchanged : after.registry.get? id = s.registry.get? id → ∃ change, after.registry.get? id =
      some { p with totalTokens := p.totalTokens + change } ∧
        (change = 0 ∨ ChangesSupply s tx details payload p change) := fun same =>
    ⟨0, by rw [same, registered, Int.add_zero], Or.inl rfl⟩
  have beside := fun aside : s.Aside after =>
    unchanged (congrArg (Registry.get? · id) aside.registry)
  have changed : ∀ {target : PropertyId} {amount : Int},
      s.registry.Grown target amount after.registry →
      (id = target → amount = 0 ∨ ChangesSupply s tx details payload p amount) →
      ∃ change, after.registry.get? id =
        some { p with totalTokens := p.totalTokens + change } ∧
          (change = 0 ∨ ChangesSupply s tx details payload p change) := by
    intro target amount grown reason
    by_cases here : id = target
    · exact ⟨amount, (here ▸ grown).get?_self registered, reason here⟩
    · exact unchanged (grown.get?_of_ne here)
  have created {q : Property} (gains : s.Gains q after) :
      after.registry.get? id = s.registry.get? id := by
    refine gains.others id fun same => ?_
    rw [same, gains.free] at registered
    cases registered
  cases payload with
  | simpleSend property raw =>
      rcases deed with aside | ⟨sale, sold, quote, p', sells⟩
      · exact beside aside
      · refine changed sells.grown fun here => ?_
        subst here
        have agrees := trading.agrees sells.stored registered
        have nonneg := sells.nonneg
        by_cases nothing : quote.participantTokens + quote.issuerTokens = 0
        · exact Or.inl nothing
        · refine Or.inr ?_
          rw [ChangesSupply, agrees.kind]
          exact ⟨by omega, sale, raw, congrArg (Payload.simpleSend · raw) sells.desired.symm,
            (keyed _ p registered).symm ▸ sells.stored, sells.active, sells.recipient,
            sells.other⟩
  | sendToOwners property raw distribution =>
      rcases deed with ⟨sent, fee, found, reported, supplied⟩
      refine changed supplied.grown fun here => ?_
      rcases trading.registry.protocolToken sent.ecosystem with ⟨token, known, kind⟩
      rw [← here, registered] at known
      cases known
      by_cases positive : 0 < fee
      · refine Or.inr ?_
        rw [ChangesSupply, kind, max_eq_right (Int.le_of_lt positive)]
        exact ⟨by omega, by rw [Int.neg_neg]; exact reported, property, raw, distribution, sent,
          rfl, found, here.symm.trans (keyed id p registered).symm⟩
      · exact Or.inl (by rw [max_eq_left (Int.not_lt.mp positive)]; rfl)
  | sendAll ecosystem => exact beside deed
  | sellOffer property amount desired timeLimit minFee action =>
      exact beside deed
  | acceptOffer property raw => exact beside deed
  | issueFixed issuance raw =>
      rcases deed with ⟨q, _, _, _, gains⟩
      exact unchanged (created gains)
  | issueManaged issuance =>
      rcases deed with ⟨q, _, _, _, gains⟩
      exact unchanged (created gains)
  | issueCrowdsale issuance desired rate deadline earlyBonus issuerPercent =>
      rcases deed with ⟨q, _, _, _, gains, _⟩
      exact unchanged (created gains)
  | closeCrowdsale property =>
      rcases deed with ⟨sale, _, _, _, rfl⟩
      exact unchanged rfl
  | grant property raw memo =>
      rcases deed with ⟨managed, found, kind, issuer, supplied⟩
      refine changed supplied.grown fun here => ?_
      subst here
      rw [registered] at found
      cases found
      refine Or.inr ?_
      rw [ChangesSupply, kind, keyed id p registered]
      exact ⟨issuer, raw, memo, Or.inl ⟨rfl, rfl⟩⟩
  | revoke property raw memo =>
      rcases deed with ⟨managed, found, kind, issuer, supplied⟩
      refine changed supplied.grown fun here => ?_
      subst here
      rw [registered] at found
      cases found
      refine Or.inr ?_
      rw [ChangesSupply, kind, keyed id p registered]
      exact ⟨issuer, raw, memo, Or.inr ⟨rfl, rfl⟩⟩
  | deactivate feature =>
      rcases deed with ⟨_, rfl⟩
      exact unchanged rfl
  | activate feature target version =>
      rcases deed with ⟨_, _, outcome⟩
      split at outcome
      · exact unchanged (congrArg (fun s : State => s.registry.get? id) outcome)
      · rcases outcome with ⟨name, rfl⟩
        exact unchanged rfl

/-- The sale of a property is opened, closed or bought from, or it is left alone. -/
theorem sale (deed : Deed rules tx s details after payload) (trading : s.Trading)
    (id : PropertyId) : SaleDeed rules tx s details after payload id := by
  have unchanged : after.crowdsales = s.crowdsales →
      SaleDeed rules tx s details after payload id := fun same =>
    .kept (congrArg (CrowdsaleBook.get? · id) same)
      (congrArg (CrowdsaleBook.participationsOf · id) same)
  cases payload with
  | simpleSend property raw =>
      rcases deed with aside | ⟨sale, sold, quote, p, sells⟩
      · exact unchanged aside.crowdsales
      · have book := sells.book
        have found : after.crowdsales.get? id = _ := (congrArg (CrowdsaleBook.get? · id) book).trans
          (s.crowdsales.get?_withSale sale.propertyId id (sale.accounting p quote.reachedCap))
        have listed := congrArg (CrowdsaleBook.participationsOf · id) book
        by_cases here : id = sale.propertyId
        · subst here
          rw [if_pos rfl] at found
          have paid := sells.desired
          subst paid
          exact .bought sale raw sold quote p sells.stored rfl sells found
            (listed.trans (CrowdsaleBook.participationsOf_addParticipation _ _ p))
        · rw [if_neg here] at found
          refine .kept found (listed.trans ?_)
          exact congrArg (Option.getD · []) (SortedMap.get?_insert_of_ne _ _ here)
  | sendToOwners property raw distribution =>
      rcases deed with ⟨sent, fee, _, _, supplied⟩
      exact unchanged supplied.crowdsales
  | sendAll ecosystem => exact unchanged (State.Aside.crowdsales deed)
  | sellOffer property amount desired timeLimit minFee action =>
      exact unchanged (State.Aside.crowdsales deed)
  | acceptOffer property raw => exact unchanged (State.Aside.crowdsales deed)
  | issueFixed issuance raw =>
      rcases deed with ⟨_, _, _, same, _⟩
      exact unchanged same
  | issueManaged issuance =>
      rcases deed with ⟨_, _, _, same, _⟩
      exact unchanged same
  | issueCrowdsale issuance desired rate deadline earlyBonus issuerPercent =>
      rcases deed with ⟨p, sale, _, _, gains, _, _, _, inTime, book⟩
      have found : after.crowdsales.get? id = _ := (congrArg (CrowdsaleBook.get? · id) book).trans
        (s.crowdsales.get?_withSale p.id id sale)
      have listed : after.crowdsales.participationsOf id = s.crowdsales.participationsOf id :=
        (congrArg (CrowdsaleBook.participationsOf · id) book).trans rfl
      by_cases here : id = p.id
      · rw [if_pos here] at found
        exact .opened sale (here ▸ trading.unsold_of_free gains.free) found inTime listed
      · rw [if_neg here] at found
        exact .kept found listed
  | closeCrowdsale property =>
      rcases deed with ⟨sale, stored, own, running, rfl⟩
      have number := trading.keyed stored
      have found := s.crowdsales.get?_withSale sale.propertyId id { sale with
        active := false, closeTxid := some tx.txid, closeBlock := some tx.block }
      subst number
      by_cases here : id = sale.propertyId
      · rw [if_pos here] at found
        subst here
        exact .closed sale stored running rfl own found rfl
      · rw [if_neg here] at found
        exact .kept found rfl
  | grant property raw memo =>
      rcases deed with ⟨_, _, _, _, supplied⟩
      exact unchanged supplied.crowdsales
  | revoke property raw memo =>
      rcases deed with ⟨_, _, _, _, supplied⟩
      exact unchanged supplied.crowdsales
  | deactivate feature =>
      rcases deed with ⟨_, rfl⟩
      exact unchanged rfl
  | activate feature target version =>
      rcases deed with ⟨_, _, outcome⟩
      split at outcome
      · exact unchanged (congrArg State.crowdsales outcome)
      · rcases outcome with ⟨name, rfl⟩
        exact unchanged rfl

/-- Only a control message of the feature touches its entry. -/
theorem feature (deed : Deed rules tx s details after payload) (id : FeatureId) :
    FeatureDeed s after payload id := by
  have unchanged (same : after.features = s.features) (staying : payload ≠ .deactivate id)
      (idle : ∀ target version, payload ≠ .activate id target version) :
      FeatureDeed s after payload id :=
    .kept (congrArg (FeatureTable.get? · id) same) staying idle
  cases payload with
  | simpleSend property raw =>
      rcases deed with aside | ⟨_, _, _, _, sells⟩
      · exact unchanged aside.features nofun nofun
      · exact unchanged sells.features nofun nofun
  | sendToOwners property raw distribution =>
      rcases deed with ⟨_, _, _, _, supplied⟩
      exact unchanged supplied.features nofun nofun
  | sendAll ecosystem => exact unchanged (State.Aside.features deed) nofun nofun
  | sellOffer property amount desired timeLimit minFee action =>
      exact unchanged (State.Aside.features deed) nofun nofun
  | acceptOffer property raw => exact unchanged (State.Aside.features deed) nofun nofun
  | issueFixed issuance raw =>
      rcases deed with ⟨_, _, _, _, gains⟩
      exact unchanged gains.features nofun nofun
  | issueManaged issuance =>
      rcases deed with ⟨_, _, _, _, gains⟩
      exact unchanged gains.features nofun nofun
  | issueCrowdsale issuance desired rate deadline earlyBonus issuerPercent =>
      rcases deed with ⟨_, _, _, _, gains, _⟩
      exact unchanged gains.features nofun nofun
  | closeCrowdsale property =>
      rcases deed with ⟨_, _, _, _, rfl⟩
      exact unchanged rfl nofun nofun
  | grant property raw memo =>
      rcases deed with ⟨_, _, _, _, supplied⟩
      exact unchanged supplied.features nofun nofun
  | revoke property raw memo =>
      rcases deed with ⟨_, _, _, _, supplied⟩
      exact unchanged supplied.features nofun nofun
  | deactivate other =>
      rcases deed with ⟨_, rfl⟩
      have entry := FeatureTable.get?_withFeature s.features other id none
      by_cases here : id = other
      · rw [if_pos here] at entry
        exact .removed (here ▸ rfl) entry
      · rw [if_neg here] at entry
        refine .kept entry (fun same => ?_) nofun
        cases same
        exact here rfl
  | activate other target version =>
      rcases deed with ⟨_, _, outcome⟩
      by_cases here : id = other
      · subst here
        split at outcome
        · next active =>
            exact .alreadyActive target version rfl active
              (congrArg (fun s : State => s.features.get? id) outcome)
        · next inactive =>
            rcases outcome with ⟨name, rfl⟩
            exact .scheduled target version _ rfl (Bool.eq_false_iff.mpr inactive)
              ((FeatureTable.get?_withFeature s.features id id _).trans (if_pos rfl)) rfl rfl rfl
      · have entry : after.features.get? id = s.features.get? id := by
          split at outcome
          · rw [outcome]
          · rcases outcome with ⟨name, rfl⟩
            exact (FeatureTable.get?_withFeature s.features other id _).trans (if_neg here)
        refine .kept entry nofun fun _ _ same => ?_
        cases same
        exact here rfl

end Deed
end Execute
end TokenOverlay
