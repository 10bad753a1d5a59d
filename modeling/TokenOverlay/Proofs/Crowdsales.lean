import TokenOverlay.Proofs.Verdicts

namespace TokenOverlay

/-!
The books of the crowdsales balance in every state that an engine passes
through: whatever is issued, bought, closed, expired, rejected or rolled back,
a sale agrees with the supply of the property it sells and with its
contributions.
-/

namespace Engine

/-- Every engine starts without sales, and no accepted message puts them out of order. -/
def trading (rules : Rules) : Law rules where
  holds := State.Trading
  genesis := genesisState_trading rules.config
  prelude := fun block _ _ orderly => prelude_trading orderly block
  message := fun tx m _ sound orderly =>
    Attempt.Yields.mono (Execute.message_decided rules tx sound orderly m)
      (fun _ _ outcome => outcome.2) fun _ _ _ => trivial
  forget := fun _ _ orderly => orderly.of_same rfl rfl

end Engine

namespace State.Reached

variable {rules : Rules} {s : State}

theorem trading (reached : s.Reached rules) : s.Trading :=
  ((Engine.trading rules).of_reached reached).2

/-- Every stored sale sells a property registered for it, for a registered property of the same
ecosystem, and agrees with the supply of what it sells and with its contributions.  No issuer
runs two sales, and no contributions are kept without a sale. -/
theorem sales_balance (reached : s.Reached rules) :
    (∀ id sale, s.crowdsales.get? id = some sale → ∃ sold desired,
      sale.propertyId = id ∧ s.registry.get? id = some sold ∧
        s.registry.get? sale.desiredProperty = some desired ∧
        desired.ecosystem = sold.ecosystem ∧
        sale.Agrees sold (s.crowdsales.participationsOf id)) ∧
    (∀ id other sale rival, s.crowdsales.get? id = some sale →
      s.crowdsales.get? other = some rival → sale.active = true → rival.active = true →
        sale.issuer = rival.issuer → id = other) ∧
    ∀ id, s.crowdsales.participations.get? id ≠ none → s.crowdsales.get? id ≠ none := by
  have orderly := reached.trading
  refine ⟨fun id sale stored => ?_, orderly.single, fun id kept missing => ?_⟩
  · rcases orderly.sales id sale stored with ⟨sold, registered, keyed, payable, agrees⟩
    rcases Option.map_eq_some_iff.mp payable with ⟨desired, found, same⟩
    exact ⟨sold, desired, keyed, registered, found, same, agrees⟩
  · exact kept (orderly.contributed id missing)

/-- A block in which one owner opens a sale and the other one takes part in it. -/
def selling : Block :=
  ⟨0, "x", "", 0, [
    ⟨"t", "a", none, Message.encode (Payload.issueCrowdsale ⟨1, 1, 0, ⟨"", "", "n", "", ""⟩⟩ 1
      100000000 10 0 50).toMessage⟩,
    ⟨"u", "b", some "a", Message.encode (Payload.simpleSend 1 2).toMessage⟩]⟩

theorem sales_balance_selling :
    ((Session.run Session.twoOwners [.apply selling]).engine.state).Reached Session.twoOwners ∧
    ∃ sale sold, (Session.run Session.twoOwners [.apply selling]).engine.state.crowdsales.get? 3 =
        some sale ∧ sale.tokensIssued = 2 ∧ sale.issuerTokens = 1 ∧
      (Session.run Session.twoOwners [.apply selling]).engine.state.registry.get? 3 = some sold ∧
      sold.totalTokens = sale.tokensIssued + sale.issuerTokens := by
  have reached : ((Session.run Session.twoOwners [.apply selling]).engine.state).Reached
      Session.twoOwners := .idle [.apply selling]
  have issued : ((Session.run Session.twoOwners [.apply selling]).engine.state.crowdsales.get?
      3).map (fun sale => (sale.tokensIssued, sale.issuerTokens)) = some (2, 1) := by
    decide +kernel
  rcases Option.map_eq_some_iff.mp issued with ⟨sale, stored, amounts⟩
  rcases (sales_balance reached).1 3 sale stored with ⟨sold, _, _, registered, _, _, agrees⟩
  exact ⟨reached, sale, sold, stored, congrArg Prod.fst amounts, congrArg Prod.snd amounts,
    registered, agrees.supply⟩

end State.Reached
end TokenOverlay
