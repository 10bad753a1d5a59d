import TokenOverlay.State.Journal
import TokenOverlay.Crowdsale.Quote

namespace TokenOverlay
namespace CrowdsaleBook

/-!
The life of a crowdsale: it is opened once, takes contributions while it is
active, and is closed by its issuer, by its deadline or at the supply ceiling.
-/

/-- Open a sale; an issuer runs one at a time. -/
def create (sale : Crowdsale) : Action Unit := do
  Action.guard (((← Action.state).crowdsales.activeOf? sale.issuer).isNone = true)
    .activeCrowdsaleExists
  Action.edit (.sale sale)

/-- Close a sale for its issuer. -/
def close (sender : Address) (property : PropertyId) (txid : String) (block : Nat) :
    Action Unit := do
  let sale ← Action.require .notCrowdsale ((← Action.state).crowdsales.get? property)
  Action.guard (sale.issuer = sender) .notIssuer
  Action.guard (sale.active = true) .crowdsaleNotActive
  Action.edit (.sale { sale with
    active := false
    closeTxid := some txid
    closeBlock := some block })

/-- A sale after a contribution at the supply ceiling. -/
def closedAtCap (sale : Crowdsale) (p : Participation) : Crowdsale :=
  { sale with
    active := false
    closedEarly := true
    maxTokens := true
    closeTxid := some p.txid
    closeBlock := some p.block }

/-- Account for a contribution, and close the sale if it hit the supply ceiling. -/
def recordPurchase (property : PropertyId) (quote : Quote) (p : Participation) : Action Unit := do
  let sale ← Action.require .notCrowdsale ((← Action.state).crowdsales.get? property)
  let issued ← Action.require .supplyOverflow
    (Amount.add? sale.tokensIssued quote.participantTokens)
  let issuer ← Action.require .supplyOverflow (Amount.add? sale.issuerTokens quote.issuerTokens)
  let counted := { sale with tokensIssued := issued, issuerTokens := issuer }
  Action.edit (.sale (if quote.reachedCap then closedAtCap counted p else counted))
  Action.edit (.participation property p)

/-- Close one sale whose time is over. -/
def expireOne (block : Nat) (property : PropertyId) : Action Unit := do
  match (← Action.state).crowdsales.get? property with
  | some sale => Action.edit (.sale { sale with active := false, closeBlock := some block })
  | none => return ()

/-- Close every active sale whose deadline lies before a time, and answer which those are. -/
def expire (time : Int) (block : Nat) : Action (List PropertyId) := do
  let overdue := ((← Action.state).crowdsales.active.filter fun sale => sale.deadline < time).map
    Crowdsale.propertyId
  overdue.forM (expireOne block)
  return overdue

end CrowdsaleBook
end TokenOverlay
