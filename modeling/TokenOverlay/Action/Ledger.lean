import TokenOverlay.State.Journal

namespace TokenOverlay
namespace Ledger

/-!
Moving tokens.  Nothing can be spent that is not available, nothing released
that is not reserved, and no amount leaves its range.
-/

/-- Store a balance, unless it is the one that is there. -/
def set (address : Address) (property : PropertyId) (next : Balance) : Action Unit := do
  let s ← Action.state
  if s.ledger.balance address property = next then return ()
  Action.edit (.balance address property next)

/-- Add to what an address can spend. -/
def credit (address : Address) (property : PropertyId) (amount : Int) : Action Unit := do
  let current := (← Action.state).ledger.balance address property
  let available ← Action.require .supplyOverflow (Amount.add? current.available amount)
  set address property { current with available }

/-- Take from what an address can spend. -/
def debit (address : Address) (property : PropertyId) (amount : Int) : Action Unit := do
  let current := (← Action.state).ledger.balance address property
  Action.guard (amount ≤ current.available) .insufficientBalance
  set address property { current with available := current.available - amount }

/-- Put spendable tokens behind an offer. -/
def reserve (address : Address) (property : PropertyId) (amount : Int) : Action Unit := do
  let current := (← Action.state).ledger.balance address property
  Action.guard (amount ≤ current.available) .insufficientBalance
  let reserved ← Action.require .supplyOverflow (Amount.add? current.reserved amount)
  set address property { available := current.available - amount, reserved }

/-- Give reserved tokens back to their owner. -/
def unreserve (address : Address) (property : PropertyId) (amount : Int) : Action Unit := do
  let current := (← Action.state).ledger.balance address property
  Action.guard (amount ≤ current.reserved) .insufficientBalance
  let available ← Action.require .supplyOverflow (Amount.add? current.available amount)
  set address property { available, reserved := current.reserved - amount }

/-- Hand reserved tokens to someone else. -/
def transferReserved (source target : Address) (property : PropertyId) (amount : Int) :
    Action Unit := do
  let current := (← Action.state).ledger.balance source property
  Action.guard (amount ≤ current.reserved) .insufficientBalance
  set source property { current with reserved := current.reserved - amount }
  credit target property amount

end Ledger
end TokenOverlay
