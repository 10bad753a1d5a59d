import TokenOverlay.Action.Ledger

namespace TokenOverlay

/-!
Issuing properties and changing their supply.  The supply changes together
with a balance, so the registered supply stays the sum of the balances.
-/

/-- What a new property is to be. -/
structure IssueRequest where
  kind : PropertyKind
  ecosystem : Ecosystem
  divisible : Bool
  issuer : Address
  initialAmount : Int
  description : Description
  txid : String
  block : Nat
deriving DecidableEq, Repr

namespace Registry

/-- The registered property of a number. -/
def lookup (id : PropertyId) : Action Property := do
  Action.require (.unknownProperty id) ((← Action.state).registry.get? id)

/-- Create tokens on a balance. -/
def mint (recipient : Address) (id : PropertyId) (amount : Int) : Action Unit := do
  Action.guard (0 < amount) .invalidAmount
  let property ← lookup id
  let total ← Action.require .supplyOverflow (Amount.add? property.totalTokens amount)
  Action.edit (.supply id total)
  Ledger.credit recipient id amount

/-- Destroy tokens of a balance. -/
def burn (holder : Address) (id : PropertyId) (amount : Int) : Action Unit := do
  Action.guard (0 < amount) .invalidAmount
  let property ← lookup id
  Ledger.debit holder id amount
  Action.edit (.supply id (property.totalTokens - amount))

/-- The number after the last one given out, if the ecosystem has numbers left. -/
def followingId (ecosystem : Ecosystem) (id : PropertyId) : Except Rejection PropertyId :=
  if ecosystem = .main ∧ Ecosystem.lastMainId < id then .error .invalidEcosystem
  else if id.toNat + 1 < UInt32.size then .ok (id + 1)
  else .error .supplyOverflow

/-- Register a property under the next number of its ecosystem and credit its first tokens to
the issuer. -/
def issue (request : IssueRequest) : Action PropertyId := do
  Action.guard (0 ≤ request.initialAmount ∧ request.initialAmount ≤ maxTokens) .invalidAmount
  let id := (← Action.state).registry.nextId request.ecosystem
  match followingId request.ecosystem id with
  | .error reason => Action.reject reason
  | .ok next => do
      Action.edit (.register {
        id
        ecosystem := request.ecosystem
        divisible := request.divisible
        issuer := request.issuer
        creationTxid := request.txid
        creationBlock := request.block
        totalTokens := 0
        kind := request.kind
        description := request.description } next)
      if 0 < request.initialAmount then mint request.issuer id request.initialAmount
      return id

/-- Only the issuer of a managed property may change its supply. -/
def checkManager (sender : Address) (id : PropertyId) : Action Unit := do
  let property ← lookup id
  Action.guard (property.isManaged = true) .notManaged
  Action.guard (property.issuer = sender) .notIssuer

/-- Create tokens of a managed property. -/
def grant (sender : Address) (id : PropertyId) (amount : Int) (recipient : Address) :
    Action Unit := do
  checkManager sender id
  mint recipient id amount

/-- Destroy tokens of a managed property that its issuer holds. -/
def revoke (sender : Address) (id : PropertyId) (amount : Int) : Action Unit := do
  checkManager sender id
  burn sender id amount

end Registry
end TokenOverlay
