import TokenOverlay.Amount

namespace TokenOverlay

/-!
How many tokens a contribution to a crowdsale is worth.  Products are taken in
128 unsigned bits and are held at the largest such number when they outgrow
it; every quotient is rounded down.
-/

/-- A contribution and the terms of the sale that receives it. -/
structure Contribution where
  amountPaid : Int
  desiredDivisible : Bool
  tokensPerUnit : Int
  earlyBonus : UInt8
  issuerPercent : UInt8
  deadline : Int
  blockTime : Int
  /-- Seconds over which one full bonus is earned. -/
  bonusPeriod : Int
  /-- Tokens of the sold property that exist already. -/
  totalTokens : Int
deriving DecidableEq, Repr

/-- Tokens created by a contribution, and whether they were cut back at the supply ceiling. -/
structure Quote where
  participantTokens : Int
  issuerTokens : Int
  reachedCap : Bool
deriving DecidableEq, Repr

namespace Contribution

/-- The largest number of 128 unsigned bits. -/
def wideMax : Nat := 340282366920938463463374607431768211455

def wide (n : Nat) : Nat := min n wideMax

/-- Fixed-point scale of the bonus percentage. -/
def bonusScale : Nat := 1000000000000

/-- One hundred percent at the scale of the bonus. -/
def hundred : Nat := 100 * bonusScale

/-- Tokens before any bonus. -/
def base (c : Contribution) : Nat :=
  wide (c.amountPaid.toNat * c.tokensPerUnit.toNat) / if c.desiredDivisible then coin.toNat else 1

/-- Seconds to the deadline.  Both times are numbers of 64 signed bits and so is their difference,
which is then read as 128 unsigned bits. -/
def timeLeft (c : Contribution) : Nat :=
  (Amount.wrap (Amount.saturate c.deadline - Amount.saturate c.blockTime) % (wideMax + 1)).toNat

/-- The bonus percentage at its scale: it falls to zero toward the deadline. -/
def bonus (c : Contribution) : Nat :=
  if c.blockTime < c.deadline ∧ 0 < c.bonusPeriod then
    wide (wide (c.earlyBonus.toNat * c.timeLeft) * bonusScale) / c.bonusPeriod.toNat
  else 0

def participantShare (c : Contribution) : Nat :=
  let product := c.base * wide (hundred + c.bonus)
  if product ≤ wideMax then product / hundred else wideMax

def issuerShare (c : Contribution) : Nat :=
  wide (c.participantShare * c.issuerPercent.toNat) / 100

/-- Tokens that may still be created. -/
def remainingSupply (c : Contribution) : Nat :=
  (maxTokens - max 0 (min maxTokens c.totalTokens)).toNat

/-- What a contribution creates.  When it would pass the supply ceiling, the rest of the supply
is split in the ratio of one hundred to the issuer's percentage, and what the division leaves
over goes to the participant. -/
def quote (c : Contribution) : Quote :=
  if wide (c.participantShare + c.issuerShare) ≤ c.remainingSupply then
    ⟨Amount.wrap c.participantShare, Amount.wrap c.issuerShare, false⟩
  else
    let percent := c.issuerPercent.toNat
    let issuer := c.remainingSupply * percent / (100 + percent)
    ⟨(c.remainingSupply - issuer : Nat), issuer, true⟩

end Contribution
end TokenOverlay
