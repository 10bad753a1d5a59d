import Mathlib.Tactic.Linarith
import Mathlib.Tactic.NormNum
import Mathlib.Tactic.Ring
import TokenOverlay.Proofs.Quotes

namespace TokenOverlay
namespace Contribution

/-!
Purchase arithmetic without bounds.  The formula of a quote is stated here once
more over all integers, where no product is held and no number is cut, and the
quote is shown to be what it gives.  The one product that can outgrow its 128
bits belongs to a contribution that passes the supply ceiling by far, and then
the quote does not depend on it.
-/

/-- The numbers are what 64 signed bits can hold, only the deadline and the bonus period may be
negative, and the supply is not above its ceiling. -/
structure Ranged (c : Contribution) : Prop where
  paid : 0 ≤ c.amountPaid ∧ c.amountPaid ≤ TokenOverlay.maxTokens
  rate : 0 ≤ c.tokensPerUnit ∧ c.tokensPerUnit ≤ TokenOverlay.maxTokens
  time : 0 ≤ c.blockTime ∧ c.blockTime ≤ TokenOverlay.maxTokens
  deadline : Amount.Fits c.deadline
  period : Amount.Fits c.bonusPeriod
  total : 0 ≤ c.totalTokens ∧ c.totalTokens ≤ TokenOverlay.maxTokens

/-! ## The formula -/

namespace Unbounded

variable (c : Contribution)

/-- How much of what is paid makes one unit. -/
def unit : Int := if c.desiredDivisible then coin else 1

def base : Int := c.amountPaid * c.tokensPerUnit / unit c

/-- The bonus in percent, times a million millions. -/
def bonus : Int :=
  if c.blockTime < c.deadline ∧ 0 < c.bonusPeriod then
    c.earlyBonus.toNat * (c.deadline - c.blockTime) * 1000000000000 / c.bonusPeriod
  else 0

def participantShare : Int := base c * (100000000000000 + bonus c) / 100000000000000

def issuerShare : Int := participantShare c * c.issuerPercent.toNat / 100

def remainingSupply : Int := TokenOverlay.maxTokens - c.totalTokens

/-- The issuer's part when all that remains is given out. -/
def issuerCut : Int :=
  remainingSupply c * c.issuerPercent.toNat / (100 + c.issuerPercent.toNat)

def quote : Quote :=
  if participantShare c + issuerShare c ≤ remainingSupply c then
    ⟨participantShare c, issuerShare c, false⟩
  else ⟨remainingSupply c - issuerCut c, issuerCut c, true⟩

end Unbounded

/-! ## Products that fit -/

theorem wide_of_le {n : Nat} (small : n ≤ wideMax) : wide n = n := Nat.min_eq_left small

section

variable {c : Contribution} (ranged : c.Ranged)

include ranged

theorem base_eq_unbounded : (c.base : Int) = Unbounded.base c := by
  have paid := ranged.paid
  have rate := ranged.rate
  unfold TokenOverlay.maxTokens at paid rate
  have small : c.amountPaid.toNat * c.tokensPerUnit.toNat ≤
      9223372036854775807 * 9223372036854775807 :=
    Nat.mul_le_mul (by omega) (by omega)
  rw [base, wide_of_le (small.trans (by decide)), Unbounded.base, Unbounded.unit]
  push_cast
  rw [Int.toNat_of_nonneg paid.1, Int.toNat_of_nonneg rate.1]
  split <;> rfl

/-- Before the deadline no second is lost by the widths of the times. -/
theorem timeLeft_of_ranged (early : c.blockTime < c.deadline) :
    (c.timeLeft : Int) = c.deadline - c.blockTime := by
  have time := ranged.time
  have deadline := ranged.deadline
  have deadlineHigh := deadline.2
  unfold TokenOverlay.maxTokens at time deadlineHigh
  have blockFits : Amount.Fits c.blockTime :=
    ⟨Int.le_trans (by decide) time.1, time.2⟩
  have leftFits : Amount.Fits (c.deadline - c.blockTime) := by
    unfold Amount.Fits Amount.least TokenOverlay.maxTokens
    omega
  unfold timeLeft wideMax
  rw [Amount.saturate_of_fits deadline, Amount.saturate_of_fits blockFits,
    Amount.wrap_of_fits leftFits]
  omega

/-- The bonus is exact, and far from 128 bits. -/
theorem bonus_eq_unbounded : (c.bonus : Int) = Unbounded.bonus c ∧
    c.bonus ≤ 255 * 9223372036854775807 * bonusScale := by
  unfold bonus Unbounded.bonus
  split
  · next early =>
      have time := ranged.time
      have deadline := ranged.deadline
      have left := timeLeft_of_ranged ranged early.1
      unfold Amount.Fits TokenOverlay.maxTokens at *
      have percent := c.earlyBonus.toNat_lt
      have small : c.earlyBonus.toNat * c.timeLeft ≤ 255 * 9223372036854775807 :=
        Nat.mul_le_mul (by omega) (by omega)
      have scaled : c.earlyBonus.toNat * c.timeLeft * bonusScale ≤
          255 * 9223372036854775807 * bonusScale :=
        Nat.mul_le_mul_right bonusScale small
      rw [wide_of_le (small.trans (by decide)), wide_of_le (scaled.trans (by decide))]
      refine ⟨?_, (Nat.div_le_self _ _).trans scaled⟩
      push_cast
      rw [left, Int.toNat_of_nonneg (Int.le_of_lt early.2)]
      rfl
  · exact ⟨rfl, Nat.zero_le _⟩

/-- The participant's share is exact and small enough to be multiplied by any percentage, or the
product it is taken from outgrows 128 bits, and then the share is above the supply ceiling. -/
theorem participantShare_cases :
    ((c.participantShare : Int) = Unbounded.participantShare c ∧
        c.participantShare ≤ wideMax / hundred) ∨
      (c.participantShare = wideMax ∧
        TokenOverlay.maxTokens < Unbounded.participantShare c) := by
  rcases bonus_eq_unbounded ranged with ⟨bonus, bounded⟩
  have factor : wide (hundred + c.bonus) = hundred + c.bonus :=
    wide_of_le ((Nat.add_le_add_left bounded hundred).trans (by decide))
  have product : ((c.base * (hundred + c.bonus) : Nat) : Int) =
      Unbounded.base c * (100000000000000 + Unbounded.bonus c) := by
    push_cast
    rw [base_eq_unbounded ranged, bonus]
    rfl
  unfold participantShare Unbounded.participantShare
  rw [factor, ← product]
  dsimp only
  split
  · next fits => exact Or.inl ⟨rfl, Nat.div_le_div_right fits⟩
  · next outgrown =>
      refine Or.inr ⟨rfl, ?_⟩
      unfold wideMax at outgrown
      unfold TokenOverlay.maxTokens
      omega

omit ranged in
/-- A share of the participant that is small enough gives an exact share of the issuer. -/
theorem issuerShare_of_small (same : (c.participantShare : Int) = Unbounded.participantShare c)
    (small : c.participantShare ≤ wideMax / hundred) :
    (c.issuerShare : Int) = Unbounded.issuerShare c := by
  have percent := c.issuerPercent.toNat_lt
  have product : c.participantShare * c.issuerPercent.toNat ≤ wideMax / hundred * 255 :=
    Nat.mul_le_mul small (by omega)
  rw [issuerShare, wide_of_le (product.trans (by decide)), Unbounded.issuerShare, ← same]
  push_cast
  rfl

theorem remainingSupply_eq_unbounded : (c.remainingSupply : Int) = Unbounded.remainingSupply c := by
  rw [Unbounded.remainingSupply, remainingSupply_eq ranged.total.1 ranged.total.2]

theorem unbounded_shares_nonneg :
    0 ≤ Unbounded.participantShare c ∧ 0 ≤ Unbounded.issuerShare c := by
  have base : 0 ≤ Unbounded.base c := by rw [← base_eq_unbounded ranged]; omega
  have bonus : 0 ≤ Unbounded.bonus c := by rw [← (bonus_eq_unbounded ranged).1]; omega
  have participant : 0 ≤ Unbounded.participantShare c :=
    Int.ediv_nonneg (Int.mul_nonneg base (by omega)) (by decide)
  exact ⟨participant, Int.ediv_nonneg (Int.mul_nonneg participant (by omega)) (by decide)⟩

/-! ## The ceiling -/

/-- The bounded sum of the shares is below what remains exactly when the unbounded one is, and
then both shares are exact. -/
theorem shares_fit_iff :
    (wide (c.participantShare + c.issuerShare) ≤ c.remainingSupply ↔
        Unbounded.participantShare c + Unbounded.issuerShare c ≤ Unbounded.remainingSupply c) ∧
      (wide (c.participantShare + c.issuerShare) ≤ c.remainingSupply →
        (c.participantShare : Int) = Unbounded.participantShare c ∧
          (c.issuerShare : Int) = Unbounded.issuerShare c) := by
  have total := ranged.total
  have remaining := remainingSupply_eq_unbounded ranged
  have bound : Unbounded.remainingSupply c ≤ TokenOverlay.maxTokens := by
    unfold Unbounded.remainingSupply
    omega
  unfold wide wideMax
  unfold TokenOverlay.maxTokens at bound
  rcases participantShare_cases ranged with ⟨same, small⟩ | ⟨held, above⟩
  · have issuer := issuerShare_of_small same small
    refine ⟨?_, fun _ => ⟨same, issuer⟩⟩
    omega
  · -- The share was held at the bound of 128 bits: both sums are far above any supply.
    have nonneg := unbounded_shares_nonneg ranged
    unfold wideMax at held
    unfold TokenOverlay.maxTokens at above
    omega

end

/-- What is split pro rata below a sum of two shares is at most each of them. -/
theorem split_le_shares {paid rest percent : Int} (percentNonneg : 0 ≤ percent)
    (beyond : rest < paid + paid * percent / 100) :
    rest * percent / (100 + percent) ≤ paid * percent / 100 ∧
      rest - rest * percent / (100 + percent) ≤ paid := by
  have whole : 0 < 100 + percent := by omega
  have share := Int.mul_ediv_add_emod (paid * percent) 100
  have shareRest := Int.emod_nonneg (paid * percent) (show (100 : Int) ≠ 0 by decide)
  have shareSmall := Int.emod_lt_of_pos (paid * percent) (show (0 : Int) < 100 by decide)
  generalize paid * percent / 100 = issuer at *
  constructor
  · -- `rest < paid + issuer` and `paid * percent < 100 * (issuer + 1)` make the quotient smaller.
    apply Int.lt_add_one_iff.mp
    apply Int.ediv_lt_of_lt_mul whole
    have scaled : rest * percent ≤ (paid + issuer - 1) * percent :=
      Int.mul_le_mul_of_nonneg_right (by omega) percentNonneg
    linarith [scaled]
  · have cut := Int.mul_ediv_add_emod (rest * percent) (100 + percent)
    have cutSmall := Int.emod_lt_of_pos (rest * percent) whole
    generalize rest * percent / (100 + percent) = taken at *
    by_contra above
    -- Then `100 * paid + paid * percent < 100 * rest`, so `rest` is not below the sum.
    have product : (paid + 1) * (100 + percent) ≤ (rest - taken) * (100 + percent) :=
      Int.mul_le_mul_of_nonneg_right (by omega) (Int.le_of_lt whole)
    linarith [product]

/-! ## The quote -/

section

variable {c : Contribution} (ranged : c.Ranged)

include ranged

theorem fits_of_le_remaining {n : Nat} (within : n ≤ c.remainingSupply) : Amount.Fits n := by
  have total := ranged.total
  have remaining := remainingSupply_eq_unbounded ranged
  unfold Unbounded.remainingSupply at remaining
  unfold Amount.Fits Amount.least
  omega

/-- Shares of a quote that is not cut back are amounts, so writing them as such keeps them. -/
theorem shares_fit_of_within
    (within : wide (c.participantShare + c.issuerShare) ≤ c.remainingSupply) :
    Amount.Fits c.participantShare ∧ Amount.Fits c.issuerShare := by
  rcases shares_fit_iff ranged with ⟨bound, same⟩
  have sum := bound.mp within
  have shares := same within
  have remaining := remainingSupply_eq_unbounded ranged
  have nonneg := unbounded_shares_nonneg ranged
  constructor <;> apply fits_of_le_remaining ranged <;> omega

theorem quote_fits :
    Amount.Fits c.quote.participantTokens ∧ Amount.Fits c.quote.issuerTokens := by
  rcases Nat.lt_or_ge c.remainingSupply (c.participantShare + c.issuerShare) with beyond | within
  · rw [quote_of_beyond beyond]
    exact ⟨fits_of_le_remaining ranged (Nat.sub_le _ _),
      fits_of_le_remaining ranged (cut_le_remaining c)⟩
  · rw [quote_of_within within]
    exact shares_fit_of_within ranged (wide_le_remaining_iff.mpr within)

theorem quote_eq_unbounded : c.quote = Unbounded.quote c := by
  rcases shares_fit_iff ranged with ⟨bound, same⟩
  have remaining := remainingSupply_eq_unbounded ranged
  by_cases within : wide (c.participantShare + c.issuerShare) ≤ c.remainingSupply
  · rw [quote_of_within (wide_le_remaining_iff.mp within), Unbounded.quote,
      if_pos (bound.mp within), (same within).1, (same within).2]
  · have cut : (c.issuerCut : Int) = Unbounded.issuerCut c := by
      rw [issuerCut, Unbounded.issuerCut, ← remaining]
      push_cast
      rfl
    have beyond := Nat.not_le.mp fun sum => within (wide_le_remaining_iff.mpr sum)
    rw [quote_of_beyond beyond, Unbounded.quote, if_neg fun sum => within (bound.mpr sum),
      Int.ofNat_sub (cut_le_remaining c), cut, remaining]

end

/-- Purchase arithmetic is exact.  The quote is that of the formula over all integers.  The time
left, the supply left, shares that are not cut back and what is created are amounts, so no cast
changes them.  Never more than the supply left is created, all of it when the quote is cut back,
and then neither part is above its uncut share. -/
theorem quote_exact (c : Contribution) (ranged : c.Ranged) :
    c.quote = Unbounded.quote c ∧
      (c.blockTime < c.deadline → Amount.Fits (c.deadline - c.blockTime)) ∧
      (c.quote.reachedCap = false →
        Amount.Fits c.participantShare ∧ Amount.Fits c.issuerShare) ∧
      Amount.Fits c.remainingSupply ∧
      Amount.Fits c.quote.participantTokens ∧ Amount.Fits c.quote.issuerTokens ∧
      c.quote.participantTokens + c.quote.issuerTokens ≤ Unbounded.remainingSupply c ∧
      (c.quote.reachedCap = true →
        c.quote.participantTokens + c.quote.issuerTokens = Unbounded.remainingSupply c ∧
          c.quote.participantTokens ≤ Unbounded.participantShare c ∧
          c.quote.issuerTokens ≤ Unbounded.issuerShare c) := by
  have formula := quote_eq_unbounded ranged
  rcases quote_fits ranged with ⟨participantFits, issuerFits⟩
  refine ⟨formula, ?_, ?_, fits_of_le_remaining ranged (Nat.le_refl _), participantFits,
    issuerFits, ?_⟩
  · intro early
    have time := ranged.time
    have deadline := ranged.deadline
    unfold Amount.Fits Amount.least at *
    omega
  · intro uncut
    apply shares_fit_of_within ranged
    by_contra beyond
    rw [quote, if_neg beyond] at uncut
    cases uncut
  · rw [formula, Unbounded.quote]
    split
    · next within => exact ⟨within, fun cut => by cases cut⟩
    · next beyond =>
        have beyond : Unbounded.remainingSupply c <
          Unbounded.participantShare c + Unbounded.issuerShare c := Int.not_le.mp beyond
        have parts := split_le_shares (Int.natCast_nonneg c.issuerPercent.toNat) beyond
        have sum : Unbounded.remainingSupply c - Unbounded.issuerCut c + Unbounded.issuerCut c =
          Unbounded.remainingSupply c := Int.sub_add_cancel _ _
        exact ⟨Int.le_of_eq sum, fun _ => ⟨sum, parts.2, parts.1⟩⟩

/-- The largest contribution to a sale that closes at the end of time outgrows 128 bits, and is
cut back to two thirds and one third of the supply. -/
theorem quote_exact_largest :
    let c : Contribution :=
      ⟨TokenOverlay.maxTokens, false, TokenOverlay.maxTokens, 255, 50, TokenOverlay.maxTokens, 0,
        1, 0⟩
    c.Ranged ∧ c.participantShare = wideMax ∧
      c.quote = Unbounded.quote c ∧
      c.quote = ⟨6148914691236517205, 3074457345618258602, true⟩ := by
  intro c
  have ranged : c.Ranged := by constructor <;> decide
  exact ⟨ranged, by decide +kernel, (quote_exact c ranged).1, by decide +kernel⟩

end Contribution
end TokenOverlay
