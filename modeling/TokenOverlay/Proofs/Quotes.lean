import TokenOverlay.Crowdsale.Quote

namespace TokenOverlay
namespace Contribution

/-!
A quote in terms of its shares.  What remains is far below the bound of 128
bits, so whether the sum of the shares is held there does not matter: the quote
is the shares where they fit, and what remains in two parts where they do not.
-/

variable {c : Contribution}

theorem remainingSupply_le (c : Contribution) :
    c.remainingSupply ≤ TokenOverlay.maxTokens.toNat := by
  unfold remainingSupply
  omega

theorem remainingSupply_eq (nonneg : 0 ≤ c.totalTokens)
    (capped : c.totalTokens ≤ TokenOverlay.maxTokens) :
    (c.remainingSupply : Int) = TokenOverlay.maxTokens - c.totalTokens := by
  unfold remainingSupply
  omega

theorem wide_le_remaining_iff {n : Nat} : wide n ≤ c.remainingSupply ↔ n ≤ c.remainingSupply := by
  have bound := remainingSupply_le c
  unfold TokenOverlay.maxTokens at bound
  unfold wide wideMax
  omega

/-! ## Shares that fit -/

theorem quote_of_within (within : c.participantShare + c.issuerShare ≤ c.remainingSupply) :
    c.quote = ⟨c.participantShare, c.issuerShare, false⟩ := by
  have bound := remainingSupply_le c
  have fits : ∀ n : Nat, n ≤ c.remainingSupply → Amount.Fits n := by
    intro n below
    unfold Amount.Fits Amount.least
    unfold TokenOverlay.maxTokens at *
    omega
  rw [quote, if_pos (wide_le_remaining_iff.mpr within),
    Amount.wrap_of_fits (fits _ (Nat.le_of_add_right_le within)),
    Amount.wrap_of_fits (fits _ (Nat.le_of_add_left_le within))]

theorem tokens_of_within (within : c.participantShare + c.issuerShare ≤ c.remainingSupply) :
    c.quote.reachedCap = false ∧ c.quote.participantTokens = c.participantShare ∧
      c.quote.issuerTokens = c.issuerShare := by
  rw [quote_of_within within]
  exact ⟨rfl, rfl, rfl⟩

/-! ## Shares that do not -/

/-- The issuer's part when all that remains is given out. -/
def issuerCut (c : Contribution) : Nat :=
  c.remainingSupply * c.issuerPercent.toNat / (100 + c.issuerPercent.toNat)

theorem cut_le_remaining (c : Contribution) : c.issuerCut ≤ c.remainingSupply := by
  apply Nat.div_le_of_le_mul
  rw [Nat.mul_comm]
  exact Nat.mul_le_mul_right _ (Nat.le_add_left _ _)

theorem quote_of_beyond (beyond : c.remainingSupply < c.participantShare + c.issuerShare) :
    c.quote = ⟨(c.remainingSupply - c.issuerCut : Nat), c.issuerCut, true⟩ :=
  if_neg fun within => Nat.not_le.mpr beyond (wide_le_remaining_iff.mp within)

theorem reachedCap_eq_false_iff :
    c.quote.reachedCap = false ↔ c.participantShare + c.issuerShare ≤ c.remainingSupply := by
  rcases Nat.lt_or_ge c.remainingSupply (c.participantShare + c.issuerShare) with beyond | within
  · rw [quote_of_beyond beyond]
    exact ⟨nofun, fun within => absurd beyond (Nat.not_lt.mpr within)⟩
  · rw [quote_of_within within]
    exact ⟨fun _ => within, fun _ => rfl⟩

/-! ## Bounds -/

/-- A quote stays within the supply ceiling, and reaches it when it says so. -/
theorem quote_bounds (c : Contribution) (nonneg : 0 ≤ c.totalTokens)
    (capped : c.totalTokens ≤ TokenOverlay.maxTokens) :
    0 ≤ c.quote.participantTokens ∧ 0 ≤ c.quote.issuerTokens ∧
      c.totalTokens + (c.quote.participantTokens + c.quote.issuerTokens) ≤
        TokenOverlay.maxTokens ∧
      (c.quote.reachedCap = true →
        c.totalTokens + (c.quote.participantTokens + c.quote.issuerTokens) =
          TokenOverlay.maxTokens) := by
  have remaining := remainingSupply_eq nonneg capped
  rcases Nat.lt_or_ge c.remainingSupply (c.participantShare + c.issuerShare) with beyond | within
  · have part := cut_le_remaining c
    rw [quote_of_beyond beyond]
    dsimp only
    omega
  · rw [quote_of_within within]
    dsimp only
    exact ⟨Int.natCast_nonneg _, Int.natCast_nonneg _, by omega, nofun⟩

/-- A quote is cut back exactly when the contribution would pass the supply ceiling. -/
theorem reachedCap_iff (c : Contribution) (nonneg : 0 ≤ c.totalTokens)
    (capped : c.totalTokens ≤ TokenOverlay.maxTokens) :
    c.quote.reachedCap = true ↔
      TokenOverlay.maxTokens < c.totalTokens + c.participantShare + c.issuerShare := by
  have remaining := remainingSupply_eq nonneg capped
  rw [← Bool.not_eq_false, reachedCap_eq_false_iff]
  omega

end Contribution
end TokenOverlay
