import TokenOverlay.Proofs.Purchases

namespace TokenOverlay
namespace Contribution

/-!
Comparing contributions.  Each step of a quote rounds down, so that more paid,
a better rate, a larger bonus or an earlier block never brings less, and the
supply ceiling does not disturb the order: what it leaves of a larger
contribution is still worth a smaller one that fits below it.  For the same
reason nothing is gained by paying in two parts.
-/

variable {c : Contribution}

/-! ## Better terms -/

/-- No less is paid at no lower rate, the bonus is no smaller and the block no later, and all else
is the same. -/
structure Outdoes (more less : Contribution) : Prop where
  paid : less.amountPaid ≤ more.amountPaid
  rate : less.tokensPerUnit ≤ more.tokensPerUnit
  bonus : less.earlyBonus ≤ more.earlyBonus
  time : more.blockTime ≤ less.blockTime
  divisible : more.desiredDivisible = less.desiredDivisible
  percent : more.issuerPercent = less.issuerPercent
  deadline : more.deadline = less.deadline
  period : more.bonusPeriod = less.bonusPeriod
  total : more.totalTokens = less.totalTokens

theorem wide_mono {m n : Nat} (le : m ≤ n) : wide m ≤ wide n := min_le_min_right wideMax le

/-- A share grows with the tokens before the bonus and with the bonus. -/
theorem participantShare_mono {less more : Contribution} (base : less.base ≤ more.base)
    (bonus : less.bonus ≤ more.bonus) : less.participantShare ≤ more.participantShare := by
  have products : less.base * wide (hundred + less.bonus) ≤
      more.base * wide (hundred + more.bonus) :=
    Nat.mul_le_mul base (wide_mono (Nat.add_le_add_left bonus hundred))
  unfold participantShare
  dsimp only
  split
  · next fits =>
      split
      · exact Nat.div_le_div_right products
      · exact (Nat.div_le_self _ _).trans fits
  · next outgrown =>
      rw [if_neg fun fits => outgrown (products.trans fits)]

/-- Read without a sign, a wrapped number of 64 bits keeps its place in the order: those that
change sign are the largest. -/
theorem wrap_emod_mono {m n : Int} (nonneg : 0 ≤ m) (le : m ≤ n) (small : n < UInt64.size) :
    (Amount.wrap m % (wideMax + 1)).toNat ≤ (Amount.wrap n % (wideMax + 1)).toNat := by
  unfold UInt64.size at small
  unfold Amount.wrap Int.bmod UInt64.size wideMax
  rw [Int.emod_eq_of_lt nonneg (by omega), Int.emod_eq_of_lt (by omega) small]
  dsimp only
  split <;> split <;> omega

namespace Outdoes

variable {less more : Contribution} (outdoes : more.Outdoes less)

include outdoes

theorem base : less.base ≤ more.base := by
  have product : less.amountPaid.toNat * less.tokensPerUnit.toNat ≤
      more.amountPaid.toNat * more.tokensPerUnit.toNat :=
    Nat.mul_le_mul (Int.toNat_le_toNat outdoes.paid) (Int.toNat_le_toNat outdoes.rate)
  unfold Contribution.base
  rw [outdoes.divisible]
  exact Nat.div_le_div_right (wide_mono product)

/-- In an earlier block no less time is left. -/
theorem timeLeft_le (early : less.blockTime < less.deadline) : less.timeLeft ≤ more.timeLeft := by
  have time := outdoes.time
  unfold timeLeft
  rw [outdoes.deadline]
  unfold Amount.saturate Amount.least TokenOverlay.maxTokens
  apply wrap_emod_mono
  · omega
  · omega
  · unfold UInt64.size
    omega

/-- Whoever is early enough for a bonus still is so in an earlier block. -/
theorem bonus_le : less.bonus ≤ more.bonus := by
  unfold Contribution.bonus
  rw [outdoes.deadline, outdoes.period]
  split
  · next early =>
      have left := outdoes.timeLeft_le (outdoes.deadline ▸ early.1)
      have weighed : less.earlyBonus.toNat * less.timeLeft ≤
          more.earlyBonus.toNat * more.timeLeft :=
        Nat.mul_le_mul (UInt8.le_iff_toNat_le.mp outdoes.bonus) left
      rw [if_pos ⟨outdoes.time.trans_lt early.1, early.2⟩]
      exact Nat.div_le_div_right (wide_mono (Nat.mul_le_mul_right bonusScale (wide_mono weighed)))
  · exact Nat.zero_le _

theorem participantShare : less.participantShare ≤ more.participantShare :=
  participantShare_mono outdoes.base outdoes.bonus_le

theorem issuerShare : less.issuerShare ≤ more.issuerShare := by
  unfold Contribution.issuerShare
  rw [outdoes.percent]
  exact Nat.div_le_div_right
    (wide_mono (Nat.mul_le_mul_right less.issuerPercent.toNat outdoes.participantShare))

theorem remainingSupply : more.remainingSupply = less.remainingSupply := by
  unfold Contribution.remainingSupply
  rw [outdoes.total]

theorem issuerCut : more.issuerCut = less.issuerCut := by
  unfold Contribution.issuerCut
  rw [outdoes.remainingSupply, outdoes.percent]

end Outdoes

/-! ## Across the ceiling -/

/-- Two shares that fit into what remains are no more than the parts it is split into. -/
theorem shares_le_split {paid rest percent : Nat}
    (within : paid + paid * percent / 100 ≤ rest) :
    paid * percent / 100 ≤ rest * percent / (100 + percent) ∧
      rest * percent / (100 + percent) ≤ rest - paid := by
  have whole : 0 < 100 + percent := by omega
  have share := Nat.div_mul_le_self (paid * percent) 100
  have shareBelow := Nat.lt_mul_div_succ (paid * percent) (show 0 < 100 by decide)
  generalize paid * percent / 100 = issuer at *
  have scaled : (paid + issuer) * percent ≤ rest * percent := Nat.mul_le_mul_right percent within
  constructor
  · rw [Nat.le_div_iff_mul_le whole]
    linarith
  · -- `100 * issuer` is short of `paid * percent` by less than one hundred.
    rcases Nat.exists_eq_add_of_le (Nat.le_of_add_right_le within) with ⟨beside, rfl⟩
    rw [Nat.add_sub_cancel_left, ← Nat.lt_succ_iff, Nat.div_lt_iff_lt_mul whole]
    have covered : issuer ≤ beside := Nat.le_of_add_le_add_left within
    rw [Nat.succ_mul, Nat.mul_add, Nat.add_mul]
    omega

/-- A share of the participant that may be created is multiplied exactly. -/
theorem issuerShare_of_le (small : c.participantShare ≤ c.remainingSupply) :
    c.issuerShare = c.participantShare * c.issuerPercent.toNat / 100 := by
  have bound := small.trans (remainingSupply_le c)
  have percent := c.issuerPercent.toNat_lt
  have product : c.participantShare * c.issuerPercent.toNat ≤
      TokenOverlay.maxTokens.toNat * 255 :=
    Nat.mul_le_mul bound (by omega)
  rw [issuerShare, wide_of_le (product.trans (by decide))]

theorem quote_mono {less more : Contribution} (outdoes : more.Outdoes less) :
    less.quote.participantTokens ≤ more.quote.participantTokens ∧
      less.quote.issuerTokens ≤ more.quote.issuerTokens := by
  have participant := outdoes.participantShare
  have issuer := outdoes.issuerShare
  have rest := outdoes.remainingSupply
  rcases Nat.lt_or_ge more.remainingSupply (more.participantShare + more.issuerShare) with
    beyond | within
  · rw [quote_of_beyond beyond, outdoes.remainingSupply, outdoes.issuerCut]
    rcases Nat.lt_or_ge less.remainingSupply (less.participantShare + less.issuerShare) with
      short | fits
    · rw [quote_of_beyond short]
      exact ⟨le_rfl, le_rfl⟩
    · have small := issuerShare_of_le (Nat.le_of_add_right_le fits)
      rw [quote_of_within fits]
      rw [small] at fits ⊢
      have parts := shares_le_split fits
      have paid := Nat.le_of_add_right_le fits
      change _ ≤ less.issuerCut ∧ less.issuerCut ≤ _ at parts
      dsimp only
      omega
  · have fits : less.participantShare + less.issuerShare ≤ less.remainingSupply := by omega
    rw [quote_of_within fits, quote_of_within within]
    exact ⟨Int.ofNat_le.mpr participant, Int.ofNat_le.mpr issuer⟩

/-! ## Paying in two parts -/

/-- The same contribution with another amount paid. -/
def paying (c : Contribution) (amount : Int) : Contribution := { c with amountPaid := amount }

/-- The same contribution once an earlier one has created its tokens. -/
def behind (c : Contribution) (earlier : Quote) : Contribution :=
  { c with totalTokens := c.totalTokens + earlier.participantTokens + earlier.issuerTokens }

/-- A share that may be created comes from a product that is not held. -/
theorem participantShare_of_le (small : c.participantShare ≤ c.remainingSupply) :
    c.base * wide (hundred + c.bonus) ≤ wideMax ∧
      c.participantShare = c.base * wide (hundred + c.bonus) / hundred := by
  have bound := remainingSupply_le c
  unfold participantShare at small ⊢
  dsimp only at small ⊢
  split at small
  · next fits => exact ⟨fits, if_pos fits⟩
  · unfold wideMax at small
    unfold TokenOverlay.maxTokens at bound
    omega

/-- Not less is created than without a bonus. -/
theorem base_le_participantShare (small : c.participantShare ≤ c.remainingSupply) :
    c.base ≤ c.participantShare := by
  have scale : hundred ≤ wide (hundred + c.bonus) :=
    le_min (Nat.le_add_right _ _) (by decide)
  rw [(participantShare_of_le small).2, Nat.le_div_iff_mul_le (by decide)]
  exact Nat.mul_le_mul_left c.base scale

/-- A share that may be created is paid for by an amount whose tokens are counted exactly. -/
theorem product_of_le (small : c.participantShare ≤ c.remainingSupply) :
    c.amountPaid.toNat * c.tokensPerUnit.toNat ≤ wideMax := by
  have base := (base_le_participantShare small).trans (small.trans (remainingSupply_le c))
  by_contra outgrown
  rw [Contribution.base, wide, Nat.min_eq_right (Nat.le_of_not_le outgrown)] at base
  revert base
  split <;> decide

theorem outdoes_paying {less more : Int} (le : less ≤ more) :
    (c.paying more).Outdoes (c.paying less) where
  paid := le
  rate := le_rfl
  bonus := UInt8.le_refl _
  time := le_rfl
  divisible := rfl
  percent := rfl
  deadline := rfl
  period := rfl
  total := rfl

section

variable {first second : Int} (firstNonneg : 0 ≤ first) (secondNonneg : 0 ≤ second)
  (small : (c.paying (first + second)).participantShare ≤ c.remainingSupply)

include firstNonneg secondNonneg small

theorem base_add_le :
    (c.paying first).base + (c.paying second).base ≤ (c.paying (first + second)).base := by
  have product : (first + second).toNat * c.tokensPerUnit.toNat =
      first.toNat * c.tokensPerUnit.toNat + second.toNat * c.tokensPerUnit.toNat := by
    rw [Int.toNat_add firstNonneg secondNonneg, Nat.add_mul]
  have exact : wide ((first + second).toNat * c.tokensPerUnit.toNat) =
      (first + second).toNat * c.tokensPerUnit.toNat :=
    wide_of_le (product_of_le small)
  unfold Contribution.base paying
  dsimp only
  refine Nat.div_add_div_le_add_div.trans (Nat.div_le_div_right ?_)
  rw [exact, product]
  exact Nat.add_le_add (Nat.min_le_left _ _) (Nat.min_le_left _ _)

/-- Both parts are small enough if the whole is. -/
theorem parts_le : (c.paying first).participantShare ≤ c.remainingSupply ∧
    (c.paying second).participantShare ≤ c.remainingSupply := by
  have one : first ≤ first + second := by omega
  have other : second ≤ first + second := by omega
  exact ⟨(outdoes_paying one).participantShare.trans small,
    (outdoes_paying other).participantShare.trans small⟩

theorem participantShare_add_le :
    (c.paying first).participantShare + (c.paying second).participantShare ≤
      (c.paying (first + second)).participantShare := by
  have bases := base_add_le firstNonneg secondNonneg small
  rcases parts_le firstNonneg secondNonneg small with ⟨one, other⟩
  rw [(participantShare_of_le one).2, (participantShare_of_le other).2,
    (participantShare_of_le small).2]
  refine Nat.div_add_div_le_add_div.trans (Nat.div_le_div_right ?_)
  change _ * wide (hundred + c.bonus) + _ * wide (hundred + c.bonus) ≤ _
  rw [← Nat.add_mul]
  exact Nat.mul_le_mul_right _ bases

theorem issuerShare_add_le :
    (c.paying first).issuerShare + (c.paying second).issuerShare ≤
      (c.paying (first + second)).issuerShare := by
  have shares := participantShare_add_le firstNonneg secondNonneg small
  rcases parts_le firstNonneg secondNonneg small with ⟨one, other⟩
  rw [issuerShare_of_le one, issuerShare_of_le other, issuerShare_of_le small]
  refine Nat.div_add_div_le_add_div.trans (Nat.div_le_div_right ?_)
  change _ * c.issuerPercent.toNat + _ * c.issuerPercent.toNat ≤ _
  rw [← Nat.add_mul]
  exact Nat.mul_le_mul_right _ shares

end

/-- What an earlier quote created is missing from what remains, and no more than that. -/
theorem remainingSupply_behind (c : Contribution) {earlier : Quote} {participant issuer : Nat}
    (created : earlier.participantTokens = participant ∧ earlier.issuerTokens = issuer) :
    c.remainingSupply ≤ (c.behind earlier).remainingSupply + (participant + issuer) := by
  unfold remainingSupply behind
  dsimp only
  omega

/-- More paid, a higher rate, a larger bonus or an earlier block never bring less to either side,
wherever the supply ceiling lies.  Where an amount does not hit the ceiling, its two parts paid one
after the other do not either, and bring no more to either side. -/
theorem quote_mono_and_split_le (c : Contribution) :
    (∀ more : Contribution, more.Outdoes c →
      c.quote.participantTokens ≤ more.quote.participantTokens ∧
        c.quote.issuerTokens ≤ more.quote.issuerTokens) ∧
    ∀ first second : Int, 0 ≤ first → 0 ≤ second →
      let whole := (c.paying (first + second)).quote
      let before := (c.paying first).quote
      let after := ((c.paying second).behind before).quote
      whole.reachedCap = false →
        before.reachedCap = false ∧ after.reachedCap = false ∧
        before.participantTokens + after.participantTokens ≤ whole.participantTokens ∧
        before.issuerTokens + after.issuerTokens ≤ whole.issuerTokens := by
  refine ⟨fun more outdoes => quote_mono outdoes, ?_⟩
  intro first second firstNonneg secondNonneg whole before after uncapped
  have within := reachedCap_eq_false_iff.mp uncapped
  have small := Nat.le_of_add_right_le within
  have participants := participantShare_add_le firstNonneg secondNonneg small
  have issuers := issuerShare_add_le firstNonneg secondNonneg small
  change _ ≤ c.remainingSupply at within
  have one : (c.paying first).participantShare + (c.paying first).issuerShare ≤
      (c.paying first).remainingSupply := by
    change _ ≤ c.remainingSupply
    omega
  have created := tokens_of_within one
  have rest : c.remainingSupply ≤ ((c.paying second).behind before).remainingSupply + _ :=
    remainingSupply_behind (c.paying second) created.2
  have other : ((c.paying second).behind before).participantShare +
      ((c.paying second).behind before).issuerShare ≤
        ((c.paying second).behind before).remainingSupply := by
    change (c.paying second).participantShare + (c.paying second).issuerShare ≤ _
    omega
  have later : after.reachedCap = false ∧ after.participantTokens =
      (c.paying second).participantShare ∧ after.issuerTokens = (c.paying second).issuerShare :=
    tokens_of_within other
  have all : _ ∧ whole.participantTokens = _ ∧ whole.issuerTokens = _ := tokens_of_within within
  refine ⟨created.1, later.1, ?_, ?_⟩
  · rw [created.2.1, later.2.1, all.2.1]
    exact_mod_cast participants
  · rw [created.2.2, later.2.2, all.2.2]
    exact_mod_cast issuers

/-- A contribution to a sale with sixty tokens left. -/
def latecomer : Contribution :=
  ⟨150000000, true, 7, 30, 50, 1000000, 10, 604800, 9223372036854775747⟩

/-- Two payments lose a half token each, and a larger one is cut back. -/
theorem quote_mono_and_split_le_latecomer :
    (latecomer.paying 400000000).Outdoes latecomer ∧
    latecomer.quote = ⟨14, 7, false⟩ ∧
    (latecomer.paying 400000000).quote = ⟨40, 20, true⟩ ∧
    latecomer.quote.participantTokens ≤ (latecomer.paying 400000000).quote.participantTokens ∧
    (0 : Int) ≤ 150000000 ∧
    (latecomer.paying (150000000 + 150000000)).quote = ⟨31, 15, false⟩ ∧
    (((latecomer.paying 150000000).behind (latecomer.paying 150000000).quote).quote.reachedCap =
      false) ∧
    (latecomer.paying 150000000).quote.participantTokens +
        ((latecomer.paying 150000000).behind
          (latecomer.paying 150000000).quote).quote.participantTokens ≤
      (latecomer.paying (150000000 + 150000000)).quote.participantTokens := by
  have better : (latecomer.paying 400000000).Outdoes latecomer := by constructor <;> decide
  have nonneg : (0 : Int) ≤ 150000000 := by decide
  have whole : (latecomer.paying (150000000 + 150000000)).quote = ⟨31, 15, false⟩ := by
    decide +kernel
  have compared := quote_mono_and_split_le latecomer
  have parts := compared.2 150000000 150000000 nonneg nonneg (congrArg Quote.reachedCap whole)
  exact ⟨better, by decide +kernel, by decide +kernel, (compared.1 _ better).1, nonneg, whole,
    parts.2.1, parts.2.2.1⟩

end Contribution
end TokenOverlay
