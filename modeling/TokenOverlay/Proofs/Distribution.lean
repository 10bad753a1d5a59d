import Mathlib.Tactic.Linarith
import TokenOverlay.Proofs.SortedMap
import TokenOverlay.Distribution

namespace TokenOverlay
namespace Distribution

/-!
A distribution hands out exactly its amount.  The rounded shares fall short of
the amount by no more than one unit for each owner, so handing the rest out one
unit at a time ends before the owners do.
-/

/-- The share of an owner before the rest is handed out. -/
def share (amount whole balance : Int) : Int := amount * balance / whole

theorem share_nonneg {amount whole balance : Int} (amountNonneg : 0 ≤ amount) (wholePos : 0 < whole)
    (balanceNonneg : 0 ≤ balance) : 0 ≤ share amount whole balance :=
  Int.ediv_nonneg (Int.mul_nonneg amountNonneg balanceNonneg) (Int.le_of_lt wholePos)

/-- Rounded shares stay below their exact sum, and miss it by less than one unit each. -/
theorem total_shares_bounds (amount : Int) {whole : Int} (wholePos : 0 < whole)
    (balances : List Int) :
    whole * Amount.total (balances.map (share amount whole)) ≤ amount * Amount.total balances ∧
    amount * Amount.total balances ≤
      whole * Amount.total (balances.map (share amount whole)) + whole * balances.length := by
  induction balances with
  | nil => simp
  | cons balance rest ih =>
      have division := Int.mul_ediv_add_emod (amount * balance) whole
      have remainderNonneg := Int.emod_nonneg (amount * balance) (Int.ne_of_gt wholePos)
      have remainderSmall := Int.emod_lt_of_pos (amount * balance) wholePos
      simp only [List.map_cons, Amount.total_cons, List.length_cons, Int.mul_add, share,
        Int.natCast_add, Int.natCast_one, Int.mul_one] at ih ⊢
      constructor
      · linarith [ih.1]
      · linarith [ih.2]

variable {owners : List Owner} {amount : Int}

theorem balance_le_totalBalance (positive : ∀ owner ∈ owners, 0 < owner.2) {owner : Owner}
    (member : owner ∈ owners) : owner.2 ≤ totalBalance owners := by
  apply Amount.le_total
  · intro n inside
    rcases List.mem_map.mp inside with ⟨other, otherMember, rfl⟩
    exact Int.le_of_lt (positive other otherMember)
  · exact List.mem_map_of_mem member

/-- No share leaves the range of amounts, so none is cut. -/
theorem floors_eq_shares (positive : ∀ owner ∈ owners, 0 < owner.2)
    (amountNonneg : 0 ≤ amount) (amountFits : amount ≤ maxTokens) :
    floors owners amount =
      (owners.map Prod.snd).map (share amount (totalBalance owners)) := by
  rw [floors, List.map_map]
  apply List.map_congr_left
  intro owner member
  have balancePos := positive owner member
  have bounded := balance_le_totalBalance positive member
  have product : 0 ≤ amount * owner.2 := Int.mul_nonneg amountNonneg (Int.le_of_lt balancePos)
  have quotient : (amount * owner.2).tdiv (totalBalance owners) =
      share amount (totalBalance owners) owner.2 := Int.tdiv_eq_ediv_of_nonneg product
  rw [quotient]
  apply Amount.wrap_of_fits
  have lower := share_nonneg amountNonneg (by omega : 0 < totalBalance owners)
    (Int.le_of_lt balancePos)
  have upper : share amount (totalBalance owners) owner.2 ≤ amount := by
    apply Int.ediv_le_of_le_mul (by omega)
    exact Int.mul_le_mul_of_nonneg_left bounded amountNonneg
  unfold Amount.Fits Amount.least
  omega

theorem length_spread (left : Int) (shares : List Int) :
    (spread left shares).length = shares.length := by
  induction shares generalizing left with
  | nil => rfl
  | cons share rest ih =>
      rw [spread]
      split
      · rfl
      · simp [ih]

/-- What is handed out on top is the rest, as long as there are owners for it. -/
theorem total_spread (left : Int) (shares : List Int) (leftNonneg : 0 ≤ left)
    (enough : left ≤ shares.length) :
    Amount.total (spread left shares) = Amount.total shares + left := by
  induction shares generalizing left with
  | nil =>
      simp only [List.length_nil, Int.natCast_zero] at enough
      simp only [spread, Amount.total_nil]
      omega
  | cons share rest ih =>
      simp only [List.length_cons, Int.natCast_add, Int.natCast_one] at enough
      rw [spread]
      split
      · next done =>
          rw [done, Int.add_zero]
      · have later := ih (left - 1) (by omega) (by omega)
        simp only [Amount.total_cons, later]
        omega

theorem spread_nonneg {left : Int} {shares : List Int} (nonneg : ∀ n ∈ shares, 0 ≤ n) :
    ∀ n ∈ spread left shares, 0 ≤ n := by
  induction shares generalizing left with
  | nil => exact nonneg
  | cons share rest ih =>
      rw [spread]
      split
      · exact nonneg
      · intro n member
        have first := nonneg share List.mem_cons_self
        rcases List.mem_cons.mp member with rfl | later
        · omega
        · exact ih (fun m inside => nonneg m (List.mem_cons_of_mem share inside)) n later

/-- Leaving out what is nothing does not change a sum. -/
theorem total_filter_positive {α : Type} {weight : α → Int} {items : List α}
    (nonneg : ∀ item ∈ items, 0 ≤ weight item) :
    Amount.total ((items.filter fun item => 0 < weight item).map weight) =
      Amount.total (items.map weight) := by
  induction items with
  | nil => rfl
  | cons item rest ih =>
      have later := ih fun other member => nonneg other (List.mem_cons_of_mem item member)
      have here := nonneg item List.mem_cons_self
      by_cases positive : 0 < weight item
      · simp [positive, later]
      · simp only [List.filter_cons, positive, decide_false, Bool.false_eq_true, if_false, later,
          List.map_cons, Amount.total_cons]
        omega

theorem totalBalance_pos (positive : ∀ owner ∈ owners, 0 < owner.2) (some : owners ≠ []) :
    0 < totalBalance owners := by
  rcases List.exists_mem_of_ne_nil owners some with ⟨owner, member⟩
  have least := balance_le_totalBalance positive member
  have here := positive owner member
  omega

theorem length_floors : (floors owners amount).length = owners.length := by
  simp [floors]

theorem floors_nonneg (positive : ∀ owner ∈ owners, 0 < owner.2) (wholePos : 0 < totalBalance owners)
    (amountNonneg : 0 ≤ amount) (amountFits : amount ≤ maxTokens) :
    ∀ n ∈ floors owners amount, 0 ≤ n := by
  rw [floors_eq_shares positive amountNonneg amountFits, List.map_map]
  intro n member
  rcases List.mem_map.mp member with ⟨owner, inside, rfl⟩
  exact share_nonneg amountNonneg wholePos (Int.le_of_lt (positive owner inside))

/-- Rounding leaves something over, but no more than one unit for each owner. -/
theorem rest_bounds (positive : ∀ owner ∈ owners, 0 < owner.2) (wholePos : 0 < totalBalance owners)
    (amountNonneg : 0 ≤ amount) (amountFits : amount ≤ maxTokens) :
    0 ≤ amount - Amount.total (floors owners amount) ∧
    amount - Amount.total (floors owners amount) ≤ owners.length := by
  have bounds := total_shares_bounds amount wholePos (owners.map Prod.snd)
  rw [← floors_eq_shares positive amountNonneg amountFits, List.length_map, ← totalBalance,
    Int.mul_comm amount] at bounds
  have notAbove : Amount.total (floors owners amount) ≤ amount :=
    Int.le_of_mul_le_mul_left bounds.1 wholePos
  have notFarBelow : amount ≤ Amount.total (floors owners amount) + owners.length := by
    apply Int.le_of_mul_le_mul_left _ wholePos
    rw [Int.mul_add]
    exact bounds.2
  omega

theorem distribute_positive {recipient : Recipient}
    (member : recipient ∈ distribute owners amount) : 0 < recipient.amount := by
  unfold distribute at member
  split at member
  · cases member
  · rcases List.mem_map.mp member with ⟨pair, kept, rfl⟩
    simpa using (List.mem_filter.mp kept).2

/-- Whatever there is to distribute goes to the owners, down to the last unit. -/
theorem total_distribute_owners (positive : ∀ owner ∈ owners, 0 < owner.2) (some : owners ≠ [])
    (amountPos : 0 < amount) (amountFits : amount ≤ maxTokens) :
    Amount.total ((distribute owners amount).map Recipient.amount) = amount := by
  have wholePos := totalBalance_pos positive some
  have inRange : ¬ (totalBalance owners ≤ 0 ∨ amount ≤ 0) := by omega
  have bounds := rest_bounds positive wholePos (Int.le_of_lt amountPos) amountFits
  have sharesNonneg := floors_nonneg positive wholePos (Int.le_of_lt amountPos) amountFits
  have lengths : (floors owners amount).length = owners.length := length_floors
  have handedOut := total_spread (amount - Amount.total (floors owners amount))
    (floors owners amount) (by omega) (by omega)
  have pairsNonneg : ∀ pair ∈ owners.zip (spread
      (amount - Amount.total (floors owners amount)) (floors owners amount)), 0 ≤ pair.2 :=
    fun pair member => spread_nonneg sharesNonneg pair.2 (List.of_mem_zip member).2
  have seconds : (owners.zip (spread (amount - Amount.total (floors owners amount))
      (floors owners amount))).map Prod.snd =
        spread (amount - Amount.total (floors owners amount)) (floors owners amount) := by
    apply List.map_snd_zip
    rw [length_spread, lengths]
  have kept := total_filter_positive pairsNonneg
  rw [seconds, handedOut] at kept
  rw [distribute, if_neg inRange, List.map_map]
  refine Eq.trans kept ?_
  omega

theorem owners_of_served (served : distribute owners amount ≠ []) : owners ≠ [] ∧ 0 < amount := by
  have inRange : ¬ (totalBalance owners ≤ 0 ∨ amount ≤ 0) := fun out => served (if_pos out)
  refine ⟨?_, by omega⟩
  rintro rfl
  exact inRange (Or.inl (Int.le_refl 0))

/-- The amounts of a distribution sum to what is distributed. -/
theorem total_distribute (positive : ∀ owner ∈ owners, 0 < owner.2)
    (amountFits : amount ≤ maxTokens) (served : distribute owners amount ≠ []) :
    Amount.total ((distribute owners amount).map Recipient.amount) = amount := by
  rcases owners_of_served served with ⟨some, amountPos⟩
  exact total_distribute_owners positive some amountPos amountFits

/-- Whoever takes part in a distribution has something. -/
theorem eligibleOwners_positive {holders : List Owner} {sender : String} :
    ∀ owner ∈ eligibleOwners holders sender, 0 < owner.2 := by
  intro owner member
  rw [eligibleOwners, List.mem_mergeSort, List.mem_filter] at member
  simpa using (Bool.and_eq_true_iff.mp member.2).2

end Distribution
end TokenOverlay
