import Mathlib.Data.List.Permutation
import TokenOverlay.Proofs.Distribution

namespace TokenOverlay
namespace Distribution

/-!
Who gets how much of a distribution.  Owners are served in an order that their
balances and addresses decide alone: a larger balance comes first, and of equal
balances the smaller address.  Each of them has its share rounded down, the
first few have one unit more, and nobody is paid twice.
-/

variable {holders owners : List Owner} {sender : String} {amount : Int}

/-! ## The order of service -/

/-- The first owner is served before the second. -/
def Before (a b : Owner) : Prop := b.2 < a.2 ∨ a.2 = b.2 ∧ compare a.1 b.1 = .lt

theorem ahead_iff {a b : Owner} :
    ahead a b = true ↔ b.2 < a.2 ∨ a.2 = b.2 ∧ (compare a.1 b.1).isLE = true := by
  simp [ahead]

theorem ahead_trans (a b c : Owner) (first : ahead a b = true) (second : ahead b c = true) :
    ahead a c = true := by
  rw [ahead_iff] at *
  rcases first with more | ⟨same, left⟩
  · apply Or.inl
    rcases second with moreStill | ⟨equal, -⟩ <;> omega
  · rcases second with moreStill | ⟨equal, right⟩
    · apply Or.inl
      omega
    · exact Or.inr ⟨same.trans equal, Std.TransCmp.isLE_trans left right⟩

theorem ahead_total (a b : Owner) : (ahead a b || ahead b a) = true := by
  rw [Bool.or_eq_true, ahead_iff, ahead_iff]
  by_cases same : a.2 = b.2
  · have one : (compare a.1 b.1).isLE = true ∨ (compare b.1 a.1).isLE = true := by
      have swapped : compare b.1 a.1 = (compare a.1 b.1).swap := Std.OrientedCmp.eq_swap
      rw [swapped]
      cases compare a.1 b.1 <;> simp
    rcases one with le | ge
    · exact Or.inl (Or.inr ⟨same, le⟩)
    · exact Or.inr (Or.inr ⟨same.symm, ge⟩)
  · omega

/-- No two owners are served at once. -/
theorem ahead_antisymm {a b : Owner} (first : ahead a b = true) (second : ahead b a = true) :
    a = b := by
  rw [ahead_iff] at *
  have same : a.2 = b.2 := by omega
  have left : (compare a.1 b.1).isLE = true := by
    rcases first with more | ⟨-, le⟩
    · omega
    · exact le
  have right : (compare b.1 a.1).isLE = true := by
    rcases second with more | ⟨-, le⟩
    · omega
    · exact le
  exact Prod.ext (Std.LawfulEqCmp.eq_of_compare (Std.OrientedCmp.isLE_antisymm left right)) same

theorem mem_eligibleOwners {owner : Owner} :
    owner ∈ eligibleOwners holders sender ↔ owner ∈ holders ∧ owner.1 ≠ sender ∧ 0 < owner.2 := by
  simp [eligibleOwners, List.mem_mergeSort, List.mem_filter]

theorem eligibleOwners_sorted :
    (eligibleOwners holders sender).Pairwise fun a b => ahead a b = true :=
  List.pairwise_mergeSort ahead_trans ahead_total _

theorem eligibleOwners_distinct (distinct : (holders.map Prod.fst).Nodup) (sender : String) :
    ((eligibleOwners holders sender).map Prod.fst).Nodup := by
  have reordered := (List.mergeSort_perm
    (holders.filter fun owner => owner.1 ≠ sender && 0 < owner.2) ahead).map Prod.fst
  exact reordered.nodup_iff.mpr (distinct.sublist (List.filter_sublist.map Prod.fst))

/-- Owners of different addresses are served strictly one after the other. -/
theorem eligibleOwners_before (distinct : (holders.map Prod.fst).Nodup) (sender : String) :
    (eligibleOwners holders sender).Pairwise Before := by
  have apart := List.pairwise_map.mp (eligibleOwners_distinct distinct sender)
  apply (eligibleOwners_sorted.and apart).imp
  rintro a b ⟨sorted, different⟩
  rcases ahead_iff.mp sorted with more | ⟨same, le⟩
  · exact Or.inl more
  · refine Or.inr ⟨same, ?_⟩
    cases order : compare a.1 b.1 with
    | lt => rfl
    | eq => exact absurd (Std.LawfulEqCmp.eq_of_compare order) different
    | gt => simp [order] at le

/-- It does not matter in which order the holders are listed. -/
theorem eligibleOwners_perm {others : List Owner} (same : others.Perm holders) :
    eligibleOwners others sender = eligibleOwners holders sender := by
  have kept := same.filter fun owner => owner.1 ≠ sender && 0 < owner.2
  have sorted := (List.mergeSort_perm _ ahead).trans
    (kept.trans (List.mergeSort_perm _ ahead).symm)
  exact List.Perm.eq_of_pairwise (fun _ _ _ _ => ahead_antisymm) eligibleOwners_sorted
    eligibleOwners_sorted sorted

/-! ## What an address is paid -/

/-- What an address gets in a distribution. -/
def paid (recipients : List Recipient) (address : String) : Int :=
  Amount.total (recipients.map fun r => if r.address = address then r.amount else 0)

@[simp] theorem paid_nil (address : String) : paid [] address = 0 := rfl

theorem paid_cons (recipient : Recipient) (rest : List Recipient) (address : String) :
    paid (recipient :: rest) address =
      (if recipient.address = address then recipient.amount else 0) + paid rest address := rfl

theorem paid_absent {recipients : List Recipient} {address : String}
    (absent : address ∉ recipients.map Recipient.address) : paid recipients address = 0 := by
  induction recipients with
  | nil => rfl
  | cons recipient rest ih =>
      rw [List.map_cons, List.mem_cons, not_or] at absent
      rw [paid_cons, if_neg (Ne.symm absent.1), ih absent.2, Int.add_zero]

/-- Who is paid once is paid what it was meant to get. -/
theorem paid_member {recipients : List Recipient}
    (distinct : (recipients.map Recipient.address).Nodup) {recipient : Recipient}
    (member : recipient ∈ recipients) : paid recipients recipient.address = recipient.amount := by
  induction recipients with
  | nil => cases member
  | cons other rest ih =>
      rw [List.map_cons, List.nodup_cons] at distinct
      rw [paid_cons]
      rcases List.mem_cons.mp member with rfl | later
      · rw [if_pos rfl, paid_absent distinct.1, Int.add_zero]
      · have different : other.address ≠ recipient.address := by
          intro same
          apply distinct.1
          rw [same]
          exact List.mem_map_of_mem later
        rw [if_neg different, ih distinct.2 later, Int.zero_add]

/-- Leaving out those who get nothing changes nobody's pay. -/
theorem paid_filter {recipients : List Recipient}
    (nonneg : ∀ recipient ∈ recipients, 0 ≤ recipient.amount) (address : String) :
    paid (recipients.filter fun recipient => 0 < recipient.amount) address =
      paid recipients address := by
  induction recipients with
  | nil => rfl
  | cons recipient rest ih =>
      have later := ih fun other member => nonneg other (List.mem_cons_of_mem recipient member)
      have here := nonneg recipient List.mem_cons_self
      by_cases positive : 0 < recipient.amount
      · rw [List.filter_cons_of_pos (by simpa using positive), paid_cons, paid_cons, later]
      · have nothing : recipient.amount = 0 := by omega
        rw [List.filter_cons_of_neg (by simpa using positive), paid_cons, later, nothing, ite_self,
          Int.zero_add]

/-! ## Shares -/

/-- The rest goes to the first owners, a unit to each. -/
theorem getElem?_spread {left : Int} (leftNonneg : 0 ≤ left) (shares : List Int) (index : Nat) :
    (spread left shares)[index]? = shares[index]?.map fun share =>
      share + if index < left then 1 else 0 := by
  induction shares generalizing left index with
  | nil => rfl
  | cons share rest ih =>
      rw [spread]
      split
      · next done =>
          have none : ¬ (index : Int) < left := by omega
          simp [none]
      · next more =>
          cases index with
          | zero =>
              have first : 0 < left := by omega
              simp [first]
          | succ index =>
              have shifted : (index : Int) < left - 1 ↔ ((index + 1 : Nat) : Int) < left := by omega
              simp only [List.getElem?_cons_succ, ih (by omega : 0 ≤ left - 1) index, shifted]

/-- The amounts before those who get nothing are left out. -/
def offers (owners : List Owner) (amount : Int) : List Recipient :=
  (owners.zip (spread (amount - Amount.total (floors owners amount)) (floors owners amount))).map
    fun pair => ⟨pair.1.1, pair.2⟩

theorem addresses_offers (owners : List Owner) (amount : Int) :
    (offers owners amount).map Recipient.address = owners.map Prod.fst := by
  have whole : ∀ shares : List Int, shares.length = owners.length →
      (owners.zip shares).map (fun pair => pair.1.1) = owners.map Prod.fst := by
    intro shares lengths
    have firsts : (owners.zip shares).map Prod.fst = owners :=
      List.map_fst_zip (Nat.le_of_eq lengths.symm)
    calc
      (owners.zip shares).map (fun pair => pair.1.1) =
          ((owners.zip shares).map Prod.fst).map Prod.fst := by rw [List.map_map]; rfl
      _ = owners.map Prod.fst := by rw [firsts]
  rw [offers, List.map_map]
  exact whole _ ((length_spread _ _).trans length_floors)

theorem distribute_eq_offers (wholePos : 0 < totalBalance owners) (amountPos : 0 < amount) :
    distribute owners amount =
      (offers owners amount).filter fun recipient => 0 < recipient.amount := by
  rw [distribute, if_neg (by omega), offers, List.filter_map]
  rfl

theorem offers_nonneg (positive : ∀ owner ∈ owners, 0 < owner.2)
    (wholePos : 0 < totalBalance owners) (amountNonneg : 0 ≤ amount)
    (amountFits : amount ≤ maxTokens) : ∀ recipient ∈ offers owners amount, 0 ≤ recipient.amount := by
  intro recipient member
  rcases List.mem_map.mp member with ⟨pair, inside, rfl⟩
  have floorsNonneg := floors_nonneg positive wholePos amountNonneg amountFits
  exact spread_nonneg floorsNonneg pair.2 (List.of_mem_zip inside).2

theorem getElem?_offers (positive : ∀ owner ∈ owners, 0 < owner.2)
    (wholePos : 0 < totalBalance owners) (amountNonneg : 0 ≤ amount)
    (amountFits : amount ≤ maxTokens) {index : Nat} {owner : Owner}
    (place : owners[index]? = some owner) :
    (offers owners amount)[index]? = some ⟨owner.1, share amount (totalBalance owners) owner.2 +
      if index < amount - Amount.total (floors owners amount) then 1 else 0⟩ := by
  have rest := (rest_bounds positive wholePos amountNonneg amountFits).1
  have floored : (floors owners amount)[index]? =
      some (share amount (totalBalance owners) owner.2) := by
    rw [floors_eq_shares positive amountNonneg amountFits, List.getElem?_map, List.getElem?_map,
      place]
    rfl
  have handed := getElem?_spread rest (floors owners amount) index
  rw [floored, Option.map_some] at handed
  have paired : (owners.zip (spread (amount - Amount.total (floors owners amount))
      (floors owners amount)))[index]? = some (owner, _) :=
    List.getElem?_zip_eq_some.mpr ⟨place, handed⟩
  rw [offers, List.getElem?_map, paired]
  rfl

/-- How an amount is split over owners, in the order in which they are served. -/
structure Split (owners : List Owner) (amount : Int) (recipients : List Recipient) : Prop where
  /-- everybody gets its share rounded down, and the first owners one unit more -/
  shares : ∃ extra : Nat, ∀ (index : Nat) (owner : Owner), owners[index]? = some owner →
    paid recipients owner.1 =
      amount * owner.2 / totalBalance owners + if index < extra then 1 else 0
  total : Amount.total (recipients.map Recipient.amount) = amount
  ordered : (recipients.map Recipient.address).Sublist (owners.map Prod.fst)
  distinct : (recipients.map Recipient.address).Nodup
  positive : ∀ recipient ∈ recipients, 1 ≤ recipient.amount
  monotone : ∀ larger ∈ owners, ∀ smaller ∈ owners, smaller.2 < larger.2 →
    paid recipients smaller.1 ≤ paid recipients larger.1

/-- The owners before a certain place get a unit more than their rounded share. -/
theorem paid_distribute (positive : ∀ owner ∈ owners, 0 < owner.2)
    (distinct : (owners.map Prod.fst).Nodup) (amountPos : 0 < amount)
    (amountFits : amount ≤ maxTokens) {index : Nat} {owner : Owner}
    (place : owners[index]? = some owner) :
    paid (distribute owners amount) owner.1 =
      amount * owner.2 / totalBalance owners +
        if index < (amount - Amount.total (floors owners amount)).toNat then 1 else 0 := by
  have member := List.mem_of_getElem? place
  have wholePos := totalBalance_pos positive (List.ne_nil_of_mem member)
  have amountNonneg := Int.le_of_lt amountPos
  have offered := getElem?_offers positive wholePos amountNonneg amountFits place
  have apart : ((offers owners amount).map Recipient.address).Nodup := by
    rw [addresses_offers]
    exact distinct
  rw [distribute_eq_offers wholePos amountPos,
    paid_filter (offers_nonneg positive wholePos amountNonneg amountFits)]
  refine Eq.trans (paid_member apart (List.mem_of_getElem? offered)) ?_
  simp only [Int.lt_toNat]
  rfl

theorem ordered_distribute :
    ((distribute owners amount).map Recipient.address).Sublist (owners.map Prod.fst) := by
  by_cases out : totalBalance owners ≤ 0 ∨ amount ≤ 0
  · rw [distribute, if_pos out]
    exact List.nil_sublist _
  · rw [distribute_eq_offers (by omega) (by omega), ← addresses_offers owners amount]
    exact List.filter_sublist.map Recipient.address

/-- Among owners in order, a larger balance comes earlier. -/
theorem index_lt_of_more (sorted : owners.Pairwise Before) {first second : Nat}
    {larger smaller : Owner} (left : owners[first]? = some larger)
    (right : owners[second]? = some smaller) (more : smaller.2 < larger.2) : first < second := by
  apply Decidable.byContradiction
  intro notBefore
  rcases List.getElem?_eq_some_iff.mp left with ⟨inside, rfl⟩
  rcases List.getElem?_eq_some_iff.mp right with ⟨insideToo, rfl⟩
  rcases Nat.lt_or_eq_of_le (Nat.le_of_not_lt notBefore) with earlier | rfl
  · rcases List.pairwise_iff_getElem.mp sorted second first insideToo inside earlier with
      larger | ⟨same, -⟩ <;> omega
  · omega

theorem monotone_distribute (positive : ∀ owner ∈ owners, 0 < owner.2)
    (distinct : (owners.map Prod.fst).Nodup) (sorted : owners.Pairwise Before)
    (amountPos : 0 < amount) (amountFits : amount ≤ maxTokens) {larger smaller : Owner}
    (left : larger ∈ owners) (right : smaller ∈ owners) (more : smaller.2 < larger.2) :
    paid (distribute owners amount) smaller.1 ≤ paid (distribute owners amount) larger.1 := by
  rcases List.getElem?_of_mem left with ⟨first, leftPlace⟩
  rcases List.getElem?_of_mem right with ⟨second, rightPlace⟩
  have earlier := index_lt_of_more sorted leftPlace rightPlace more
  have shares : amount * smaller.2 / totalBalance owners ≤ amount * larger.2 / totalBalance owners := by
    apply Int.ediv_le_ediv (totalBalance_pos positive (List.ne_nil_of_mem left))
    exact Int.mul_le_mul_of_nonneg_left (Int.le_of_lt more) (Int.le_of_lt amountPos)
  rw [paid_distribute positive distinct amountPos amountFits leftPlace,
    paid_distribute positive distinct amountPos amountFits rightPlace]
  split <;> split <;> omega

/-- A distribution over some owners in order is a split of the whole amount. -/
theorem split_distribute (positive : ∀ owner ∈ owners, 0 < owner.2)
    (distinct : (owners.map Prod.fst).Nodup) (sorted : owners.Pairwise Before)
    (some : owners ≠ []) (amountPos : 0 < amount) (amountFits : amount ≤ maxTokens) :
    Split owners amount (distribute owners amount) where
  shares := ⟨_, fun _ _ place => paid_distribute positive distinct amountPos amountFits place⟩
  total := total_distribute_owners positive some amountPos amountFits
  ordered := ordered_distribute
  distinct := distinct.sublist ordered_distribute
  positive := fun _ member => distribute_positive member
  monotone := fun _ left _ right more =>
    monotone_distribute positive distinct sorted amountPos amountFits left right more

/-- For holders of different addresses, an amount from one up to the ceiling is split over all that
have something and are not the sender, whatever the order they are listed in. -/
theorem distribute_shares (holders : List Owner) (sender : String) (amount : Int)
    (distinct : (holders.map Prod.fst).Nodup) (positive : 1 ≤ amount) (fits : amount ≤ maxTokens) :
    (∀ owner, owner ∈ eligibleOwners holders sender ↔
      owner ∈ holders ∧ owner.1 ≠ sender ∧ 0 < owner.2) ∧
    (eligibleOwners holders sender).Pairwise Before ∧
    (eligibleOwners holders sender ≠ [] →
      Split (eligibleOwners holders sender) amount
        (distribute (eligibleOwners holders sender) amount)) ∧
    (eligibleOwners holders sender = [] →
      distribute (eligibleOwners holders sender) amount = []) ∧
    ∀ others : List Owner, others.Perm holders →
      distribute (eligibleOwners others sender) amount =
        distribute (eligibleOwners holders sender) amount := by
  have sorted := eligibleOwners_before distinct sender
  refine ⟨fun owner => mem_eligibleOwners, sorted, ?_, ?_, ?_⟩
  · intro some
    exact split_distribute eligibleOwners_positive (eligibleOwners_distinct distinct sender) sorted some
      (by omega) fits
  · intro none
    rw [none]
    rfl
  · intro others same
    rw [eligibleOwners_perm same]

/-- Five units over seven: two of equal balance get their two, the smaller address the unit that
is left, and who would get nothing is left out, as is the sender. -/
theorem shares_of_five :
    let holders := [("dan", 1), ("bob", 3), ("cat", 9), ("ann", 3)]
    eligibleOwners holders "cat" = [("ann", 3), ("bob", 3), ("dan", 1)] ∧
    Split (eligibleOwners holders "cat") 5 [⟨"ann", 3⟩, ⟨"bob", 2⟩] := by
  have order : eligibleOwners [("dan", 1), ("bob", 3), ("cat", 9), ("ann", 3)] "cat" =
      [("ann", 3), ("bob", 3), ("dan", 1)] := by cbv
  have result := (distribute_shares [("dan", 1), ("bob", 3), ("cat", 9), ("ann", 3)] "cat" 5
    (by decide) (by decide) (by decide)).2.2.1 (by rw [order]; decide)
  have amounts : distribute [("ann", 3), ("bob", 3), ("dan", 1)] 5 = [⟨"ann", 3⟩, ⟨"bob", 2⟩] := by
    decide
  rw [order, amounts] at result
  refine ⟨order, ?_⟩
  rw [order]
  exact result

end Distribution
end TokenOverlay
