import TokenOverlay.Proofs.Cells

namespace TokenOverlay

/-!
The order book and the book of crowdsales as their readers see them.  Both
keep nothing empty: no seller without offers, no list without contributions.
-/

namespace OrderBook

theorem get?_eq_read (book : OrderBook) (seller : Address) (property : PropertyId) :
    book.get? seller property = Cells.read book.offers seller property := rfl

theorem offers_write_none (book : OrderBook) (seller : Address) (property : PropertyId) :
    (book.write seller property none).offers = Cells.clear book.offers seller property := by
  unfold write Cells.clear
  cases book.offers.get? seller with
  | none => rfl
  | some row => exact apply_ite OrderBook.offers _ _ _

theorem get?_write (book : OrderBook) (seller other : Address) (property q : PropertyId)
    (offer : Option Offer) :
    (book.write seller property offer).get? other q =
      if other = seller ∧ q = property then offer else book.get? other q := by
  cases offer with
  | none => rw [get?_eq_read, offers_write_none, Cells.read_clear, ← get?_eq_read]
  | some offer => exact Cells.read_put book.offers seller other property q offer

/-- No seller is kept without offers. -/
def Compact (book : OrderBook) : Prop := Cells.Compact book.offers

namespace Compact

theorem empty : Compact OrderBook.empty := by
  intro seller row found
  cases found

theorem write {book : OrderBook} (compact : book.Compact) (seller : Address)
    (property : PropertyId) (offer : Option Offer) :
    (book.write seller property offer).Compact := by
  cases offer with
  | none =>
      rw [Compact, offers_write_none]
      exact Cells.Compact.clear compact seller property
  | some offer => exact Cells.Compact.put compact seller property offer

/-- Two compact order books with the same offers are the same. -/
theorem ext {left right : OrderBook} (compactLeft : left.Compact) (compactRight : right.Compact)
    (same : ∀ seller property, left.get? seller property = right.get? seller property) :
    left = right := by
  have rows : left.offers = right.offers := Cells.Compact.ext compactLeft compactRight same
  cases left
  cases right
  cases rows
  rfl

/-- Writing back the offer that was there takes a write back. -/
theorem write_write_get? {book : OrderBook} (compact : book.Compact) (seller : Address)
    (property : PropertyId) (offer : Option Offer) :
    (book.write seller property offer).write seller property (book.get? seller property) =
      book := by
  apply ext ((compact.write seller property offer).write _ _ _) compact
  intro other q
  rw [get?_write, get?_write]
  split
  · next written => rw [written.1, written.2]
  · rfl

end Compact
end OrderBook

namespace CrowdsaleBook

/-- No list of contributions is kept empty. -/
def Compact (book : CrowdsaleBook) : Prop :=
  ∀ property list, book.participations.get? property = some list → list ≠ []

namespace Compact

theorem empty : Compact CrowdsaleBook.empty := by
  intro property list found
  cases found

theorem withSale {book : CrowdsaleBook} (compact : book.Compact) (property : PropertyId)
    (sale : Option Crowdsale) : (book.withSale property sale).Compact := compact

theorem addParticipation {book : CrowdsaleBook} (compact : book.Compact) (property : PropertyId)
    (p : Participation) : (book.addParticipation property p).Compact := by
  intro other list found
  rw [CrowdsaleBook.addParticipation, SortedMap.get?_insert] at found
  split at found
  · cases found
    exact List.append_ne_nil_of_right_ne_nil _ (List.cons_ne_nil p [])
  · exact compact other list found

/-- The latest contribution can be taken back. -/
theorem dropParticipation_addParticipation {book : CrowdsaleBook} (compact : book.Compact)
    (property : PropertyId) (p : Participation) :
    (book.addParticipation property p).dropParticipation property = book := by
  unfold CrowdsaleBook.dropParticipation CrowdsaleBook.addParticipation participationsOf
  simp only [SortedMap.get?_insert_self, List.dropLast_concat]
  have restored := SortedMap.assign_insert book.participations property
    ((book.participations.get? property).getD [] ++ [p])
  cases found : book.participations.get? property with
  | none =>
      rw [found] at restored
      exact congrArg (CrowdsaleBook.mk book.sales) restored
  | some list =>
      rw [found] at restored
      have kept := compact property list found
      have inhabited : ¬ list.isEmpty = true := fun empty => kept (List.isEmpty_iff.mp empty)
      rw [Option.getD_some, if_neg inhabited]
      exact congrArg (CrowdsaleBook.mk book.sales) restored

theorem dropParticipation {book : CrowdsaleBook} (compact : book.Compact)
    (property : PropertyId) : (book.dropParticipation property).Compact := by
  unfold CrowdsaleBook.dropParticipation
  cases book.participations.get? property with
  | none => exact compact
  | some last =>
      intro other list found
      dsimp only at found
      split at found
      · rw [SortedMap.get?_erase] at found
        split at found
        · cases found
        · exact compact other list found
      · next inhabited =>
          rw [SortedMap.get?_insert] at found
          split at found
          · cases found
            exact fun empty => inhabited (List.isEmpty_iff.mpr empty)
          · exact compact other list found

theorem get?_participations {book : CrowdsaleBook} (compact : book.Compact)
    (property : PropertyId) :
    book.participations.get? property =
      if book.participationsOf property = [] then none
      else some (book.participationsOf property) := by
  unfold participationsOf
  cases found : book.participations.get? property with
  | none => rfl
  | some list => exact (if_neg (compact property list found)).symm

/-- Two compact books with the same sales and contributions are the same. -/
theorem ext {left right : CrowdsaleBook} (compactLeft : left.Compact)
    (compactRight : right.Compact)
    (sales : ∀ property, left.get? property = right.get? property)
    (contributions : ∀ property, left.participationsOf property = right.participationsOf property) :
    left = right := by
  have sold : left.sales = right.sales := SortedMap.ext_get? sales
  have listed : left.participations = right.participations := by
    apply SortedMap.ext_get?
    intro property
    rw [compactLeft.get?_participations, compactRight.get?_participations, contributions]
  cases left
  cases right
  cases sold
  cases listed
  rfl

end Compact

theorem withSale_withSale (book : CrowdsaleBook) (property : PropertyId) (sale : Crowdsale) :
    (book.withSale property (some sale)).withSale property (book.get? property) = book :=
  congrArg (fun sales => CrowdsaleBook.mk sales book.participations)
    (SortedMap.assign_insert book.sales property sale)

end CrowdsaleBook

namespace FeatureTable

theorem withFeature_withFeature (table : FeatureTable) (id : FeatureId)
    (feature : Option Feature) :
    (table.withFeature id feature).withFeature id (table.get? id) = table := by
  cases feature with
  | none => exact congrArg FeatureTable.mk (SortedMap.assign_erase table.features id)
  | some feature =>
      exact congrArg FeatureTable.mk (SortedMap.assign_insert table.features id feature)

end FeatureTable
end TokenOverlay
