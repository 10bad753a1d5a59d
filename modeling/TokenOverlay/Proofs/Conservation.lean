import TokenOverlay.Proofs.Settle
import TokenOverlay.Proofs.Bookkeeping

namespace TokenOverlay

/-!
The books are in order before the first block and stay so with every block.
When they are, the supply check has nothing to report.
-/

/-! ## What the supply check looks at -/

namespace Ledger

/-- The properties that are listed as held are held by someone. -/
theorem read_of_mem_knownProperties {l : Ledger} {id : PropertyId}
    (known : id ∈ l.knownProperties) :
    ∃ address b, Cells.read l.balances address id = some b := by
  have collected : ∀ (ids : List PropertyId) (start : SortedMap PropertyId Unit),
      id ∈ (ids.foldl (fun found next => found.insert next ()) start).keys →
        id ∈ ids ∨ id ∈ start.keys := by
    intro ids
    induction ids with
    | nil => exact fun start member => Or.inr member
    | cons next rest ih =>
        intro start member
        rcases ih (start.insert next ()) member with later | earlier
        · exact Or.inl (List.mem_cons_of_mem next later)
        · rcases SortedMap.mem_keys_iff.mp earlier with ⟨value, found⟩
          rw [SortedMap.get?_insert] at found
          split at found
          · next same => exact Or.inl (same ▸ List.mem_cons_self)
          · exact Or.inr (SortedMap.mem_keys_iff.mpr ⟨value, found⟩)
  rcases collected _ .empty known with listed | impossible
  · rcases List.mem_flatMap.mp listed with ⟨row, rowListed, inRow⟩
    rcases SortedMap.mem_values_iff.mp rowListed with ⟨address, atAddress⟩
    rcases SortedMap.mem_keys_iff.mp inRow with ⟨b, inCell⟩
    refine ⟨address, b, ?_⟩
    rw [Cells.read, atAddress]
    exact inCell
  · cases impossible

end Ledger

namespace State.Sound

variable {s : State}

theorem supplyOf_eq_totalFor (sound : s.Sound) (property : PropertyId) :
    s.registry.supplyOf property = s.ledger.totalFor property := by
  have supply := sound.supply property
  rw [Pi.zero_apply, Int.add_zero] at supply
  exact supply

/-- A property of which there is a balance is registered: otherwise its balances would sum to
nothing, and balances of nothing are not kept. -/
theorem registered_of_read (sound : s.Sound) {address : Address} {property : PropertyId}
    {b : Balance} (found : Cells.read s.ledger.balances address property = some b) :
    s.registry.exists? property = true := by
  by_contra unknown
  have absent : s.registry.get? property = none := by
    simpa [Registry.exists?, SortedMap.contains, Registry.get?] using unknown
  have nothing : s.registry.supplyOf property = 0 := by simp [Registry.supplyOf, absent]
  have part := Ledger.held_le_totalFor (fun other => sound.held_nonneg other property) address
  have parts := sound.balance_nonneg address property
  rw [← sound.supplyOf_eq_totalFor, nothing] at part
  have value : s.ledger.balance address property = b := by
    rw [Ledger.balance_eq_read, found, Option.getD_some]
  rw [value] at part parts
  apply sound.canonical.ledger.nonzero address property b found
  unfold Ledger.held at part
  rw [← Balance.isEmpty_iff, Balance.isEmpty, Bool.and_eq_true, decide_eq_true_eq,
    decide_eq_true_eq]
  omega

theorem supplyMismatches_eq_nil (sound : s.Sound) : s.supplyMismatches = [] := by
  have agreeing :
      (s.registry.list.filter fun p => p.totalTokens ≠ s.ledger.totalFor p.id) = [] := by
    rw [List.filter_eq_nil_iff]
    intro p listed
    rcases SortedMap.mem_values_iff.mp listed with ⟨id, found⟩
    have key := sound.canonical.registry.keyed id p found
    have supply := sound.supplyOf_eq_totalFor p.id
    rw [key, Registry.supplyOf, Registry.get?, found, Option.map_some, Option.getD_some] at supply
    simp [key, supply]
  have known : (s.ledger.knownProperties.filter fun id => !s.registry.exists? id) = [] := by
    rw [List.filter_eq_nil_iff]
    intro id listed
    rcases Ledger.read_of_mem_knownProperties listed with ⟨address, b, found⟩
    simp [sound.registered_of_read found]
  rw [State.supplyMismatches, agreeing, known]
  rfl

end State.Sound

/-! ## Before the first block -/

namespace Engine

/-- An allocation that is skipped leaves the state as it was. -/
theorem allocate_sound {s : State} (sound : s.Sound) (allocation : Allocation) :
    (allocate s allocation).Sound := by
  have start : (Journal.start s).state.Sound := sound
  have minted := Registry.mint_yields allocation.address allocation.property allocation.amount
    start
  unfold allocate
  rcases run : Registry.mint allocation.address allocation.property allocation.amount
    (.start s) with ⟨reason | _, after⟩
  · rw [minted.of_error run]
    exact sound
  · exact minted.of_ok run

theorem genesisState_sound (config : EngineConfig) : (genesisState config).Sound :=
  List.foldlRecOn config.allocations allocate State.Sound.initial
    fun _ sound allocation _ => allocate_sound sound allocation

end Engine

/-! ## Blocks -/

namespace Engine

variable (rules : Rules) (block : Block)

theorem prelude_sound {state : State} (sound : state.Sound) :
    (prelude block (.start state)).2.state.Sound :=
  (prelude_keeps_books block).state_after sound

theorem processTransaction_sound (position : Nat) (tx : Tx) {journal : Journal}
    (sound : journal.state.Sound) :
    (processTransaction rules block position tx journal).2.state.Sound := by
  rcases processTransaction_cases rules block position tx sound.canonical with
    ⟨_, same⟩ | ⟨m, details, after, run, _, grown⟩
  · rw [same]
    exact sound
  · have start : (Journal.start journal.state).state.Sound := sound
    have kept := (Execute.message_keeps_books rules (contextOf block tx) m start).of_ok run
    rw [grown]
    exact kept

theorem processFrom_sound (transactions : List Tx) (position : Nat) {journal : Journal}
    (sound : journal.state.Sound) :
    (processFrom rules block position journal transactions).2.state.Sound := by
  induction transactions generalizing position journal with
  | nil => exact sound
  | cons tx rest ih =>
      exact ih (position + 1) (processTransaction_sound rules block position tx sound)

/-- Every block keeps the books. -/
theorem processBlock_sound {state : State} (sound : state.Sound) :
    (processBlock rules state block).2.state.Sound :=
  processFrom_sound rules block block.transactions 0 (prelude_sound block sound)

end Engine
end TokenOverlay
