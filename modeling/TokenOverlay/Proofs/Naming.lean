import TokenOverlay.Proofs.Fields
import TokenOverlay.Proofs.Mining

namespace TokenOverlay

/-!
The names of submissions and of blocks.  A name is the digest of a text that
joins some fields by bars, and a field may itself hold bars.  One of the fields
is the count of the chain, which every named thing raises by one.  In a
submission it is behind the last bar; in a block it is behind the third one,
and no field in front of it holds a bar.  So no two of the texts are the same.
-/

namespace Text

theorem digits_injective {m n : Nat} (same : digits m = digits n) : m = n := by
  rw [← digitsValue_digits m, same, digitsValue_digits]

theorem bar_notMem_digits (n : Nat) : '|' ∉ digits n := by
  intro member
  exact absurd (isDigit_of_mem_digits member) (by decide)

theorem toList_natText (n : Nat) : (natText n).toList = digits n := String.toList_ofList

theorem bar_notMem_intText (n : Int) : '|' ∉ (intText n).toList := by
  cases n with
  | ofNat n =>
      rw [intText, toList_natText]
      exact bar_notMem_digits n
  | negSucc n =>
      rw [intText, String.toList_ofList, List.mem_cons, not_or]
      exact ⟨by decide, bar_notMem_digits (n + 1)⟩

end Text

theorem Hex.bar_notMem_encode (bytes : Bytes) : '|' ∉ (Hex.encode bytes).toList := by
  have digit : ∀ n, '|' ≠ digitChar n := by
    intro n
    have each : ∀ d < 16, '|' ≠ Char.ofNat (if d < 10 then 48 + d else 87 + d) := by decide
    exact each (n % 16) (Nat.mod_lt n (by decide))
  rw [encode, String.toList_ofList]
  intro member
  obtain ⟨byte, -, inside⟩ := List.mem_flatMap.mp member
  rcases List.mem_cons.mp inside with high | later
  · exact digit _ high
  · exact digit _ (List.mem_singleton.mp later)

namespace LocalChain

/-! ## The texts that are named -/

/-- The fields of a text that were joined by bars, and more of them if a field held bars. -/
def fields (text : String) : List (List Char) := text.toList.splitOn '|'

theorem toList_bar : "|".toList = ['|'] := by decide

/-- Three fields without bars stand in front of the count of a block text. -/
theorem fields_headerText {parentHash : String} (whole : '|' ∉ parentHash.toList) (height : Nat)
    (time : Int) (sequence : Nat) (txids : List String) :
    (fields (headerText height parentHash time sequence txids))[3]? =
      some (Text.digits sequence) := by
  rw [fields, headerText, String.toList_intercalate, toList_bar]
  simp only [List.cons_append, List.nil_append, List.map_cons, Text.toList_natText,
    List.intercalate_cons_cons, List.append_assoc]
  rw [List.splitOn_append_cons_self_of_not_mem (Text.bar_notMem_digits height),
    List.splitOn_append_cons_self_of_not_mem whole,
    List.splitOn_append_cons_self_of_not_mem (Text.bar_notMem_intText time)]
  have number := Text.bar_notMem_digits sequence
  cases txids with
  | nil =>
      rw [List.map_nil, List.intercalate_singleton, List.splitOn_eq_singleton number]
      rfl
  | cons txid others =>
      rw [List.map_cons, List.intercalate_cons_cons, List.append_assoc, List.singleton_append,
        List.splitOn_append_cons_self_of_not_mem number]
      rfl

/-- The count is the last field of a submission text. -/
theorem fields_submissionText (sender payload : String) (reference : Option String)
    (sequence : Nat) :
    (fields (submissionText sender payload reference sequence)).getLast? =
      some (Text.digits sequence) := by
  rw [fields, submissionText, String.toList_intercalate, toList_bar]
  simp only [List.map_cons, List.map_nil, Text.toList_natText, List.intercalate_cons_cons,
    List.intercalate_singleton, List.append_assoc, List.singleton_append]
  rw [List.splitOn_append_cons_self, List.splitOn_append_cons_self, List.splitOn_append_cons_self,
    List.splitOn_eq_singleton (Text.bar_notMem_digits sequence)]
  simp only [List.getLast?_append, List.getLast?_singleton, Option.some_or]

/-- The text of the genesis block has two fields only. -/
theorem fields_genesisText (time : Int) : (fields (genesisText time))[3]? = none := by
  have text : (genesisText time).toList = "genesis".toList ++ '|' :: (Text.intText time).toList :=
    String.toList_append
  rw [fields, text, List.splitOn_append_cons_self_of_not_mem (by decide),
    List.splitOn_eq_singleton (Text.bar_notMem_intText time)]
  rfl

/-! ## What a call names -/

/-- The text that a call hashes for a submission, if it takes one. -/
def submissionOf (chain : LocalChain) : Operation → Option String
  | .submitRaw sender payload reference =>
      if sender = "" then none
      else (Hex.decode payload).toOption.map fun _ =>
        submissionText sender (Text.lowerCase (Text.trim payload)) reference (chain.sequence + 1)
  | _ => none

/-- The name that a call answers for a submission. -/
def txidOf (chain : LocalChain) : Operation → Option String
  | .submitRaw sender payload reference => (chain.submitRaw sender payload reference).1.toOption
  | _ => none

/-- The text of a block that is mined now. -/
def nextHeader (chain : LocalChain) (time : Int) : String :=
  headerText (chain.tip.height + 1) chain.tip.hash time (chain.sequence + 1)
    (chain.pool.map Tx.txid)

/-- The text that a call hashes for a block, if it mines one. -/
def headerOf (chain : LocalChain) : Operation → Option String
  | .mine => some (chain.nextHeader chain.nextTime)
  | .mineAt time => some (chain.nextHeader time)
  | _ => none

/-- The block that a call mines. -/
def blockOf (chain : LocalChain) : Operation → Option Block
  | .mine => some chain.mine.1
  | .mineAt time => some (chain.mineAt time).1
  | _ => none

theorem txidOf_eq (chain : LocalChain) (operation : Operation) :
    chain.txidOf operation = (chain.submissionOf operation).map Sha256.identifier := by
  cases operation with
  | submitRaw sender payload reference =>
      unfold txidOf submissionOf submitRaw
      dsimp only
      split
      · rfl
      · cases Hex.decode payload with
        | error reason => rfl
        | ok bytes => rfl
  | _ => rfl

theorem hash_blockOf (chain : LocalChain) (operation : Operation) :
    (chain.blockOf operation).map Block.hash =
      (chain.headerOf operation).map Sha256.identifier := by
  cases operation <;> rfl

/-- Disconnecting blocks down to a height keeps what disconnecting the tip block keeps. -/
theorem reorgWithin_keeps {holds : LocalChain → Prop}
    (step : ∀ chain : LocalChain, holds chain → holds chain.invalidateTip.2) (height fuel : Nat)
    {chain : LocalChain} (held : holds chain) : holds (chain.reorgWithin height fuel).2 := by
  induction fuel generalizing chain with
  | zero => exact held
  | succ fuel ih =>
      have next := step chain held
      unfold reorgWithin
      split
      · exact held
      · split
        · next same =>
            rw [same] at next
            exact next
        · next block after same =>
            rw [same] at next
            have later := ih next
            split
            · next rest =>
                rw [rest] at later
                exact later
            · next rest =>
                rw [rest] at later
                exact later

/-- Each text that a call names raises the count by one, and nothing else changes it. -/
theorem sequence_perform (chain : LocalChain) (operation : Operation) :
    (chain.perform operation).sequence =
      chain.sequence + (chain.submissionOf operation).toList.length +
        (chain.headerOf operation).toList.length := by
  have disconnected : ∀ other : LocalChain,
      other.sequence = chain.sequence → other.invalidateTip.2.sequence = chain.sequence := by
    intro other same
    rcases other.invalidateTip_cases with ⟨_, refused⟩ | ⟨block, older, _, removed⟩
    · rw [refused]
      exact same
    · rw [removed]
      exact same
  cases operation with
  | submitRaw sender payload reference =>
      unfold perform submissionOf submitRaw
      dsimp only
      split
      · rfl
      · cases Hex.decode payload with
        | error reason => rfl
        | ok bytes => rfl
  | invalidateTip => exact disconnected chain rfl
  | reorgTo height => exact reorgWithin_keeps disconnected height _ rfl
  | _ => rfl

/-- A block of the chain that a call leaves behind was there before, or is the one it mined. -/
theorem mem_descending_perform {chain : LocalChain} {operation : Operation} {block : Block}
    (member : block ∈ (chain.perform operation).descending) :
    block ∈ chain.descending ∨ chain.blockOf operation = some block := by
  have disconnected : ∀ other : LocalChain, (∀ block ∈ other.descending, block ∈ chain.descending) →
      ∀ block ∈ other.invalidateTip.2.descending, block ∈ chain.descending := by
    intro other within block member
    rcases other.invalidateTip_cases with ⟨_, refused⟩ | ⟨newest, older, above, removed⟩
    · rw [refused] at member
      exact within block member
    · rw [removed] at member
      apply within block
      rw [descending, above]
      exact List.mem_cons_of_mem newest member
  cases operation with
  | submitRaw sender payload reference =>
      change block ∈ (chain.submitRaw sender payload reference).2.descending at member
      rcases chain.submitRaw_cases sender payload reference with
        ⟨reason, refused⟩ | ⟨txid, bytes, _, _, above, genesis, _⟩
      · rw [refused] at member
        exact .inl member
      · rw [descending, above, genesis] at member
        exact .inl member
  | submit tx => exact .inl member
  | mine => exact (List.mem_cons.mp member).symm.imp_right fun same => congrArg some same.symm
  | mineAt time =>
      exact (List.mem_cons.mp member).symm.imp_right fun same => congrArg some same.symm
  | invalidateTip => exact .inl (disconnected chain (fun _ there => there) block member)
  | reorgTo height =>
      exact .inl (reorgWithin_keeps disconnected height _ (fun _ there => there) block member)
  | clearPool => exact .inl member

/-- No block of the chain has a name with a bar in it. -/
def Barless (chain : LocalChain) : Prop := ∀ block ∈ chain.descending, '|' ∉ block.hash.toList

theorem bar_notMem_identifier (text : String) : '|' ∉ (Sha256.identifier text).toList :=
  Hex.bar_notMem_encode _

theorem barless_new (genesisTime : Int) : (new genesisTime).Barless := by
  intro block member
  rw [List.mem_singleton.mp member]
  exact bar_notMem_identifier (genesisText genesisTime)

theorem Barless.perform {chain : LocalChain} (barless : chain.Barless) (operation : Operation) :
    (chain.perform operation).Barless := by
  intro block member
  rcases mem_descending_perform member with before | mined
  · exact barless block before
  · have named := chain.hash_blockOf operation
    rw [mined] at named
    obtain ⟨text, _, same⟩ := Option.map_eq_some_iff.mp named.symm
    exact same ▸ bar_notMem_identifier text

theorem Barless.fields_headerOf {chain : LocalChain} (barless : chain.Barless)
    {operation : Operation} {text : String} (header : chain.headerOf operation = some text) :
    (fields text)[3]? = some (Text.digits (chain.sequence + 1)) := by
  have tip : '|' ∉ chain.tip.hash.toList :=
    barless chain.tip (List.mem_of_head? (descending_head? chain))
  cases operation with
  | mine =>
      cases header
      exact fields_headerText tip _ _ _ _
  | mineAt time =>
      cases header
      exact fields_headerText tip _ _ _ _
  | _ => cases header

theorem fields_submissionOf {chain : LocalChain} {operation : Operation} {text : String}
    (submission : chain.submissionOf operation = some text) :
    (fields text).getLast? = some (Text.digits (chain.sequence + 1)) := by
  cases operation with
  | submitRaw sender payload reference =>
      unfold submissionOf at submission
      dsimp only at submission
      split at submission
      · cases submission
      · obtain ⟨bytes, _, rfl⟩ := Option.map_eq_some_iff.mp submission
        exact fields_submissionText _ _ _ _
  | _ => cases submission

/-! ## What the calls of a run name -/

section

variable {α β γ : Type}

/-- What the calls of a run give, each on the chain that those before it lead to. -/
def given (ofCall : LocalChain → Operation → Option α) (chain : LocalChain) :
    List Operation → List α
  | [] => []
  | operation :: later =>
      (ofCall chain operation).toList ++ given ofCall (chain.perform operation) later

theorem map_given {ofCall : LocalChain → Operation → Option α}
    {other : LocalChain → Operation → Option β} {first : α → γ} {second : β → γ}
    (same : ∀ chain operation,
      (ofCall chain operation).map first = (other chain operation).map second)
    (chain : LocalChain) (operations : List Operation) :
    (given ofCall chain operations).map first = (given other chain operations).map second := by
  induction operations generalizing chain with
  | nil => rfl
  | cons operation later ih =>
      rw [given, given, List.map_append, List.map_append, ih, ← Option.toList_map,
        ← Option.toList_map, same]

end

theorem given_append {α : Type} (ofCall : LocalChain → Operation → Option α) (chain : LocalChain)
    (earlier later : List Operation) :
    given ofCall chain (earlier ++ later) =
      given ofCall chain earlier ++ given ofCall (earlier.foldl perform chain) later := by
  induction earlier generalizing chain with
  | nil => rfl
  | cons operation rest ih =>
      rw [List.cons_append, given, given, ih, List.append_assoc, List.foldl_cons]

theorem mem_descending_foldl {chain : LocalChain} {operations : List Operation} {block : Block}
    (member : block ∈ (operations.foldl perform chain).descending) :
    block ∈ chain.descending ∨ block ∈ given blockOf chain operations := by
  induction operations generalizing chain with
  | nil => exact .inl member
  | cons operation later ih =>
      rcases ih member with earlier | mined
      · rcases mem_descending_perform earlier with before | here
        · exact .inl before
        · exact .inr (List.mem_append_left _ (Option.mem_toList.mpr here))
      · exact .inr (List.mem_append_right _ mined)

/-- The genesis block and all blocks that were ever mined; some may have been disconnected since. -/
def everMined (genesisTime : Int) (operations : List Operation) : List Block :=
  genesisBlock genesisTime :: given blockOf (new genesisTime) operations

theorem everMined_append (genesisTime : Int) (earlier later : List Operation) :
    everMined genesisTime (earlier ++ later) =
      everMined genesisTime earlier ++ given blockOf (run genesisTime earlier) later := by
  rw [everMined, everMined, given_append, List.cons_append]
  rfl

theorem mem_descending_run {genesisTime : Int} {operations : List Operation} {block : Block}
    (member : block ∈ (run genesisTime operations).descending) :
    block ∈ everMined genesisTime operations := by
  rcases mem_descending_foldl member with first | later
  · rw [List.mem_singleton.mp first]
    exact List.mem_cons_self
  · exact List.mem_cons_of_mem _ later

/-- Each text tells the count that its call raises the chain to. -/
def Counts (ofCall : LocalChain → Operation → Option String)
    (count : String → Option (List Char)) : Prop :=
  ∀ (chain : LocalChain) (operation : Operation) (text : String), chain.Barless →
    ofCall chain operation = some text →
      count text = some (Text.digits (chain.sequence + 1)) ∧
        chain.sequence < (chain.perform operation).sequence

theorem counts_submissionOf : Counts submissionOf fun text => (fields text).getLast? := by
  intro chain operation text _ submission
  refine ⟨fields_submissionOf submission, ?_⟩
  rw [sequence_perform, submission, Option.toList_some, List.length_singleton]
  omega

theorem counts_headerOf : Counts headerOf fun text => (fields text)[3]? := by
  intro chain operation text barless header
  refine ⟨barless.fields_headerOf header, ?_⟩
  rw [sequence_perform, header, Option.toList_some, List.length_singleton]
  omega

/-- Such texts are never given twice.  By induction on the calls, all later texts tell a greater
count than the chain has now. -/
theorem Counts.nodup_given {ofCall : LocalChain → Operation → Option String}
    {count : String → Option (List Char)} (counts : Counts ofCall count) {chain : LocalChain}
    (barless : chain.Barless) (operations : List Operation) :
    (∀ text ∈ given ofCall chain operations,
      ∃ n, chain.sequence < n ∧ count text = some (Text.digits n)) ∧
    (given ofCall chain operations).Nodup := by
  induction operations generalizing chain with
  | nil => exact ⟨fun _ none => absurd none List.not_mem_nil, List.nodup_nil⟩
  | cons operation later ih =>
      obtain ⟨counted, distinct⟩ := ih (barless.perform operation)
      have least : chain.sequence ≤ (chain.perform operation).sequence := by
        rw [sequence_perform]
        omega
      rw [given]
      cases here : ofCall chain operation with
      | none =>
          constructor
          · intro text member
            obtain ⟨n, above, told⟩ := counted text member
            exact ⟨n, least.trans_lt above, told⟩
          · exact distinct
      | some named =>
          obtain ⟨told, more⟩ := counts chain operation named barless here
          have unheard : named ∉ given ofCall (chain.perform operation) later := by
            intro again
            obtain ⟨n, above, same⟩ := counted named again
            have number := Text.digits_injective (Option.some.inj (told.symm.trans same))
            omega
          rw [Option.toList_some, List.singleton_append]
          constructor
          · intro text member
            rcases List.mem_cons.mp member with rfl | after
            · exact ⟨_, Nat.lt_succ_self _, told⟩
            · obtain ⟨n, above, counted⟩ := counted text after
              exact ⟨n, more.trans above, counted⟩
          · exact List.nodup_cons.mpr ⟨unheard, distinct⟩

theorem nodup_submissions (genesisTime : Int) (operations : List Operation) :
    (given submissionOf (new genesisTime) operations).Nodup :=
  (counts_submissionOf.nodup_given (barless_new genesisTime) operations).2

/-- The genesis block has no count in the place where the others have theirs. -/
theorem nodup_headers (genesisTime : Int) (operations : List Operation) :
    (genesisText genesisTime :: given headerOf (new genesisTime) operations).Nodup := by
  have counted := counts_headerOf.nodup_given (barless_new genesisTime) operations
  have first : genesisText genesisTime ∉ given headerOf (new genesisTime) operations := by
    intro again
    obtain ⟨n, _, told⟩ := counted.1 _ again
    rw [fields_genesisText] at told
    cases told
  exact List.nodup_cons.mpr ⟨first, counted.2⟩

/-- Distinct texts have distinct names, unless two of them are a collision of the digest. -/
theorem nodup_names {texts : List String} (distinct : texts.Nodup) :
    (texts.map Sha256.identifier).Nodup ∨ ∃ first ∈ texts, ∃ second ∈ texts,
      first ≠ second ∧ Sha256.identifier first = Sha256.identifier second := by
  rw [or_iff_not_imp_right]
  intro free
  refine distinct.map_on fun first here second there same => ?_
  by_contra different
  exact free ⟨first, here, second, there, different, same⟩

/-- Mining several blocks is mining so often. -/
theorem mineMany_eq (chain : LocalChain) (count : Nat) :
    (chain.mineMany count).2 = (List.replicate count Operation.mine).foldl perform chain := by
  induction count generalizing chain with
  | zero => rfl
  | succ count ih =>
      rw [List.replicate_succ, List.foldl_cons]
      refine Eq.trans ?_ (ih chain.mine.2)
      rw [mineMany]
      dsimp only
      cases rest : chain.mine.2.mineMany count with
      | mk last after => cases last <;> rfl

/-- Whatever is called on a chain inside the process, no two submissions are named by the same
text, and neither are two of the blocks that were ever mined, the genesis block among them.  So
two of them have one name only if the digest has a collision. -/
theorem run_names_apart (genesisTime : Int) (operations : List Operation) :
    let start := new genesisTime
    let submissions := given submissionOf start operations
    let headers := genesisText genesisTime :: given headerOf start operations
    let mined := genesisBlock genesisTime :: given blockOf start operations
    (submissions.Nodup ∧
      given txidOf start operations = submissions.map Sha256.identifier ∧
      ((given txidOf start operations).Nodup ∨
        ∃ first ∈ submissions, ∃ second ∈ submissions,
          first ≠ second ∧ Sha256.identifier first = Sha256.identifier second)) ∧
    (headers.Nodup ∧
      mined.map Block.hash = headers.map Sha256.identifier ∧
      (∀ block ∈ (run genesisTime operations).blocks, block ∈ mined) ∧
      ((mined.map Block.hash).Nodup ∨
        ∃ first ∈ headers, ∃ second ∈ headers,
          first ≠ second ∧ Sha256.identifier first = Sha256.identifier second)) ∧
    ∀ count, ((run genesisTime operations).mineMany count).2 =
      run genesisTime (operations ++ List.replicate count .mine) := by
  intro start submissions headers mined
  have txids : given txidOf start operations = submissions.map Sha256.identifier := by
    have named := map_given
      (fun chain operation => (congrFun Option.map_id _).trans (txidOf_eq chain operation))
      start operations
    rwa [List.map_id] at named
  have hashes : mined.map Block.hash = headers.map Sha256.identifier :=
    congrArg (Sha256.identifier (genesisText genesisTime) :: ·)
      (map_given hash_blockOf start operations)
  have submitted : submissions.Nodup := nodup_submissions genesisTime operations
  have headed : headers.Nodup := nodup_headers genesisTime operations
  have listed : ∀ block ∈ (run genesisTime operations).blocks, block ∈ mined := by
    intro block there
    rw [blocks_eq_reverse, List.mem_reverse] at there
    exact mem_descending_run there
  have many : ∀ count, ((run genesisTime operations).mineMany count).2 =
      run genesisTime (operations ++ List.replicate count .mine) := by
    intro count
    rw [mineMany_eq, run, run, List.foldl_append]
  rw [txids, hashes]
  exact ⟨⟨submitted, rfl, nodup_names submitted⟩, ⟨headed, rfl, listed, nodup_names headed⟩, many⟩

end LocalChain
end TokenOverlay
