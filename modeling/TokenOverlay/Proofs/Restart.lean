import TokenOverlay.Proofs.Crowdsales
import TokenOverlay.Proofs.Storage
import TokenOverlay.Store.Snapshot

namespace TokenOverlay

/-!
Stopping and going on.  A snapshot that was saved is read back as it was, or
refused where it belongs to something else, and an engine has nothing beside
its rules and its snapshot: one that is brought back answers every call as the
one that was saved would have.
-/

namespace StoredSnapshot

/-- A document is read as the snapshot that was written, with its format and its network. -/
theorem ofJson_toJson {stored : StoredSnapshot} (format : stored.format < UInt32.size)
    (stamped : Timestamp.isTimestamp stored.savedAt = true) (storable : stored.snapshot.Storable) :
    ofJson stored.toJson = some stored := by
  have savedAt : timestamp? (.text stored.savedAt) = some stored.savedAt := if_pos stamped
  unfold ofJson toJson
  refine Eq.trans (Json.bind_fields rfl (by decide)) ?_
  simp [Json.nat?_ofNat format, savedAt, Snapshot.ofJson_toJson storable]

/-- Only the current format and the own network are accepted. -/
theorem open?_eq (stored : StoredSnapshot) (network : String) :
    (stored.format = currentFormat ∧ stored.network = network ∧
      stored.open? network = .ok stored.snapshot) ∨
    (stored.format ≠ currentFormat ∨ stored.network ≠ network) ∧
      ∃ text, stored.open? network = .error (.incompatibleSnapshot text) := by
  unfold open?
  by_cases format : stored.format = currentFormat
  · by_cases same : stored.network = network
    · simp [format, same]
    · simp [format, same]
  · simp [format]

end StoredSnapshot

namespace StoredFile

/-- What decides is the format and the network that were written. -/
theorem readDocument_toJson (stored : StoredSnapshot) (format : stored.format < UInt32.size)
    (stamped : Timestamp.isTimestamp stored.savedAt = true) (storable : stored.snapshot.Storable)
    (network : String) : readDocument network stored.toJson = stored.open? network := by
  unfold readDocument
  rw [StoredSnapshot.ofJson_toJson format stamped storable]

theorem load_text {content : String} {document : Json} (parsed : Json.parse content = some document)
    (network : String) :
    (text content).load network = (readDocument network document).map some := by
  simp only [load, parsed]

/-- Only what stands in the place of the file keeps a snapshot from being saved. -/
theorem save_eq {file : StoredFile} (replaceable : file ≠ directory)
    (network savedAt : String) (snapshot : Snapshot) :
    file.save network savedAt snapshot =
      .ok (text (StoredSnapshot.toJson
        ⟨StoredSnapshot.currentFormat, network, savedAt, snapshot⟩).render) := by
  cases file with
  | absent => rfl
  | text content => rfl
  | directory => exact absurd rfl replaceable

end StoredFile

/-! ## Answers -/

/-- What an engine answers to a call. -/
inductive Answer where
  | applied (outcome : Except EngineError Engine.BlockSummary)
  | rolledBack (outcome : Except EngineError (List String))

namespace Engine

def respond (e : Engine) : Call → Answer × Engine
  | .apply block =>
      match e.applyBlock block with
      | .ok (after, summary) => (.applied (.ok summary), after)
      | .error reason => (.applied (.error reason), e)
  | .rollback height =>
      let (outcome, after) := e.rollbackTo height
      (.rolledBack outcome, after)

/-- The answers to some calls, each with the snapshot that the call leaves behind. -/
def answers (e : Engine) : List Call → List (Answer × Snapshot)
  | [] => []
  | call :: rest =>
      let (answer, after) := e.respond call
      (answer, after.snapshot) :: after.answers rest

/-- An engine is its rules and its snapshot. -/
theorem resume_snapshot (e : Engine) : resume e.rules e.snapshot = e := rfl

/-! ## Going on -/

/-- A snapshot that is saved comes back for its network as it was, and for every other network or
from every other format it is refused as incompatible.  What is brought back goes on like the
engine itself, call by call, with the same answers and the same snapshots. -/
theorem resume_goes_on (e : Engine) (storable : e.snapshot.Storable) {savedAt : String}
    (stamped : Timestamp.isTimestamp savedAt = true) (network : String) :
    let written (format : Nat) : Json :=
      StoredSnapshot.toJson ⟨format, network, savedAt, e.snapshot⟩
    StoredFile.readDocument network (written StoredSnapshot.currentFormat) = .ok e.snapshot ∧
    (∀ format other, format < UInt32.size →
      format ≠ StoredSnapshot.currentFormat ∨ network ≠ other →
        ∃ text, StoredFile.readDocument other (written format) =
            .error (.incompatibleSnapshot text) ∧
          ∀ content, Json.parse content = some (written format) →
            (StoredFile.text content).load other = .error (.incompatibleSnapshot text)) ∧
    (∀ file : StoredFile, file ≠ .directory →
      ∃ after, file.save network savedAt e.snapshot = .ok after ∧
        (Json.parse (written StoredSnapshot.currentFormat).render =
            some (written StoredSnapshot.currentFormat) →
          after.load network = .ok (some e.snapshot))) ∧
    ∀ snapshot,
      StoredFile.readDocument network (written StoredSnapshot.currentFormat) = .ok snapshot →
        ∀ calls, (resume e.rules snapshot).answers calls = e.answers calls := by
  intro written
  have decides : ∀ format other, format < UInt32.size →
      StoredFile.readDocument other (written format) =
        StoredSnapshot.open? ⟨format, network, savedAt, e.snapshot⟩ other := by
    intro format other inRange
    exact StoredFile.readDocument_toJson ⟨format, network, savedAt, e.snapshot⟩ inRange stamped
      storable other
  have own : StoredFile.readDocument network (written StoredSnapshot.currentFormat) =
      .ok e.snapshot := by
    rw [decides StoredSnapshot.currentFormat network (by decide)]
    simp [StoredSnapshot.open?]
  refine ⟨own, ?_, ?_, ?_⟩
  · intro format other inRange foreign
    rcases StoredSnapshot.open?_eq ⟨format, network, savedAt, e.snapshot⟩ other with
      ⟨current, same, _⟩ | ⟨_, text, refused⟩
    · exact (foreign.elim (fun old => old current) fun apart => apart same).elim
    · have unread := (decides format other inRange).trans refused
      refine ⟨text, unread, fun content parsed => ?_⟩
      rw [StoredFile.load_text parsed, unread]
      rfl
  · intro file replaceable
    refine ⟨_, StoredFile.save_eq replaceable network savedAt e.snapshot, fun parsed => ?_⟩
    rw [StoredFile.load_text parsed, own]
    rfl
  · intro snapshot read calls
    rw [own] at read
    cases read
    rw [resume_snapshot]

/-- An engine in which a sale is open, with a participation and all that a rollback needs. -/
theorem resume_goes_on_selling :
    let e := (Session.run Session.twoOwners [.apply State.Reached.selling]).engine
    e.snapshot.Storable ∧ Timestamp.isTimestamp "2024-01-01T00:00:00Z" = true ∧
      ∃ snapshot, StoredFile.readDocument "regtest"
          (StoredSnapshot.toJson ⟨1, "regtest", "2024-01-01T00:00:00Z", e.snapshot⟩) =
            .ok snapshot ∧
        ∀ calls, (resume e.rules snapshot).answers calls = e.answers calls := by
  intro e
  have storable : e.snapshot.Storable := by decide +kernel
  have stamped : Timestamp.isTimestamp "2024-01-01T00:00:00Z" = true := by decide +kernel
  have goesOn := resume_goes_on e storable stamped "regtest"
  exact ⟨storable, stamped, e.snapshot, goesOn.1, goesOn.2.2.2 e.snapshot goesOn.1⟩

end Engine
end TokenOverlay
