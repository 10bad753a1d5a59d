import TokenOverlay.Engine.Json
import TokenOverlay.Json.Text
import TokenOverlay.Store.Timestamp

namespace TokenOverlay

/-!
Where the engine's snapshot is kept between runs: one file, which holds a JSON
document that names its format and the network it belongs to.
-/

/-- What stands in the place of the snapshot file. -/
inductive StoredFile where
  | absent
  | text (content : String)
  /-- Something that can be neither read nor replaced. -/
  | directory
deriving DecidableEq, Repr, Inhabited

/-- Why a snapshot cannot be kept or brought back. -/
inductive StoreError where
  | ioError (text : String)
  | serializationError (text : String)
  | incompatibleSnapshot (text : String)
deriving DecidableEq, Repr

namespace StoreError

def message : StoreError → String
  | ioError text => s!"I/O error: {text}"
  | serializationError text => s!"Serialization error: {text}"
  | incompatibleSnapshot text => s!"Incompatible snapshot: {text}"

/-- The text of what lies behind an error, if something else does. -/
def cause? : StoreError → Option String
  | ioError text => some text
  | serializationError text => some text
  | incompatibleSnapshot _ => none

end StoreError

/-- A snapshot as it is kept. -/
structure StoredSnapshot where
  format : Nat
  network : String
  savedAt : String
  snapshot : Snapshot
deriving DecidableEq

namespace StoredSnapshot

/-- The format that is written, and the only one that is read. -/
def currentFormat : Nat := 1

def toJson (s : StoredSnapshot) : Json := .object [
  ("format", .ofNat s.format),
  ("network", .text s.network),
  ("saved_at", .text s.savedAt),
  ("snapshot", s.snapshot.toJson)]

def timestamp? (j : Json) : Option String :=
  j.text?.bind fun text => if Timestamp.isTimestamp text then some text else none

def ofJson (j : Json) : Option StoredSnapshot := do
  let [format, network, savedAt, snapshot] ←
    j.fields? ["format", "network", "saved_at", "snapshot"] | none
  return {
    format := ← Json.required? (Json.nat? UInt32.size) format
    network := ← Json.required? Json.text? network
    savedAt := ← Json.required? timestamp? savedAt
    snapshot := ← Json.required? Snapshot.ofJson snapshot }

/-- The snapshot, if it is in the current format and belongs to a network. -/
def open? (s : StoredSnapshot) (network : String) : Except StoreError Snapshot :=
  if s.format ≠ currentFormat then
    .error (.incompatibleSnapshot s!"format {s.format} is not supported")
  else if s.network ≠ network then
    .error (.incompatibleSnapshot s!"snapshot belongs to {s.network}, not {network}")
  else .ok s.snapshot

end StoredSnapshot

namespace StoredFile

/-- Read a document. -/
def readDocument (network : String) (document : Json) : Except StoreError Snapshot :=
  match StoredSnapshot.ofJson document with
  | some stored => stored.open? network
  | none => .error (.serializationError "the document is not a stored snapshot")

/-- Bring back the snapshot of a network, if one was kept. -/
def load (file : StoredFile) (network : String) : Except StoreError (Option Snapshot) :=
  match file with
  | absent => .ok none
  | directory => .error (.ioError "the snapshot file cannot be read")
  | text content =>
      match Json.parse content with
      | none => .error (.serializationError "the snapshot file is not JSON")
      | some document => (readDocument network document).map some

/-- Keep a snapshot in place of the earlier one. -/
def save (file : StoredFile) (network savedAt : String) (snapshot : Snapshot) :
    Except StoreError StoredFile :=
  match file with
  | directory => .error (.ioError "the snapshot file cannot be replaced")
  | _ =>
      let stored : StoredSnapshot := ⟨StoredSnapshot.currentFormat, network, savedAt, snapshot⟩
      .ok (text stored.toJson.render)

end StoredFile
end TokenOverlay
