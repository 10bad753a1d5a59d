import TokenOverlay.Amount
import TokenOverlay.Json.Basic

namespace TokenOverlay

/-!
What an address holds of one property: the part it can spend and the part
that stands behind its open offer.
-/

structure Balance where
  available : Int
  reserved : Int
deriving DecidableEq, Repr

namespace Balance

def zero : Balance := ⟨0, 0⟩

instance : Inhabited Balance := ⟨zero⟩

/-- Both parts together, held at the largest amount. -/
def total (b : Balance) : Int := Amount.saturate (b.available + b.reserved)

def isEmpty (b : Balance) : Bool := b.available = 0 && b.reserved = 0

theorem isEmpty_iff {b : Balance} : b.isEmpty = true ↔ b = zero := by
  cases b
  simp [isEmpty, zero]

def toJson (b : Balance) : Json := .object [
  ("available", .integer b.available),
  ("reserved", .integer b.reserved)]

def ofJson (j : Json) : Option Balance := do
  let [available, reserved] ← j.fields? ["available", "reserved"] | none
  return {
    available := ← Json.required? Json.int64? available
    reserved := ← Json.required? Json.int64? reserved }

end Balance
end TokenOverlay
