import TokenOverlay.SortedMap.Basic

namespace TokenOverlay

/-!
Who sends a host transaction and whom it refers to, judged by its inputs and
outputs.
-/

/-- An output as the selection sees it; an output of an unknown kind has no address, and the
marker output carries the payload. -/
structure Output where
  address : Option String
  isMarker : Bool
deriving DecidableEq, Repr

namespace Selection

/-- A sum of input values, held at the largest number of 64 bits. -/
def addValue (a b : UInt64) : UInt64 := UInt64.ofNat (min (a.toNat + b.toNat) (UInt64.size - 1))

/-- What each address puts in. -/
def contributions (inputs : List (String × UInt64)) : SortedMap String UInt64 :=
  inputs.foldl (fun totals input =>
    totals.insert input.1 (addValue ((totals.get? input.1).getD 0) input.2)) .empty

/-- The first entry of a list with the largest total. -/
def largest : List (String × UInt64) → Option (String × UInt64)
  | [] => none
  | entry :: rest =>
      match largest rest with
      | none => some entry
      | some best => if entry.2 < best.2 then some best else some entry

/-- The address that puts in most; of several the smallest. -/
def sender (inputs : List (String × UInt64)) : Option String :=
  (largest (contributions inputs).entries).map Prod.fst

/-- The first output that does not go back to the sender, or else the last output that has an
address; the marker output is never meant. -/
def reference (outputs : List Output) (sender : String) : Option String :=
  let addresses := (outputs.filter fun output => !output.isMarker).filterMap Output.address
  (addresses.find? fun address => address ≠ sender).or addresses.getLast?

end Selection
end TokenOverlay
