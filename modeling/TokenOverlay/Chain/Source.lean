import TokenOverlay.Attempt
import TokenOverlay.Block

namespace TokenOverlay

/-!
Where a follower reads blocks from.  A source is asked over and over, may fail,
and may answer differently each time.
-/

/-- Why a source cannot answer. -/
inductive SourceError where
  | connectionError (text : String)
  | blockNotFound (height : Nat)
  | parseError (text : String)
  | unsupported (text : String)
  | other (text : String)
deriving DecidableEq, Repr

namespace SourceError

def message : SourceError → String
  | connectionError text => s!"Connection error: {text}"
  | blockNotFound height => s!"Block {height} not found"
  | parseError text => s!"Parse error: {text}"
  | unsupported text => s!"Unsupported: {text}"
  | other text => s!"Error: {text}"

end SourceError

/-- The questions put to a source whose condition is of type `σ`. -/
structure Source (σ : Type) where
  blockCount : Attempt σ SourceError Nat
  blockHash : Nat → Attempt σ SourceError String
  block : Nat → Attempt σ SourceError Block

end TokenOverlay
