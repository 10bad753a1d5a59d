import TokenOverlay.Json.Basic

namespace TokenOverlay

/-!
The two ecosystems and the numbering of properties.  Property 0 is the host
coin and belongs to neither; 1 and 2 are the protocol tokens; above them each
ecosystem has its own half of the numbers.
-/

abbrev PropertyId := UInt32

inductive Ecosystem where
  | main
  | test
deriving DecidableEq, Repr, Inhabited

namespace Ecosystem

def mainToken : PropertyId := 1
def testToken : PropertyId := 2

/-- The last number of the main ecosystem. -/
def lastMainId : PropertyId := 2147483650

def ofByte : UInt8 → Option Ecosystem
  | 1 => some main
  | 2 => some test
  | _ => none

def toByte : Ecosystem → UInt8
  | main => 1
  | test => 2

/-- The ecosystem a property number belongs to. -/
def of (id : PropertyId) : Option Ecosystem :=
  if id = 0 then none
  else if id = mainToken then some main
  else if id = testToken then some test
  else if id ≤ lastMainId then some main
  else some test

def protocolToken : Ecosystem → PropertyId
  | main => mainToken
  | test => testToken

/-- The number of the first property issued in an ecosystem. -/
def firstId : Ecosystem → PropertyId
  | main => 3
  | test => 2147483651

def name : Ecosystem → String
  | main => "main"
  | test => "test"

def toJson (ecosystem : Ecosystem) : Json := .text ecosystem.name

def ofName? : String → Option Ecosystem
  | "main" => some main
  | "test" => some test
  | _ => none

def ofJson (j : Json) : Option Ecosystem := j.plainVariant?.bind ofName?

/-- An ecosystem inside a record that was held. -/
def ofHeldJson (j : Json) : Option Ecosystem := j.heldVariant?.bind ofName?

theorem ofJson_toJson (ecosystem : Ecosystem) : ofJson ecosystem.toJson = some ecosystem := by
  cases ecosystem <;> rfl

theorem ofHeldJson_toJson (ecosystem : Ecosystem) :
    ofHeldJson ecosystem.toJson = some ecosystem := by
  cases ecosystem <;> rfl

theorem of_protocolToken (ecosystem : Ecosystem) :
    of ecosystem.protocolToken = some ecosystem := by
  cases ecosystem <;> decide

end Ecosystem
end TokenOverlay
