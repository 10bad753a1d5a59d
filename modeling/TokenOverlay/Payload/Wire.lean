import TokenOverlay.Payload.Basic
import TokenOverlay.Text.Utf8
import TokenOverlay.Bytes.Hex

namespace TokenOverlay

/-!
The binary form of messages: numbers are big-endian, and a text is its UTF-8
bytes, cut after 255 of them, with a zero byte at the end.  What follows the
last field of a message is ignored when it is read.
-/

/-- Why bytes are not a message. -/
inductive DecodeError where
  | missingHeader
  | truncated (field : String) (offset : Nat)
  | unknownType (type version : UInt16)
  | unterminatedText (field : String)
  | textTooLong (field : String)
  | invalidField (field : String) (value : Nat)
deriving DecidableEq, Repr

namespace DecodeError

def message : DecodeError → String
  | missingHeader => "payload shorter than its header"
  | truncated field offset => s!"payload truncated reading {field} at byte {offset}"
  | unknownType type version =>
      s!"unknown transaction type {type.toNat} version {version.toNat}"
  | unterminatedText field => s!"string field {field} is not terminated"
  | textTooLong field => s!"string field {field} exceeds 255 bytes"
  | invalidField field value => s!"invalid value {value} for {field}"

end DecodeError

namespace Wire

/-- The longest text, in bytes. -/
def maxText : Nat := 255

/-! ## Writing -/

/-- The last `width` bytes of a number, most significant byte first. -/
def bigEndian : Nat → Nat → Bytes
  | 0, _ => []
  | width + 1, n => bigEndian width (n / 256) ++ [UInt8.ofNat n]

def uint8 (n : UInt8) : Bytes := [n]
def uint16 (n : UInt16) : Bytes := bigEndian 2 n.toNat
def uint32 (n : UInt32) : Bytes := bigEndian 4 n.toNat
def uint64 (n : UInt64) : Bytes := bigEndian 8 n.toNat

def text (value : String) : Bytes := (Utf8.encode value).take maxText ++ [0]

def description (d : Description) : Bytes :=
  text d.category ++ text d.subcategory ++ text d.name ++ text d.url ++ text d.data

def issuance (i : Issuance) : Bytes :=
  uint8 i.ecosystem ++ uint16 i.propertyType ++ uint32 i.previousProperty ++
    description i.description

/-- The fields of a message, after its header. -/
def body : Payload → Bytes
  | .simpleSend property amount => uint32 property ++ uint64 amount
  | .sendToOwners property amount distribution =>
      uint32 property ++ uint64 amount ++ (distribution.map uint32).getD []
  | .sendAll ecosystem => uint8 ecosystem
  | .sellOffer property amount desired timeLimit minFee action =>
      uint32 property ++ uint64 amount ++ uint64 desired ++ uint8 timeLimit ++ uint64 minFee ++
        uint8 action.toByte
  | .acceptOffer property amount => uint32 property ++ uint64 amount
  | .issueFixed head amount => issuance head ++ uint64 amount
  | .issueCrowdsale head desired tokensPerUnit deadline earlyBonus issuerPercent =>
      issuance head ++ uint32 desired ++ uint64 tokensPerUnit ++ uint64 deadline ++
        uint8 earlyBonus ++ uint8 issuerPercent
  | .closeCrowdsale property => uint32 property
  | .issueManaged head => issuance head
  | .grant property amount memo => uint32 property ++ uint64 amount ++ text memo
  | .revoke property amount memo => uint32 property ++ uint64 amount ++ text memo
  | .deactivate feature => uint16 feature
  | .activate feature block clientVersion =>
      uint16 feature ++ uint32 block ++ uint32 clientVersion

/-! ## Reading -/

/-- The bytes that are left, and how many were read before them. -/
structure Cursor where
  offset : Nat
  rest : Bytes
deriving DecidableEq, Repr

abbrev Reader := StateT Cursor (Except DecodeError)

/-- The next bytes, as a number. -/
def readNumber (width : Nat) (field : String) : Reader Nat := fun cursor =>
  if width ≤ cursor.rest.length then
    .ok ((cursor.rest.take width).foldl (fun n byte => 256 * n + byte.toNat) 0,
      ⟨cursor.offset + width, cursor.rest.drop width⟩)
  else .error (.truncated field cursor.offset)

def readUInt8 (field : String) : Reader UInt8 := return UInt8.ofNat (← readNumber 1 field)
def readUInt16 (field : String) : Reader UInt16 := return UInt16.ofNat (← readNumber 2 field)
def readUInt32 (field : String) : Reader UInt32 := return UInt32.ofNat (← readNumber 4 field)
def readUInt64 (field : String) : Reader UInt64 := return UInt64.ofNat (← readNumber 8 field)

/-- The bytes of a text, up to the zero byte that ends it. -/
def readTextBytes (field : String) : Reader Bytes := fun cursor =>
  let raw := cursor.rest.takeWhile (· ≠ 0)
  if raw.length = cursor.rest.length then .error (.unterminatedText field)
  else if maxText < raw.length then .error (.textTooLong field)
  else .ok (raw, ⟨cursor.offset + raw.length + 1, cursor.rest.drop (raw.length + 1)⟩)

def readText (field : String) : Reader String := return Utf8.decode (← readTextBytes field)

def readDescription : Reader Description := do
  return {
    category := ← readText "category"
    subcategory := ← readText "subcategory"
    name := ← readText "name"
    url := ← readText "url"
    data := ← readText "data" }

def readIssuance : Reader Issuance := do
  return {
    ecosystem := ← readUInt8 "ecosystem"
    propertyType := ← readUInt16 "property type"
    previousProperty := ← readUInt32 "previous property"
    description := ← readDescription }

def readAction : Reader OfferAction := do
  let byte ← readUInt8 "action"
  match OfferAction.ofByte byte with
  | some action => return action
  | none => throw (.invalidField "action" byte.toNat)

/-- The fields of a message of a type and version. -/
def readBody (type version : UInt16) : Reader Payload :=
  match type.toNat, version.toNat with
  | 0, 0 => return .simpleSend (← readUInt32 "property") (← readUInt64 "amount")
  | 3, 0 => return .sendToOwners (← readUInt32 "property") (← readUInt64 "amount") none
  | 3, 1 =>
      return .sendToOwners (← readUInt32 "property") (← readUInt64 "amount")
        (some (← readUInt32 "distribution property"))
  | 4, 0 => return .sendAll (← readUInt8 "ecosystem")
  | 20, 0 | 20, 1 =>
      return .sellOffer (← readUInt32 "property") (← readUInt64 "amount") (← readUInt64 "desired")
        (← readUInt8 "time limit") (← readUInt64 "min fee") (← readAction)
  | 22, 0 => return .acceptOffer (← readUInt32 "property") (← readUInt64 "amount")
  | 50, 0 => return .issueFixed (← readIssuance) (← readUInt64 "amount")
  | 51, 0 =>
      return .issueCrowdsale (← readIssuance) (← readUInt32 "desired property")
        (← readUInt64 "tokens per unit") (← readUInt64 "deadline") (← readUInt8 "early bonus")
        (← readUInt8 "issuer percent")
  | 53, 0 => return .closeCrowdsale (← readUInt32 "property")
  | 54, 0 => return .issueManaged (← readIssuance)
  | 55, 0 =>
      return .grant (← readUInt32 "property") (← readUInt64 "amount") (← readText "memo")
  | 56, 0 =>
      return .revoke (← readUInt32 "property") (← readUInt64 "amount") (← readText "memo")
  | 65533, 65535 => return .deactivate (← readUInt16 "feature id")
  | 65534, 65535 =>
      return .activate (← readUInt16 "feature id") (← readUInt32 "activation block")
        (← readUInt32 "min client version")
  | _, _ => throw (.unknownType type version)

end Wire

namespace Message

def encode (message : Message) : Bytes :=
  Wire.uint16 message.version ++ Wire.uint16 message.payload.messageType ++
    Wire.body message.payload

/-- The version and the type at the front of a payload. -/
def header? : Bytes → Option (UInt16 × UInt16)
  | a :: b :: c :: d :: _ =>
      some (UInt16.ofNat (256 * a.toNat + b.toNat), UInt16.ofNat (256 * c.toNat + d.toNat))
  | _ => none

/-- Read a message from the front of some bytes. -/
def decode (bytes : Bytes) : Except DecodeError Message :=
  match header? bytes with
  | none => .error .missingHeader
  | some (version, type) =>
      match Wire.readBody type version ⟨4, bytes.drop 4⟩ with
      | .ok (payload, _) => .ok ⟨version, payload⟩
      | .error reason => .error reason

/-- Read a message from hexadecimal text; text of another form has no header. -/
def decodeHex (text : String) : Except DecodeError Message :=
  match Hex.decode text with
  | .ok bytes => decode bytes
  | .error _ => .error .missingHeader

end Message

namespace Payload

/-- A payload with its usual version. -/
def toMessage (payload : Payload) : Message := ⟨payload.defaultVersion, payload⟩

end Payload
end TokenOverlay
