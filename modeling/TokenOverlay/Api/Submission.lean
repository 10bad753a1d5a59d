import TokenOverlay.Json.Text

namespace TokenOverlay

/-!
The body of a request to submit a transaction.  It is read front to back, and
the first fault decides how it is refused: a text that is no JSON up to there,
or JSON that is not a submission.
-/

structure Submission where
  sender : String
  payload : String
  reference : Option String
deriving DecidableEq, Repr

/-- How a body is at fault. -/
inductive BodyFault where
  | malformed
  | illTyped
deriving DecidableEq, Repr

namespace Submission

/-- The fields read so far. -/
structure Draft where
  sender : Option String
  payload : Option String
  reference : Option (Option String)

/-- The fault of a value that is not of the type wanted.  A value that has others in it is
refused before they are looked at. -/
def faultAt (chars : List Char) : BodyFault :=
  match chars with
  | '[' :: _ => .illTyped
  | '\x7b' :: _ => .illTyped
  | _ =>
      match Json.readValue 1 Json.deepest chars with
      | none => .malformed
      | some (.unreadable, _) => .malformed
      | some _ => .illTyped

def readText (chars : List Char) : Except BodyFault (String × List Char) :=
  match Json.skipSpace chars with
  | '"' :: rest =>
      match Json.readString rest with
      | some read => .ok read
      | none => .error .malformed
  | chars => .error (faultAt chars)

def readOptionalText (chars : List Char) : Except BodyFault (Option String × List Char) :=
  match Json.skipSpace chars with
  | 'n' :: 'u' :: 'l' :: 'l' :: rest => .ok (none, rest)
  | 'n' :: _ => .error .malformed
  | chars => (readText chars).map fun (text, rest) => (some text, rest)

/-- The submission that the fields make up. -/
def finish (draft : Draft) : Except BodyFault Submission :=
  match draft.sender, draft.payload with
  | some sender, some payload => .ok ⟨sender, payload, draft.reference.join⟩
  | _, _ => .error .illTyped

/-- Read the value of a member. -/
def readMember (draft : Draft) (name : String) (chars : List Char) :
    Except BodyFault (Draft × List Char) :=
  let value : Except BodyFault (List Char) :=
    match Json.skipSpace chars with
    | ':' :: rest => .ok rest
    | _ => .error .malformed
  if name = "sender" then
    if draft.sender.isSome then .error .illTyped
    else do
      let (text, rest) ← readText (← value)
      return ({ draft with sender := some text }, rest)
  else if name = "payload" then
    if draft.payload.isSome then .error .illTyped
    else do
      let (text, rest) ← readText (← value)
      return ({ draft with payload := some text }, rest)
  else if name = "reference" then
    if draft.reference.isSome then .error .illTyped
    else do
      let (text, rest) ← readOptionalText (← value)
      return ({ draft with reference := some text }, rest)
  else do
    let chars ← value
    match Json.readValue (chars.length + 1) Json.deepest chars with
    | some (_, rest) => return (draft, rest)
    | none => .error .malformed

/-- Read members from the name of one on; `fuel` bounds their number. -/
def readMembers : Nat → Draft → List Char → Except BodyFault (Submission × List Char)
  | 0, _, _ => .error .malformed
  | fuel + 1, draft, chars =>
      match Json.skipSpace chars with
      | '"' :: rest =>
          match Json.readString rest with
          | none => .error .malformed
          | some (name, rest) => do
              let (draft, rest) ← readMember draft name rest
              match Json.skipSpace rest with
              | ',' :: rest => readMembers fuel draft rest
              | '\x7d' :: rest => return (← finish draft, rest)
              | _ => .error .malformed
      | _ => .error .malformed

/-- Go on to the next item of a list, which has to be there. -/
def nextItem (chars : List Char) : Except BodyFault (List Char) :=
  match Json.skipSpace chars with
  | ']' :: _ => .error .illTyped
  | ',' :: rest =>
      match Json.skipSpace rest with
      | ']' :: _ => .error .malformed
      | rest => .ok rest
  | _ => .error .malformed

/-- The fields by position. -/
def readItems (chars : List Char) : Except BodyFault (Submission × List Char) := do
  let (sender, rest) ← readText chars
  let (payload, rest) ← readText (← nextItem rest)
  let (reference, rest) ← readOptionalText (← nextItem rest)
  match Json.skipSpace rest with
  | ']' :: rest => return (⟨sender, payload, reference⟩, rest)
  | _ => .error .malformed

def readChars (chars : List Char) : Except BodyFault (Submission × List Char) :=
  match Json.skipSpace chars with
  | '\x7b' :: rest =>
      match Json.skipSpace rest with
      | '\x7d' :: _ => .error .illTyped
      | rest => readMembers (rest.length + 1) ⟨none, none, none⟩ rest
  | '[' :: rest =>
      match Json.skipSpace rest with
      | ']' :: _ => .error .illTyped
      | rest => readItems rest
  | chars => .error (faultAt chars)

/-- Read a whole body. -/
def parse (body : String) : Except BodyFault Submission := do
  let (submission, rest) ← readChars body.toList
  if (Json.skipSpace rest).isEmpty then return submission else .error .malformed

end Submission
end TokenOverlay
