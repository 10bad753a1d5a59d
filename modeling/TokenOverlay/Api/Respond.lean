import TokenOverlay.Api.Target
import TokenOverlay.Api.Submission
import TokenOverlay.Api.View
import TokenOverlay.Chain.Local

namespace TokenOverlay

/-!
The query interface: which requests there are, and what is answered to them.
Everything but the submission of a transaction only reads.
-/

structure Request where
  method : String
  target : String
  /-- Whether the body is declared to be JSON. -/
  jsonBody : Bool
  body : String
deriving DecidableEq, Repr

/-- An answer; one that is not JSON has no body here. -/
structure Response where
  status : Nat
  body : Option Json

/-- Why a request that reached its handler is refused. -/
inductive ApiError where
  | notFound (text : String)
  | invalidRequest (text : String)
  | internal (text : String)
deriving DecidableEq, Repr

namespace ApiError

def status : ApiError → Nat
  | notFound _ => 404
  | invalidRequest _ => 400
  | internal _ => 500

def text : ApiError → String
  | notFound text => text
  | invalidRequest text => text
  | internal text => text

def response (e : ApiError) : Response := ⟨e.status, some (.object [("error", .text e.text)])⟩

/-- What a caller did wrong is told in plain words, all else is a fault of the service. -/
def ofSourceError : SourceError → ApiError
  | .parseError text => invalidRequest text
  | .unsupported text => invalidRequest text
  | error => internal error.message

end ApiError

/-- What answers are drawn from. -/
structure Api where
  engine : Engine
  sourceName : String
  network : String
  /-- The time that the health answer bears. -/
  now : String
  /-- The chain that takes submissions, if there is one. -/
  chain : Option LocalChain

namespace Api

def version : String := "0.2.0"

def endpoints : List String := [
  "/api/health",
  "/api/status",
  "/api/balances/\x7baddress\x7d",
  "/api/balances/\x7baddress\x7d/\x7bproperty\x7d",
  "/api/properties",
  "/api/properties/\x7bid\x7d",
  "/api/crowdsales/active",
  "/api/crowdsales/\x7bid\x7d",
  "/api/dex/offers",
  "/api/transactions/\x7btxid\x7d",
  "/api/transactions/raw",
  "/api/sto/\x7btxid\x7d",
  "/api/activations"]

/-- What a request can be about.  Segments are those of the path, escapes and all. -/
inductive Route where
  | root
  | health
  | status
  | balance (address property : List Char)
  | balances (address : List Char)
  | properties
  | property (id : List Char)
  | activeCrowdsales
  | crowdsale (id : List Char)
  | offers
  | submission
  | transaction (txid : List Char)
  | distribution (txid : List Char)
  | activations
deriving DecidableEq, Repr

namespace Route

/-- A parameter at the end of a path must not be empty. -/
def withLast (segment : List Char) (route : Route) : Option Route :=
  if segment.isEmpty then none else some route

/-- The route of a path; fixed segments come before parameters. -/
def ofSegments (segments : List (List Char)) : Option Route :=
  match segments.map String.ofList, segments with
  | [""], _ => some root
  | ["api", "health"], _ => some health
  | ["api", "status"], _ => some status
  | ["api", "balances", _, _], [_, _, address, id] =>
      withLast id (balance address id)
  | ["api", "balances", _], [_, _, address] => withLast address (balances address)
  | ["api", "properties"], _ => some properties
  | ["api", "properties", _], [_, _, id] => withLast id (property id)
  | ["api", "crowdsales", "active"], _ => some activeCrowdsales
  | ["api", "crowdsales", _], [_, _, id] => withLast id (crowdsale id)
  | ["api", "dex", "offers"], _ => some offers
  | ["api", "transactions", "raw"], _ => some submission
  | ["api", "transactions", _], [_, _, txid] => withLast txid (transaction txid)
  | ["api", "sto", _], [_, _, txid] => withLast txid (distribution txid)
  | ["api", "activations"], _ => some activations
  | _, _ => none

/-- Submissions are posted; everything else is got. -/
def allows (route : Route) (method : String) : Bool :=
  match route with
  | submission => method = "POST"
  | _ => method = "GET" || method = "HEAD"

end Route

def ok (body : Json) : Response := ⟨200, some body⟩

/-- Refused before a handler is reached. -/
def bare (status : Nat) : Response := ⟨status, none⟩

/-- Answer with what a segment stands for. -/
def withText (segment : List Char) (answer : String → Response) : Response :=
  match Target.segmentText? segment with
  | some text => answer text
  | none => bare 400

def rootBody : Json := .object [
  ("name", .text "Metalayer Indexer API"),
  ("version", .text version),
  ("endpoints", Json.ofList .text endpoints)]

def healthBody (now : String) : Json := .object [
  ("status", .text "ok"),
  ("timestamp", .text now)]

def propertyId? (raw : String) : Except ApiError PropertyId :=
  match Text.readNat UInt32.size raw.toList with
  | some id => .ok (UInt32.ofNat id)
  | none => .error (.invalidRequest s!"Invalid property id: {raw}")

/-- What is there, or a word that it is not. -/
def found (text : String) : Option α → Except ApiError α
  | some value => .ok value
  | none => .error (.notFound text)

def answer : Except ApiError Json → Response
  | .ok body => ok body
  | .error e => e.response

def getBalance (e : Engine) (address raw : String) : Except ApiError Json := do
  let id ← propertyId? raw
  let (property, balance) ← found s!"Property {id.toNat} not found" (e.propertyBalance? address id)
  return View.balance address property balance

def getBalances (e : Engine) (address : String) : Json :=
  .list ((e.balancesFor address).map fun (property, balance) =>
    View.balance address property balance)

def getProperty (e : Engine) (raw : String) : Except ApiError Json := do
  let id ← propertyId? raw
  let property ← found s!"Property {id.toNat} not found" (e.propertyInfo? id)
  return View.property property

/-- Whether contributions are asked for; the parameter is given once at most, as `true` or
`false`. -/
def verbose? (parameters : List (String × String)) : Option Bool :=
  match parameters.filter fun parameter => parameter.1 = "verbose" with
  | [] => some false
  | [(_, "true")] => some true
  | [(_, "false")] => some false
  | _ => none

def getCrowdsale (e : Engine) (raw : String) (verbose : Bool) : Except ApiError Json := do
  let id ← propertyId? raw
  let listing ← found s!"Crowdsale for property {id.toNat} not found" (e.crowdsaleListing? id)
  return View.crowdsale listing verbose

def getTransaction (e : Engine) (txid : String) : Except ApiError Json := do
  let (record, divisible) ←
    found s!"Transaction {txid} not found" (e.transactionWithDivisibility? txid)
  return View.transaction record divisible

def getDistribution (e : Engine) (txid : String) : Except ApiError Json := do
  let (receipt, divisible) ←
    found s!"Send-to-owners {txid} not found" (e.distributionWithDivisibility? txid)
  return View.distribution receipt divisible

/-- The answer to a request that only reads. -/
def read (api : Api) (target : Target) : Route → Response
  | .root => ok rootBody
  | .health => ok (healthBody api.now)
  | .status => ok (View.status api.engine.status api.sourceName api.network)
  | .balance address property =>
      withText address fun address => withText property fun property =>
        answer (getBalance api.engine address property)
  | .balances address => withText address fun address => ok (getBalances api.engine address)
  | .properties => ok (Json.ofList View.property api.engine.listProperties)
  | .property id => withText id fun id => answer (getProperty api.engine id)
  | .activeCrowdsales =>
      ok (.list (api.engine.activeCrowdsaleListings.map fun listing =>
        View.crowdsale listing false))
  | .crowdsale id => withText id fun id =>
      match verbose? target.parameters with
      | some verbose => answer (getCrowdsale api.engine id verbose)
      | none => bare 400
  | .offers =>
      ok (.list (api.engine.offersWithDivisibility.map fun (offer, divisible) =>
        View.offer offer divisible))
  | .transaction txid => withText txid fun txid => answer (getTransaction api.engine txid)
  | .distribution txid => withText txid fun txid => answer (getDistribution api.engine txid)
  | .activations => ok (View.activations api.engine.activations)
  | .submission => bare 405

/-- Submit a transaction to the chain inside the process. -/
def submit (api : Api) (submission : Submission) : Response × Api :=
  match api.chain with
  | none =>
      ((ApiError.invalidRequest
        "Raw transaction submission requires the local chain source").response, api)
  | some chain =>
      match chain.submitRaw submission.sender submission.payload submission.reference with
      | (.ok txid, after) =>
          (ok (.object [("txid", .text txid)]), { api with chain := some after })
      | (.error error, after) =>
          ((ApiError.ofSourceError error).response, { api with chain := some after })

/-- The most bytes that a body may have. -/
def largestBody : Nat := 2097152

/-- The answer to a posted body. -/
def post (api : Api) (request : Request) : Response × Api :=
  if !request.jsonBody then (bare 415, api)
  else if largestBody < request.body.utf8ByteSize then (bare 413, api)
  else
    match Submission.parse request.body with
    | .error .malformed => (bare 400, api)
    | .error .illTyped => (bare 422, api)
    | .ok submission => api.submit submission

/-- Answer a request; the answer to a `HEAD` request is that to a `GET` request without its
body. -/
def respond (api : Api) (request : Request) : Response × Api :=
  let target := Target.ofText request.target
  match Route.ofSegments target.segments with
  | none => (bare 404, api)
  | some route =>
      if !route.allows request.method then (bare 405, api)
      else
        match route with
        | .submission => api.post request
        | route =>
            let response := api.read target route
            (if request.method = "HEAD" then bare response.status else response, api)

end Api
end TokenOverlay
