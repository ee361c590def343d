import RateLimit.Http.Message

/-!
# Handlers and layers

A `Handler` serves a request on a replica. It fails with a `Crash`: the fault and
the id of the request, as far as one was given. A layer wraps a handler.

One layer, around the routes, makes responses of the faults that have one. Another
one gives every request an id and binds it to the log while the request is
served. A third one, outside of it, answers what crashed; since the id is no
longer bound by then, the crash carries it.
-/

namespace RateLimit.Http

/-- A fault that nothing inside answered, and the id of the request. -/
structure Crash where
  fault : Fault
  requestId : Option String := none
  deriving Repr, Inhabited

/-- A computation that serves a request. -/
abbrev Serve := ExceptT Crash (StateM Replica)

/-- Serves a request. -/
abbrev Handler := Request → Serve Response

/-- An act as part of serving a request. -/
def serve {α : Type} (act : Act α) : Serve α :=
  ExceptT.adapt (fun fault => { fault }) act

/-- The response to a denied request. -/
def deny (r : Rejection) : Serve Response :=
  match Response.ofRejection r with
  | .ok response => return response
  | .error e => throw { fault := .conversion e }

/-- Binds a request id to the log, or none. -/
def bindId (id : Option String) : StateM Replica Unit :=
  modify fun r => { r with boundId := id }

/-- The longest request id that is taken over. -/
def maxIdLength : Nat := 128

/-- A new request id. -/
def newId : StateM Replica String := do
  let r ← get
  let n := r.issuedIds + 1
  set { r with issuedIds := n }
  return "00000000-0000-0000-0000-" ++ String.ofList (Text.hex 12 n)

/-- The name of the header field with the request id. -/
def idHeader : String := "X-Request-ID"

/-- The request id that a caller chose, unless it is empty or too long. -/
def chosenId? (r : Request) : Option String :=
  (r.header? idHeader).filter fun id => id ≠ "" && id.length ≤ maxIdLength

/-- The id of a request: the one that the caller chose, or a new one. -/
def requestId (r : Request) : StateM Replica String :=
  match chosenId? r with
  | some id => return id
  | none => newId

/-- Gives every request an id, which the log and the response carry. -/
def withRequestId (next : Handler) : Handler := fun request => do
  let id ← requestId request
  bindId (some id)
  let result ← ExceptT.lift (next { request with id := some id }).run
  bindId none
  match result with
  | .ok response => return response.setHeader idHeader id
  | .error crash => throw { crash with requestId := some id }

/-- The record of a crash. -/
def crashRecord (fault : Fault) (id : String) : Log.Record where
  level := Log.error
  logger := Replica.appLogger
  message := "Unhandled " ++ fault.name ++ " [request_id=" ++ id ++ "]"
  attributes := [("request_id", .text id)]
  fault := some fault

/-- The response to a crash. Only a service under test tells what happened. -/
def crashResponse (debug : Bool) (fault : Fault) (id : String) : Response :=
  let error : Json :=
    if debug then .string (fault.name ++ ": " ++ fault.message) else .null
  .json 500 (.object
    (Response.failureMembers "Internal server error" error ++ [("request_id", .string id)]))

/-- Answers what crashed. -/
def answerCrashes (next : Handler) (request : Request) : StateM Replica Response := do
  match ← (next request).run with
  | .ok response => return response
  | .error crash =>
    let id := crash.requestId.getD "unknown"
    modify (Replica.withRecord · (crashRecord crash.fault id))
    return crashResponse (← get).settings.debug crash.fault id

/-- The record of a store that failed an administrative operation. -/
def unavailableRecord (fault : Fault) (key : String) : Log.Record where
  level := Log.error
  logger := Replica.appLogger
  message := "Rate limit store unavailable: " ++ fault.message
  attributes := [("rate_limit_key", .text key)]

/-- The response when the store failed an administrative operation. -/
def unavailableResponse : Response :=
  .json 503 (.object (Response.failureMembers "Service temporarily unavailable" .null))

/-- A response with a status and with what is to be told about it. Some statuses have no body,
and most of these no length. A body has no numbers that are not finite. -/
def detailed? (status : Nat) (detail : Json) : Except Fault Response :=
  if status < 200 ∨ status = 204 ∨ status = 304 then .ok { status }
  else if status = 205 then .ok (.ofBody status none "")
  else if detail.isCompliant then .ok (.json status (.object [("detail", detail)]))
  else .error (.invalid "Out of range float values are not JSON compliant")

/-- Whether header fields can be sent, each character as one byte. -/
def areSendable (headers : Headers) : Bool :=
  headers.all fun field => (field.1 ++ field.2).toList.all (·.toNat < 256)

/-- A response with further header fields. -/
def extended? (headers : Headers) (response : Response) : Except Fault Response :=
  if areSendable headers then .ok (response.setHeaders headers)
  else .error (.invalid "'latin-1' codec can't encode characters: ordinal not in range(256)")

/-- The response that is made of a fault, or the fault that is left: the same one, or one that
comes of making the response. -/
def rendered : Fault → Except Fault Response
  | .http status detail headers => (detailed? status detail).bind (extended? headers)
  | .exceeded rejection => (Response.ofRejection rejection).mapError .conversion
  | .unavailable _ _ => .ok unavailableResponse
  | fault => .error fault

/-- Logs that the store failed an administrative operation. -/
def noteUnavailable (fault : Fault) : Act Unit :=
  match fault with
  | .unavailable key _ => Replica.log (unavailableRecord fault key)
  | _ => pure ()

/-- Answers the faults of which a response is made. -/
def answerFaults (next : Handler) : Handler := fun request =>
  tryCatch (next request) fun crash => do
    serve (noteUnavailable crash.fault)
    match rendered crash.fault with
    | .ok response => return response
    | .error fault => throw { crash with fault }

end RateLimit.Http
