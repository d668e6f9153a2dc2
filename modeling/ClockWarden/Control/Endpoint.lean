import ClockWarden.Control.Failure
import ClockWarden.Http.Message
import ClockWarden.Supervisor.Status

/-! The control endpoint. A request either is answered at once, or asks for the status of the
supervisor, or asks for a restart under a fake time; the supervisor is called for the last two alone,
and at most once. -/

namespace ClockWarden.Control

open Http Supervisor

/-- What serves the requests: something that restarts the managed process and tells its status. -/
structure TimeControl (m : Type → Type) where
  restartWith : Option String → m (Except Supervisor.Failure Confirmation)
  status : m Status

/-- What a request asks for. -/
inductive Demand where
  | answered (response : Response)
  | status (isHead : Bool)
  | restart (time : FakeTime)
deriving DecidableEq

/-- A failure as the answer to a request. -/
def Failure.response (failure : Failure) : Response :=
  .json failure.status (ErrorBody.text ⟨failure.message⟩)

/-- The largest body that is read. -/
def bodyLimit : Nat := 2097152

/-- Whether a list is longer than a number. -/
def isLonger {α : Type} : List α → Nat → Bool
  | [], _ => false
  | _ :: _, 0 => true
  | _ :: rest, n + 1 => isLonger rest n

/-- Reads the body of a request for a fake time. What follows its first value is not looked at. -/
def readBody (request : Request) : Except Failure TimeRequest :=
  if !request.hasJson then
    .error (.badBody 415 "Expected request with `Content-Type: application/json`")
  else if isLonger request.body bodyLimit then
    .error (.badBody 413 "Failed to buffer the request body: length limit exceeded")
  else
    match TimeRequest.shape.read request.body with
    | .ok (body, _) => .ok body
    | .error fault =>
      let message := fault.placedMessage request.body
      match fault.cause.category with
      | .data =>
        .error (.badBody 422 ("Failed to deserialize the JSON body into the target type: " ++ message))
      | _ => .error (.badBody 400 ("Failed to parse the request body as JSON: " ++ message))

/-- What a request for a fake time asks for. -/
def timeDemand (request : Request) : Demand :=
  match readBody request with
  | .error failure => .answered failure.response
  | .ok body =>
    match FakeTime.ofRequest body.fakeTime with
    | .error refusal =>
      .answered (Failure.supervisor (.badRequest (.fakeTime refusal))).response
    | .ok time => .restart time

def timePath : Bytes := Utf8.encode "/set_time"
def statusPath : Bytes := Utf8.encode "/status"
def healthPath : Bytes := Utf8.encode "/health"

/-- The answer that the endpoint is alive. -/
def healthResponse : Response := .json 200 (singleton "status" (Json.literal "ok"))

/-- What a request asks for: paths are compared byte by byte, and each knows its methods. -/
def Demand.ofRequest (request : Request) : Demand :=
  let path := request.path
  if path = timePath then
    if request.method = "POST" then timeDemand request
    else .answered (.empty 405 (some "POST"))
  else if path = statusPath ∨ path = healthPath then
    if request.method = "GET" ∨ request.method = "HEAD" then
      let isHead : Bool := request.method = "HEAD"
      if path = statusPath then .status isHead
      else .answered (if isHead then healthResponse.headersOnly else healthResponse)
    else .answered (.empty 405 (some "GET,HEAD"))
  else .answered (.empty 404 none)

/-- The answer to a request for the status. -/
def statusResponse (isHead : Bool) (status : Status) : Response :=
  let response := Response.json 200 status.text
  if isHead then response.headersOnly else response

/-- The answer to a request for a restart. -/
def restartResponse : Except Supervisor.Failure Confirmation → Response
  | .ok confirmation => .json 200 (MessageBody.text ⟨confirmation.message⟩)
  | .error failure => (Failure.supervisor failure).response

/-- The log entry of a request for a restart. -/
def requested (time : FakeTime) : Log.Entry :=
  ⟨.info, "time_controller::handlers", "⏰ Fake time requested: " ++ time.text, none⟩

/-- Serves a request. -/
def serve {m : Type → Type} [Monad m] (control : TimeControl m) (log : Log.Entry → m Unit)
    (request : Request) : m Response :=
  match Demand.ofRequest request with
  | .answered response => pure response
  | .status isHead => do
    let status ← control.status
    pure (statusResponse isHead status)
  | .restart time => do
    log (requested time)
    let result ← control.restartWith (some time.text)
    pure (restartResponse result)

end ClockWarden.Control
